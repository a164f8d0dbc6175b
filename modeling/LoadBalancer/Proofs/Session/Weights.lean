import Mathlib
import LoadBalancer.Proofs.Balancer.Chance
import LoadBalancer.Proofs.Session.Accounting
import LoadBalancer.Proofs.Session.Calls
import LoadBalancer.Proofs.Session.Metering
import LoadBalancer.Proofs.Session.Plain

/-!
# Sessions without weights and times

A session is answered as if its routes had been bound with the plain algorithms.

* `SessionStep.plain`, `SessionCommand.plain` – a command with the plain algorithm, if it binds a route;
* `SessionCommand.Same` – two answers to it are the same but for the names of algorithms and choosers;
* `SessionCommand.routed`, `SessionCommand.asked` – the services that requests are routed to, and those that
  choosers are asked about directly, each with the algorithm;
* `SessionStep.plainer_run` – **one step**, one kind of step at a time;
* `SessionCommand.plainer_runAll` – **a whole run**, by induction on its commands;
* `Session.weighted_as_plain` – answers and measurements are the same but for names, and at random the same
  may be chosen.
-/

namespace LoadBalancer

/-! ### Commands -/

/-- The step with the plain algorithm, if it binds a route. -/
def SessionStep.plain : SessionStep → SessionStep
  | .bind name policy => .bind name policy.plain
  | t => t

/-- The algorithms and services of the requests that a step routes. -/
def SessionStep.routings [Url.DomainNames] (s : Session) : SessionStep → List (Algorithm × String)
  | .route name text _ => s.routings name text Request.service?
  | .routeMany name text times _ => if times = 0 then [] else s.routings name text Request.service?
  | .select name service text _ => s.routings name text fun _ => some service
  | _ => []

/-- The algorithm whose chooser is asked directly, with the service that it is asked about. -/
def SessionStep.askings : SessionStep → List (Algorithm × String)
  | .choose (some name) service _ _ _ times =>
    match Algorithm.read name with
    | .ok a => if times = 0 then [] else [(a, service)]
    | .error _ => []
  | _ => []

/-- Two answers to a step are the same; of routes that were bound, the second one is the plain one. -/
def SessionStep.Same : SessionStep → Reply → Reply → Prop
  | .bind _ _, a, a' =>
    ∃ result : Except Error BoundRoute, a = .bound result ∧ a' = .bound (result.map BoundRoute.plain)
  | _, a, a' => a' = a

/-- Two answers to a question about a part are the same; of routes, the second one is the plain one. -/
def SessionPart.Same : SessionPart → Reply → Reply → Prop
  | .route _, a, a' =>
    ∃ route : Except Refusal BoundRoute, a = .diagnostics (route.map BoundRoute.diagnostics) ∧
      a' = .diagnostics (route.map fun r => r.plain.diagnostics)
  | _, a, a' => a' = a

/-- Two answers to a question are the same. Totals and observations may be others if they are those of an
algorithm, and what a collector reads names it. -/
def SessionQuery.Same : SessionQuery → Reply → Reply → Prop
  | .diagnostics part, a, a' => part.Same a a'
  | .total _ filter, a, a' => filter.isAnonymous = true → a' = a
  | .timings _ filter, a, a' =>
    ∃ ns ns', a = .numbers ns ∧ a' = .numbers ns' ∧ (filter.isAnonymous = true → ns'.Perm ns)
  | .exposition, _, _ => True
  | _, a, a' => a' = a

namespace SessionCommand

/-- The command with the plain algorithm, if it binds a route. -/
def plain : SessionCommand → SessionCommand
  | step t => step t.plain
  | ask q => ask q

/-- Two answers to a command are the same but for the names of algorithms and choosers. -/
def Same : SessionCommand → Reply → Reply → Prop
  | step t => t.Same
  | ask q => q.Same

/-- A command and the plain one have the same answer. -/
def SameAnswer (e e' : SessionCommand × Reply) : Prop := e'.1 = e.1.plain ∧ e.1.Same e.2 e'.2

/-- The algorithms and services of the requests that are routed by commands in turn. -/
def routed [Url.DomainNames] (s : Session) : List SessionCommand → List (Algorithm × String)
  | [] => []
  | step t :: rest => t.routings s ++ routed (t.run s) rest
  | ask _ :: rest => routed s rest

/-- The algorithms whose choosers are asked directly, with the services that they are asked about. -/
def asked : List SessionCommand → List (Algorithm × String)
  | [] => []
  | step t :: rest => t.askings ++ asked rest
  | ask _ :: rest => asked rest

/-- A service to which requests are routed in weighted turns gets none in plain turns, and neither of the
two choosers that pick in turn is asked about it directly. -/
def TurnsApart [Url.DomainNames] (s : Session) (commands : List SessionCommand) : Prop :=
  ∀ e ∈ routed s commands, e.1 = .weightedRoundRobin →
    ∀ a ∈ [Algorithm.roundRobin, .weightedRoundRobin],
      (a, e.2) ∉ asked commands ∧ (a = .roundRobin → (a, e.2) ∉ routed s commands)

end SessionCommand

variable {weighted : String → Bool} {s s' : Session}

/-! ### Steps -/

namespace SessionStep

open Session

variable (h : Session.Plainer weighted s s')

include h

/-- **One step**, one kind of step at a time. -/
theorem plainer_run [Url.DomainNames] {t : SessionStep} (hsuits : ∀ e ∈ t.routings s, Suits weighted e)
    (hspares : ∀ e ∈ t.askings, Spares weighted e) :
    Session.Plainer weighted (t.run s) (t.plain.run s') ∧
      t.Same (t.answer s) (t.plain.answer s') := by
  have htold : ∀ {α : Type} (f : α → Reply) {p p' : α × Session}, Twin (Session.Plainer weighted) p p' →
      Session.Plainer weighted p.2 p'.2 ∧ f p'.1 = f p.1 := fun f _ _ hp => ⟨hp.2, congrArg f hp.1⟩
  cases t with
  | bind name policy =>
      obtain ⟨hanswer, hafter⟩ := h.bind name policy
      exact ⟨hafter, _, rfl, congrArg Reply.bound hanswer⟩
  | route name text heldName => exact htold .routed (h.route heldName hsuits)
  | routeMany name text times heldName =>
      refine htold .routedOften (h.routeMany times heldName fun htimes => ?_)
      rwa [routings, if_neg htimes] at hsuits
  | select name service text heldName => exact htold .selected (h.select service heldName hsuits)
  | choose algorithm service policy request records times =>
      have hchooser : s'.chooser? algorithm = s.chooser? algorithm := by
        have hchoosers : s'.balancer.choosers = s.balancer.choosers := by rw [h.balancer.rest]
        unfold Session.chooser?
        rw [hchoosers]
      have hfollows : ∀ chooser, s.chooser? algorithm = .ok chooser → times ≠ 0 →
          Chooser.Follows weighted service chooser chooser := by
        intro chooser hfound htimes
        refine h.follows_self hfound ?_
        rintro name a rfl hread
        refine hspares _ ?_
        simp [askings, hread, htimes]
      simp only [plain, run, answer, hchooser]
      cases hfound : s.chooser? algorithm with
      | error e => exact ⟨h, rfl⟩
      | ok chooser =>
          exact htold (fun results => .chosen (.ok results))
            (h.choose policy request records times (hfollows chooser hfound))
  | openConnection name record => exact ⟨h.openConnection name record, rfl⟩
  | release name => exact htold .closed (h.release name)
  | parts name => exact htold .selection (h.parts name)
  | exchange name ending => exact htold .closed (h.exchange name ending)
  | observe service records => exact ⟨(h.onRegistry _).2, rfl⟩
  | status record => exact htold .status (h.onRegistry (·.statusOf record))
  | connect record times => exact htold .number (h.connect record times)
  | disconnect id => exact htold .number (h.close id)
  | mark id health => exact htold .health (h.onRegistry (·.mark id health))
  | markInTurn id times => exact htold .health (h.markInTurn id true none times)
  | evict id => exact htold .flag (h.onRegistry (·.evict id))
  | add record => exact ⟨(h.onDiscovery _).2, rfl⟩
  | remove service id => exact htold .flag (h.onDiscovery (·.remove service id))
  | replace service records => exact ⟨(h.onDiscovery _).2, rfl⟩
  | matching request set => exact htold .texts (h.matching request set)
  | count name tags n => exact ⟨h.onBalancer (h.balancer.told [.count name tags n]), rfl⟩
  | time name tags nanos => exact ⟨h.onBalancer (h.balancer.told [.time name tags nanos]), rfl⟩
  | clearMetrics => exact ⟨h.clearMetrics, rfl⟩
  | follow script => exact ⟨h.follow script, rfl⟩
  | subscribe name => exact ⟨h.subscribe name, rfl⟩
  | healthChanges name => exact htold .healthChanges (h.healthChanges name)
  | watch name => exact ⟨h.watch name, rfl⟩
  | serviceChanges name => exact htold .serviceChanges (h.serviceChanges name)
  | slept => exact htold .number h.slept
  | seen => exact htold .pools h.seen

end SessionStep

/-! ### Questions -/

theorem SessionQuery.same_answer (h : Session.Plainer weighted s s') (q : SessionQuery) :
    q.Same (q.answer s) (q.answer s') := by
  have hregistry : ∀ f : Registry → Reply, f s'.balancer.registry = f s.balancer.registry :=
    fun f => congrArg f h.registry
  have hchoosers : ∀ f : Choosers → Reply, f s'.balancer.choosers = f s.balancer.choosers :=
    fun f => congrArg f (by rw [h.balancer.rest])
  have hrules : s'.balancer.rules = s.balancer.rules := by rw [h.balancer.rest]
  cases q with
  | isAlive lenient id => exact hregistry fun r => .flag (r.isAlive lenient id)
  | connections id => exact hregistry fun r => .number (r.connections id)
  | all service => exact hregistry fun r => .statuses (r.all service)
  | reachable lenient service => exact hregistry fun r => .statuses (r.reachable lenient service)
  | snapshot service => exact hregistry fun r => .reports (r.snapshot service)
  | stats => exact hregistry fun r => .stats r.stats
  | list service => exact congrArg (fun d : Discovery => Reply.records (d.list service)) h.discovery
  | algorithms => exact hchoosers fun c => .algorithms c.algorithms
  | hasFallback => exact hchoosers fun c => .flag c.fallback.isSome
  | resolve algorithm => exact hchoosers fun c => .chooser ((Algorithm.read algorithm).bind c.resolve)
  | rules set => exact congrArg (fun r : RuleBook => Reply.texts ((r.rules set).map Rule.diagnostics)) hrules
  | held name => exact congrArg Reply.held (h.held? name)
  | diagnostics part =>
      cases part with
      | registry => exact hregistry fun r => .diagnostics (.ok r.diagnostics)
      | choosers => exact hchoosers fun c => .diagnostics (.ok c.diagnostics)
      | balancer =>
          have hbalancer : s'.balancer.diagnostics = s.balancer.diagnostics := by rw [h.balancer.rest]; rfl
          exact congrArg (fun text => Reply.diagnostics (.ok text)) hbalancer
      | route name =>
          have hmap : ∀ (r : Except Refusal BoundRoute) (f : BoundRoute → String),
              (r.map BoundRoute.plain).map f = r.map fun bound => f bound.plain := by
            intro r f
            cases r <;> rfl
          refine ⟨s.route? name, rfl, congrArg Reply.diagnostics ?_⟩
          rw [SessionPart.text, h.route?, hmap]
  | total name filter => exact fun hfilter => congrArg Reply.number (h.balancer.sink.total name hfilter)
  | timings name filter => exact ⟨_, _, rfl, rfl, fun hfilter => h.balancer.sink.timings name hfilter⟩
  | exposition => trivial

/-! ### Runs -/

namespace SessionCommand

/-- **A whole run**, by induction on its commands. -/
theorem plainer_runAll [Url.DomainNames] (h : Session.Plainer weighted s s')
    {commands : List SessionCommand} (hsuits : ∀ e ∈ routed s commands, Suits weighted e)
    (hspares : ∀ e ∈ asked commands, Spares weighted e) :
    List.Forall₂ SameAnswer (transcript s commands) (transcript s' (commands.map plain)) ∧
      List.Forall₂ Sink.Alike (sinks s commands) (sinks s' (commands.map plain)) := by
  induction commands generalizing s s' with
  | nil => exact ⟨.nil, .nil⟩
  | cons c rest ih =>
      cases c with
      | ask q =>
          obtain ⟨hanswers, hsinks⟩ := ih h hsuits hspares
          exact ⟨.cons ⟨rfl, q.same_answer h⟩ hanswers, .cons h.balancer.sink hsinks⟩
      | step t =>
          obtain ⟨hafter, hsame⟩ := SessionStep.plainer_run h
            (fun e he => hsuits e (List.mem_append_left _ he))
            (fun e he => hspares e (List.mem_append_left _ he))
          obtain ⟨hanswers, hsinks⟩ := ih hafter (fun e he => hsuits e (List.mem_append_right _ he))
            (fun e he => hspares e (List.mem_append_right _ he))
          exact ⟨.cons ⟨rfl, hsame⟩ hanswers, .cons hafter.balancer.sink hsinks⟩

end SessionCommand

/-! ### The beginning -/

/-- With the default choosers, and perhaps one for algorithms that have none. -/
theorem Choosers.resolve_of_defaults {c : Choosers}
    (h : c.byAlgorithm = Choosers.withDefaults.byAlgorithm) (a : Algorithm) :
    c.resolve a = .ok (.ofAlgorithm a) := by
  unfold resolve
  rw [h]
  cases a <;> rfl

theorem Session.plainer_start {setup : Setup}
    (h : setup.choosers.byAlgorithm = Choosers.withDefaults.byAlgorithm) (ambient : Ambient)
    (weighted : String → Bool) :
    Session.Plainer weighted (setup.start ambient).2 (setup.start ambient).2 where
  balancer := {
    rest := rfl
    sink := .refl _
    cursors := fun _ _ _ => rfl
    weightedCursors := fun _ _ => rfl
    choosers := by
      have hkept : (setup.choosers.registerAll setup.registrations).2 = setup.choosers :=
        Choosers.registerAll_of_full (fun a => by rw [h]; cases a <;> rfl) _
      show ∀ a, (setup.choosers.registerAll setup.registrations).2.resolve a = _
      rw [hkept]
      exact Choosers.resolve_of_defaults h }
  routes := fun _ => rfl
  choosers := by
    intro name bound hget
    cases hget
  held := rfl
  healthReaders := rfl
  serviceReaders := rfl
  askedAt := rfl

/-! ### The main statement -/

/-- **Weights and times make no difference.** In a session with the default choosers, every command has the
same answer if all routes are bound with the plain algorithms, but for the names of algorithms and choosers:
the same instances are chosen, choices fail in the same way, targets and numbers of connections are the same;
and after every command the measurements are the same but for the tag that names the algorithm. Whatever
weights the instances have, they do not matter. Of a service to which requests are routed in weighted turns,
neither routes in plain turns nor direct questions to the choosers that pick in turn may use up turns.

Wherever a chooser is called in a session, the chooser for random choice and the one for weighted random
choice may answer the same: each of the different candidates that may get requests, and nothing else, or one
failure if there are none. -/
theorem Session.weighted_as_plain [Url.DomainNames] {setup : Setup}
    (hchoosers : setup.choosers.byAlgorithm = Choosers.withDefaults.byAlgorithm) (ambient : Ambient) :
    let start := (setup.start ambient).2
    (∀ commands, SessionCommand.TurnsApart start commands →
      let plain := commands.map SessionCommand.plain
      List.Forall₂ SessionCommand.SameAnswer (SessionCommand.transcript start commands)
          (SessionCommand.transcript start plain) ∧
        List.Forall₂ Sink.Alike (SessionCommand.sinks start commands)
          (SessionCommand.sinks start plain)) ∧
    ∀ steps, ∀ c ∈ SessionStep.callsAll start steps, ∀ a ∈ [Algorithm.random, .weightedRandom],
      (c.under a).possible =
        if c.pool = [] then {.error c.failure} else {result | ∃ m ∈ c.pool, result = .ok m.record} := by
  intro start
  refine ⟨fun commands happart => ?_, fun steps c hc a ha => ?_⟩
  · let weighted := fun service =>
      decide ((Algorithm.weightedRoundRobin, service) ∈ SessionCommand.routed start commands)
    refine SessionCommand.plainer_runAll (Session.plainer_start hchoosers ambient weighted) ?_ ?_
    · rintro ⟨a, service⟩ he
      refine ⟨?_, ?_⟩
      · rintro rfl
        refine decide_eq_false fun hweighted => ?_
        exact (happart _ hweighted rfl .roundRobin (by decide)).2 rfl he
      · rintro rfl
        exact decide_eq_true he
    · rintro ⟨a, service⟩ he hturns
      refine decide_eq_false fun hweighted => ?_
      exact (happart _ hweighted rfl a (by simpa using hturns)).1 he
  · have hreachable : start.Reachable := ⟨setup, ambient, [], rfl⟩
    have hsound := ((Session.through_runAll start steps).sound hreachable.sound).1 c hc
    exact Call.possible_under ha hsound

/-- A weighted service with instances of different weights, one of them malformed, next to a plain service. -/
theorem Session.weighted_as_plain_two :
    let instances := [{ Instance.plain "a" "s" "10.0.0.1" 80 with metadata := .ofList [("weight", "9")] },
      { Instance.plain "b" "s" "10.0.0.2" 80 with metadata := .ofList [("weight", "-")] },
      Instance.plain "c" "t" "10.0.0.3" 80]
    let setup : Setup := ⟨.memory .empty, true, .withDefaults, [], .empty, instances, []⟩
    let policy := fun algorithm => { Policy.default with algorithm, fallbackToAll := true, lenient := true }
    let text : RequestText := ⟨"lb://s/", [], none, .empty⟩
    let steps : List SessionStep :=
      [.bind "w" (policy .weightedRoundRobin), .bind "t" (policy .weightedLeastTime),
        .bind "r" (policy .roundRobin), .bind "x" (policy .weightedRandom),
        .routeMany "w" text 3 fun _ => none, .select "r" "t" text none, .route "t" text (some "h"),
        .route "t" text (some "k"), .route "x" text none]
    let start := (setup.start ⟨id, id⟩).2
    let commands := steps.map SessionCommand.step ++ [.ask (.total Metric.selections [("service", "s")])]
    SessionCommand.TurnsApart start commands ∧
      List.Forall₂ SessionCommand.SameAnswer (SessionCommand.transcript start commands)
        (SessionCommand.transcript start (commands.map SessionCommand.plain)) ∧
      (SessionStep.callsAll start steps).length = 7 ∧
      ∀ c ∈ SessionStep.callsAll start steps,
        (c.under .weightedRandom).possible = (c.under .random).possible := by
  intro instances setup policy text steps start commands
  have happart : SessionCommand.TurnsApart start commands := by
    unfold SessionCommand.TurnsApart
    decide +kernel
  have hlength : (SessionStep.callsAll start steps).length = 7 := by decide +kernel
  obtain ⟨hplain, hchance⟩ := @weighted_as_plain _ setup rfl ⟨id, id⟩
  refine ⟨happart, (hplain commands happart).1, hlength, fun c hc => ?_⟩
  rw [hchance steps c hc .weightedRandom (by decide), hchance steps c hc .random (by decide)]

/-- Two ways in which the plain algorithms make a difference: the weighted chooser is asked directly about a
service whose requests it routes, and so uses up a turn; or it is not the default one. -/
theorem Session.weighted_unlike_plain :
    let instances := [Instance.plain "a" "s" "10.0.0.1" 80, Instance.plain "b" "s" "10.0.0.2" 80]
    let policy := fun algorithm => { Policy.default with algorithm, fallbackToAll := true, lenient := true }
    let text : RequestText := ⟨"lb://s/", [], none, .empty⟩
    let request := Request.ofTarget ⟨"lb", none, .bare "", none, none⟩
    let routes : List SessionStep := [.bind "r" (policy .weightedRoundRobin), .route "r" text none]
    let asks : List SessionStep := [.choose (some "WRR") "s" (policy .roundRobin) request instances 1]
    let start := fun (choosers : Choosers) (registrations : List (String × Strategy)) =>
      (Setup.start ⟨.memory .empty, true, choosers, registrations, .empty, instances, []⟩ ⟨id, id⟩).2
    let default := start .withDefaults []
    let custom := start .empty [("RR", .ofAlgorithm .roundRobin), ("WRR", .noop)]
    let word := fun result : Except Failure Instance => result.toOption.map Instance.id
    let told := fun (s : Session) (steps : List SessionStep) =>
      (SessionCommand.transcript s (steps.map .step)).map fun e =>
        match e.2 with
        | .routed (.ok (.ok chosen, _)) => [some chosen.id]
        | .routed _ => [none]
        | .chosen (.ok results) => results.map word
        | _ => []
    (SessionCommand.routed default ((routes ++ asks).map .step) = [(.weightedRoundRobin, "s")] ∧
      told default (routes ++ asks) = [[], [some "a"], [some "b"]] ∧
      told default ((routes ++ asks).map SessionStep.plain) = [[], [some "a"], [some "a"]]) ∧
    (SessionCommand.routed custom (routes.map .step) = [(.weightedRoundRobin, "s")] ∧
      told custom routes = [[], [none]] ∧
      told custom (routes.map SessionStep.plain) = [[], [some "a"]]) := by
  decide +kernel

end LoadBalancer

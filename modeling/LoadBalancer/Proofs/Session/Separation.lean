import Mathlib
import LoadBalancer.Proofs.Session.Twins

/-!
# Services do not influence each other

Two sides share one session: its registry, its service list, its choosers with their cursors, its
measurements. As long as every step names nothing but what is on one side, the answers to our commands do not
depend on what the other side does.

* `SessionQuery.isAbout` – the questions about us;
* `Side.separates` – every step of a script is a step of one side;
* `SessionCommand.told` – our commands in turn, with their answers;
* `SessionCommand.Thinned` – a script without some commands of the other side;
* `SessionCommand.told_thinned` – **a whole run**;
* `Session.sides_separate` – leaving commands of the other side out changes no answer to ours;
* `Session.sides_leak` – how answers change if a step names something on both sides.
-/

namespace LoadBalancer

open Session

variable {side : Side} {s s' : Session}

/-! ### Questions -/

namespace SessionQuery

/-- The question is about something of ours, or about what no side changes. -/
def isAbout (side : Side) : SessionQuery → Bool
  | isAlive _ id => side.ids id
  | connections id => side.ids id
  | all service => side.services service
  | reachable _ service => side.services service
  | snapshot service => side.services service
  | list service => side.services service
  | held name => side.names name
  | total _ filter => side.reads filter
  | stats => false
  | diagnostics .registry => false
  | diagnostics .balancer => false
  | timings _ _ => false
  | exposition => false
  | _ => true

theorem answer_of_alike (hs : s.Apart side) (h : Alike side s s') {q : SessionQuery}
    (hq : q.isAbout side = true) : q.answer s' = q.answer s := by
  have hregistry := h.balancer.registry
  have hapart := hs.balancer.registry
  cases q with
  | isAlive lenient id => exact congrArg Reply.flag (hregistry.isAlive lenient hq)
  | connections id => exact congrArg Reply.number (hregistry.connections hq)
  | all service => exact congrArg Reply.statuses (hregistry.all hapart hq)
  | reachable lenient service => exact congrArg Reply.statuses (hregistry.reachable hapart hq lenient)
  | snapshot service => exact congrArg Reply.reports (hregistry.snapshot hapart hq)
  | stats => cases hq
  | list service => exact congrArg Reply.records (h.balancer.lists service hq)
  | algorithms => simp only [answer, h.balancer.choosers]
  | hasFallback => simp only [answer, h.balancer.choosers]
  | resolve algorithm => simp only [answer, h.balancer.choosers]
  | rules set => simp only [answer, h.balancer.rules]
  | held name => exact congrArg Reply.held (h.held? hq)
  | diagnostics part =>
      cases part with
      | registry => cases hq
      | balancer => cases hq
      | choosers => simp only [answer, SessionPart.text, h.balancer.choosers]
      | route name => simp only [answer, SessionPart.text, Session.route?, h.routes]
  | total name filter => exact congrArg Reply.number (h.balancer.sink.total name filter hq)
  | timings name filter => cases hq
  | exposition => cases hq

end SessionQuery

/-! ### Commands -/

namespace SessionCommand

/-- The answer is about us, and not about everything that has happened. -/
def isPromised (side : Side) : SessionCommand → Bool
  | step t => t.isPromised
  | ask q => q.isAbout side

/-- Our commands of a script in turn, with their answers; other commands are run. -/
def told [Url.DomainNames] (s : Session) : List (Bool × SessionCommand) → List (SessionCommand × Reply)
  | [] => []
  | (true, c) :: rest => (c, c.answer s) :: told (c.run s) rest
  | (false, c) :: rest => told (c.run s) rest

/-- The second script is the first one without some commands of the other side. -/
inductive Thinned : List (Bool × SessionCommand) → List (Bool × SessionCommand) → Prop
  | nil : Thinned [] []
  | keep (e : Bool × SessionCommand) {script script' : List (Bool × SessionCommand)}
      (rest : Thinned script script') : Thinned (e :: script) (e :: script')
  | drop (c : SessionCommand) {script script' : List (Bool × SessionCommand)}
      (rest : Thinned script script') : Thinned ((false, c) :: script) script'

end SessionCommand

namespace Side

/-- The command is a question, or a step of a side. -/
def accepts [Url.DomainNames] (side : Side) (ours : Bool) (s : Session) : SessionCommand → Bool
  | .step t => side.admits ours s t
  | .ask _ => true

/-- Every command of a script is one of its side. -/
def separates [Url.DomainNames] (side : Side) (s : Session) : List (Bool × SessionCommand) → Bool
  | [] => true
  | (ours, c) :: rest => side.accepts ours s c && separates side (c.run s) rest

/-- The same command has, if anything is promised of it, an answer that is the same to us. -/
def SameAnswer (side : Side) (e e' : SessionCommand × Reply) : Prop :=
  e'.1 = e.1 ∧ (e.1.isPromised side = true → Reply.Same side e.2 e'.2)

end Side

/-! ### Sessions with two sides -/

/-- The sides are apart, and every route has the chooser of its algorithm. -/
structure Session.Divided (side : Side) (s : Session) : Prop where
  apart : s.Apart side
  defaults : s.HasDefaults
  within : s.Within .any

namespace Session

theorem divided_start [Url.DomainNames] {setup : Setup} (hchoosers : setup.choosers = .withDefaults)
    (hrecords : ∀ record ∈ setup.records, side.has (side.ids record.id) record = true)
    (ambient : Ambient) : (setup.start ambient).2.Divided side where
  apart := by
    have hlists := Balancer.apart_addAll (Balancer.apart_new side ambient) hrecords
    refine ⟨⟨Registry.apart_empty side, hlists.lists⟩, ?_, ?_⟩
    · intro name h hget
      cases hget
    · intro name r hget
      cases hget
  defaults := hasDefaults_start hchoosers ambient
  within := within_start (Scope.allowsSetup_any setup) ambient

/-- A command of a side leaves the sides apart. -/
theorem Divided.run [Url.DomainNames] {ours : Bool} (hs : s.Divided side) {c : SessionCommand}
    (h : side.accepts ours s c = true) : (c.run s).Divided side := by
  cases c with
  | ask q => exact hs
  | step t =>
      exact ⟨SessionStep.apart_run hs.apart hs.defaults h,
        hasDefaults_run hs.within hs.defaults t,
        within_moves (moves_run [] hs.within (Scope.allowsStep_any t)) hs.within⟩

/-- **One command of the other side** is nothing to us. -/
theorem agree_of_other [Url.DomainNames] (hs : s.Divided side) {c : SessionCommand}
    (h : side.accepts false s c = true) : Agree side s (c.run s) := by
  cases c with
  | ask q => exact .refl s
  | step t =>
      have ht : t.isCommon = false := by
        cases t <;> first | rfl | cases h
      exact (SessionStep.sided_run hs.apart hs.defaults ht h).agree hs.apart

/-- **One command of ours** has the same answer in two sessions that are the same to us. -/
theorem agree_of_ours [Url.DomainNames] (hs : s.Divided side) (hs' : s'.Divided side)
    (h : Agree side s s') {c : SessionCommand} (haccepts : side.accepts true s c = true) :
    Agree side (c.run s) (c.run s') ∧ side.SameAnswer (c, c.answer s) (c, c.answer s') := by
  cases c with
  | ask q => exact ⟨h, rfl, fun hq => .of_eq (SessionQuery.answer_of_alike hs.apart h.toAlike hq)⟩
  | step t =>
      obtain ⟨hafter, hsame⟩ := SessionStep.same_run hs.apart hs'.apart hs.defaults h haccepts
      exact ⟨hafter, rfl, hsame⟩

end Session

theorem Side.accepts_of_alike [Url.DomainNames] {ours : Bool} (h : Alike side s s') (c : SessionCommand) :
    side.accepts ours s' c = side.accepts ours s c := by
  cases c with
  | ask q => rfl
  | step t => exact SessionStep.admits_of_alike h t

/-- **A whole run**, by induction on the script: commands of ours are run in both sessions, commands of the
other side are nothing to us where they are run. -/
theorem SessionCommand.told_thinned [Url.DomainNames] {script script' : List (Bool × SessionCommand)}
    (hthinned : Thinned script script') (hs : s.Divided side) (hs' : s'.Divided side)
    (h : Agree side s s') (hseparates : side.separates s script = true) :
    List.Forall₂ side.SameAnswer (told s script) (told s' script') := by
  induction hthinned generalizing s s' with
  | nil => exact .nil
  | keep e rest ih =>
      obtain ⟨ours, c⟩ := e
      obtain ⟨haccepts, hlater⟩ := Bool.and_eq_true_iff.mp hseparates
      have haccepts' := (Side.accepts_of_alike h.toAlike c).trans haccepts
      cases ours with
      | true =>
          obtain ⟨hafter, hsame⟩ := agree_of_ours hs hs' h haccepts
          exact .cons hsame (ih (hs.run haccepts) (hs'.run haccepts') hafter hlater)
      | false =>
          have hafter := ((agree_of_other hs haccepts).symm.trans h).trans (agree_of_other hs' haccepts')
          exact ih (hs.run haccepts) (hs'.run haccepts') hafter hlater
  | drop c rest ih =>
      obtain ⟨haccepts, hlater⟩ := Bool.and_eq_true_iff.mp hseparates
      exact ih (hs.run haccepts) hs' ((agree_of_other hs haccepts).symm.trans h) hlater

/-! ### The main statement -/

/-- **Services do not influence each other.** Leaving steps of the other side out of a session with default
choosers changes no answer to a command of ours: which instances are chosen, failures, targets, numbers of
connections, health, lists, and totals under filters that name a service or an instance of ours; and,
as long as no reader has lost any, the changes of health of our instances. The sides may share routes and
choosers. Every step names nothing but what is on one side: services, instances with the services that
their records name, and names under which selections are held. The rules that it asks forget no instance
of the other side, which is no condition on rules that are functions of the request. Nothing of ours is
chosen at random. -/
theorem Session.sides_separate [Url.DomainNames] (side : Side) {setup : Setup}
    (hchoosers : setup.choosers = .withDefaults)
    (hrecords : ∀ record ∈ setup.records, side.has (side.ids record.id) record = true)
    (ambient ambient' : Ambient) {script script' : List (Bool × SessionCommand)}
    (hseparates : side.separates (setup.start ambient).2 script = true)
    (hthinned : SessionCommand.Thinned script script') :
    List.Forall₂ side.SameAnswer (SessionCommand.told (setup.start ambient).2 script)
      (SessionCommand.told (setup.start ambient').2 script') := by
  have hs : (setup.start ambient).2.Divided side := divided_start hchoosers hrecords ambient
  have hs' : (setup.start ambient').2.Divided side := divided_start hchoosers hrecords ambient'
  -- the two worlds differ in what neither clock nor chooser of ours looks at
  have hstart : Agree side (setup.start ambient).2 (setup.start ambient').2 :=
    ⟨⟨{ Balancer.Agree.refl (setup.start ambient).2.balancer with }, rfl, fun _ _ => rfl⟩, fun _ => rfl⟩
  exact SessionCommand.told_thinned hthinned hs hs' hstart hseparates

/-- Two services share one chooser that picks in turn. What is chosen for the one, and how its instances
change, hangs on nothing that is done for the other. -/
theorem Session.sides_separate_shared :
    let side : Side := ⟨(· ∈ ["a", "b"]), (· == "s"), (· == "h")⟩
    let records := [Instance.plain "a" "s" "10.0.0.1" 80, Instance.plain "b" "s" "10.0.0.2" 80,
      Instance.plain "x" "t" "10.0.0.3" 80]
    let setup : Setup := ⟨.memory .empty, true, .withDefaults, [], .empty, records, []⟩
    let policy : Policy := { Policy.default with fallbackToAll := true, lenient := true }
    let text : RequestText := ⟨"lb://s/", [], none, .empty⟩
    let script : List (Bool × SessionCommand) :=
      [(true, .step (.bind "r" policy)), (true, .step (.subscribe "w")),
        (true, .step (.select "r" "s" text (some "h"))), (false, .step (.select "r" "t" text none)),
        (true, .step (.route "r" text none)), (false, .step (.mark "x" .unhealthy)),
        (true, .step (.mark "b" .healthy)), (true, .step (.healthChanges "w")),
        (true, .ask (.connections "a")), (true, .ask (.total Metric.selections [("service", "s")]))]
    let script' := script.filter Prod.fst
    let start := (setup.start ⟨id, id⟩).2
    side.separates start script = true ∧
      (SessionCommand.told start script).all (fun e => e.1.isPromised side) = true ∧
      List.Forall₂ side.SameAnswer (SessionCommand.told start script)
        (SessionCommand.told start script') := by
  intro side records setup policy text script script' start
  have hrecords : ∀ record ∈ setup.records, side.has (side.ids record.id) record = true := by
    decide +kernel
  have hseparates : side.separates start script = true := by decide +kernel
  have hthinned : SessionCommand.Thinned script script' :=
    .keep _ (.keep _ (.keep _ (.drop _ (.keep _ (.drop _ (.keep _ (.keep _ (.keep _ (.keep _ .nil)))))))))
  exact ⟨hseparates, rfl, sides_separate side rfl hrecords ⟨id, id⟩ ⟨id, id⟩ hseparates hthinned⟩

/-- Four ways in which leaving out what is done for one service changes what is known of the instances of
another: a reader loses what was announced before so many changes of the one, a third service lists
instances of both, a rule that has the registry at hand and is asked about the one forgets an instance of
the other, and a selection is held under the name of another. -/
theorem Session.sides_leak :
    let a := Instance.plain "a" "s" "10.0.0.1" 80
    let x := Instance.plain "x" "t" "10.0.0.2" 80
    let policy : Policy := { Policy.default with fallbackToAll := true, lenient := true }
    let text : RequestText := ⟨"lb://s/", [], none, .empty⟩
    let after := fun (rules : RuleBook) (records : List Instance) (script : List (Bool × SessionStep)) =>
      let setup : Setup := ⟨.memory .empty, true, .withDefaults, [], rules, records, []⟩
      SessionStep.runAll (setup.start ⟨id, id⟩).2 (script.map Prod.snd)
    let ours := fun script : List (Bool × SessionStep) => script.filter Prod.fst
    let overrun : List (Bool × SessionStep) :=
      [(true, .observe "s" [a]), (true, .subscribe "w"), (true, .mark "a" .healthy),
        (false, .observe "t" [x]), (false, .markInTurn "x" 1024)]
    let shared : List (Bool × SessionStep) :=
      [(true, .bind "r" { policy with algorithm := .leastConnections }), (true, .observe "s" [a]),
        (false, .connect x 1), (true, .select "r" "u" text (some "h"))]
    let forgotten : List (Bool × SessionStep) :=
      [(true, .bind "r" { policy with ruleSet := "q" }), (true, .observe "s" [a]),
        (false, .select "r" "t" text (some "k"))]
    let displaced : List (Bool × SessionStep) :=
      [(true, .bind "r" policy), (true, .select "r" "s" text (some "h")),
        (false, .select "r" "t" text (some "h"))]
    let heard := fun s : Session => (s.healthChanges "w").1.items.map HealthChange.id
    let opened := fun s : Session => s.balancer.registry.connections "a"
    let known := fun s : Session => (s.balancer.registry.all "s").map Status.id
    ("a" ∈ heard (after .empty [] (ours overrun)) ∧ "a" ∉ heard (after .empty [] overrun)) ∧
      (let listed := [{ x with service := "u" }, { a with service := "u" }]
       opened (after .empty listed (ours shared)) = 0 ∧ opened (after .empty listed shared) = 1) ∧
      (let rules := RuleBook.empty.add "q" ⟨"q", .evict "a"⟩
       known (after rules [x] (ours forgotten)) = ["a"] ∧ known (after rules [x] forgotten) = []) ∧
      opened (after .empty [a, x] (ours displaced)) = 1 ∧ opened (after .empty [a, x] displaced) = 0 := by
  decide +kernel

end LoadBalancer

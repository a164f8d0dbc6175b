import Mathlib
import LoadBalancer.Proofs.Balancer.Metering
import LoadBalancer.Proofs.Session.Composition
import LoadBalancer.Session.Command

/-!
# Metering and sessions

In a session, measurements are of no consequence for anything but what reads them.

* `Session.metered` – a session with another meter;
* `SessionStep.uniform_run` – **one step** has one answer, and leaves one session apart from the meter;
* `SessionCommand.unmetered` – the commands and answers that have nothing to do with measurements;
* `SessionCommand.sinks`, `Sink.course` – the sinks that a session has in turn, and those that come out of
  one sink by what it is told;
* `SessionCommand.uniform_runAll` – **a whole run**;
* `Session.metering_inert` – no choice of a sink changes an answer, and all sinks are told of the same
  increments.
-/

namespace LoadBalancer

open Measurement (increments)

namespace Session

/-- The session with another meter. -/
def metered (s : Session) (m : Meter) : Session := { s with balancer := s.balancer.metered m }

variable (s : Session)

/-- What is run on a balancer is run on the balancer of a session. -/
theorem uniform_onBalancer {α : Type} {run : Meter → α × Balancer}
    (h : Uniform Balancer.metered run) :
    Uniform metered fun m => ((run m).1, { s with balancer := (run m).2 }) := by
  obtain ⟨a, b, h⟩ := h
  refine ⟨a, { s with balancer := b }, fun reports => ?_⟩
  obtain ⟨counts, h⟩ := h reports
  refine ⟨counts, fun lapses => ?_⟩
  obtain ⟨ms, hcounts, h⟩ := h lapses
  refine ⟨ms, hcounts, fun sink => ?_⟩
  simp only [h]
  rfl

/-! ### Connections -/

theorem uniform_close (id : String) : Uniform metered fun m => (s.metered m).close id :=
  uniform_onBalancer s (Balancer.uniform_disconnect s.balancer id)

theorem uniform_hold (name : String) (h : Held) :
    Uniform metered fun m => ((), (s.metered m).hold name h) := by
  have hheld : ∀ m, (s.metered m).held.get? name = s.held.get? name := fun _ => rfl
  simp only [hold, hheld]
  cases s.held.get? name with
  | none => exact .pure () { s with held := s.held.put name h }
  | some old =>
      exact (uniform_close s old.id).bind (fun _ t => ((), { t with held := t.held.put name h }))
        (fun _ => rfl) fun _ t => .pure () { t with held := t.held.put name h }

theorem uniform_keep (name : Option String) (record : Instance) :
    Uniform metered fun m => ((), (s.metered m).keep name record) := by
  cases name with
  | some name => exact uniform_hold s name ⟨record.id, some record⟩
  | none => exact (uniform_close s record.id).map (fun _ => ()) fun _ => rfl

theorem uniform_settle (name : Option String) (record : Instance) :
    Uniform metered fun m => (s.metered m).settle name record :=
  (uniform_keep s name record).map
    (fun _ => ⟨record.id, s.balancer.registry.connections record.id⟩) fun _ => rfl

theorem uniform_release (name : String) : Uniform metered fun m => (s.metered m).release name := by
  have hheld : ∀ m, (s.metered m).held? name = s.held? name := fun _ => rfl
  simp only [release, hheld]
  cases s.held? name with
  | ok h => exact (uniform_close (s.forget name) h.id).map .ok fun _ => rfl
  | error e => exact .pure _ s

theorem uniform_parts (name : String) : Uniform metered fun m => (s.metered m).parts name := by
  have hheld : ∀ m, (s.metered m).selection? name = s.selection? name := fun _ => rfl
  simp only [parts, hheld]
  cases s.selection? name with
  | ok selection =>
      exact .pure (Except.ok selection.2)
        { s with held := s.held.put name { selection.1 with record := none } }
  | error e => exact .pure _ s

theorem uniform_exchange (name : String) (ending : Ending) :
    Uniform metered fun m => (s.metered m).exchange name ending := by
  have hheld : ∀ m, (s.metered m).selection? name = s.selection? name := fun _ => rfl
  simp only [exchange, hheld]
  cases s.selection? name with
  | ok selection =>
      let later : Session := { s with balancer :=
        { s.balancer with clock := s.balancer.clock + ending.duration } }
      exact (uniform_close (later.forget name) selection.1.id).map
        (fun _ => .ok (s.balancer.registry.connections selection.1.id)) fun _ => rfl
  | error e => exact .pure _ s

theorem uniform_connect (record : Instance) (times : Nat) :
    Uniform metered fun m => (s.metered m).connect record times := by
  induction times generalizing s with
  | zero => exact .pure (s.balancer.registry.connections record.id) s
  | succ times ih => exact ih { s with balancer := (s.balancer.connect record).2 }

theorem uniform_markInTurn (id : String) (alive : Bool) (last : Option Health) (times : Nat) :
    Uniform metered fun m => (s.metered m).markInTurn id alive last times := by
  induction times generalizing s alive last with
  | zero => exact .pure _ s
  | succ times ih =>
      exact ih (s.mark id (Health.ofVerdict (some alive))).2 (!alive)
        (s.mark id (Health.ofVerdict (some alive))).1

/-! ### Selecting -/

theorem prepare_metered [Url.DomainNames] (name : String) (text : RequestText) (m : Meter) :
    (s.metered m).prepare name text = s.prepare name text := rfl

theorem uniform_route [Url.DomainNames] (name : String) (text : RequestText) (heldName : Option String) :
    Uniform metered fun m => (s.metered m).route name text heldName := by
  cases hprepared : s.prepare name text with
  | error e =>
      exact .silent (.error e) s fun m => route_of_refused ((prepare_metered s name text m).trans hprepared)
  | ok prepared =>
      refine (uniform_onBalancer s (Balancer.uniform_route s.balancer prepared.2 prepared.1)).bind
        (routed heldName)
        (fun m => route_of_prepared ((prepare_metered s name text m).trans hprepared)) ?_
      rintro ⟨f | record, request⟩ t
      · exact .pure _ t
      · exact (uniform_settle t heldName record).map
          (fun chosen => .ok (.ok chosen, request.target)) fun _ => rfl

theorem uniform_select [Url.DomainNames] (name service : String) (text : RequestText)
    (heldName : Option String) :
    Uniform metered fun m => (s.metered m).select name service text heldName := by
  cases hprepared : s.prepare name text with
  | error e =>
      exact .silent (.error e) s fun m => select_of_refused ((prepare_metered s name text m).trans hprepared)
  | ok prepared =>
      refine (uniform_onBalancer s
        (Balancer.uniform_select s.balancer service prepared.2 prepared.1)).bind (selected heldName)
        (fun m => select_of_prepared ((prepare_metered s name text m).trans hprepared)) ?_
      rintro (f | record) t
      · exact .pure _ t
      · exact (uniform_settle t heldName record).map .ok fun _ => rfl

theorem uniform_keepChosen (heldName : Option String) (result : Except Failure Instance) :
    Uniform metered fun m => ((), keepChosen heldName result (s.metered m)) := by
  cases result with
  | ok record => exact uniform_keep s heldName record
  | error f => exact .pure () s

/-- By induction on how often a request is routed. -/
theorem uniform_routeTimes [Url.DomainNames] (bound : BoundRoute) (request : Request)
    (name : Nat → Option String)
    (n i : Nat) : Uniform metered fun m => routeTimes bound request name n i (s.metered m) := by
  induction n generalizing i s with
  | zero => exact .pure [] s
  | succ n ih =>
      let later (t : Session) := routeTimes bound request name n (i + 1) t
      refine (uniform_onBalancer s (Balancer.uniform_route s.balancer request bound)).bind
        (fun answer t => (answer.1 :: (later (keepChosen (name i) answer.1 t)).1,
          (later (keepChosen (name i) answer.1 t)).2)) (fun m => routeTimes_succ bound request _ name n i) ?_
      intro answer t
      exact (uniform_keepChosen t (name i) answer.1).bind
        (fun _ u => (answer.1 :: (later u).1, (later u).2)) (fun _ => rfl)
        fun _ u => (ih u (i + 1)).map (answer.1 :: ·) fun _ => rfl

theorem uniform_routeMany [Url.DomainNames] (name : String) (text : RequestText) (times : Nat)
    (heldName : Nat → Option String) :
    Uniform metered fun m => (s.metered m).routeMany name text times heldName := by
  cases hprepared : s.prepare name text with
  | error e =>
      exact .silent (.error e) s fun m =>
        routeMany_of_refused ((prepare_metered s name text m).trans hprepared)
  | ok prepared =>
      exact (uniform_routeTimes s prepared.1 prepared.2 heldName times 0).map .ok fun m =>
        routeMany_of_prepared ((prepare_metered s name text m).trans hprepared)

theorem uniform_choose (chooser : Chooser) (service : String) (policy : Policy) (request : Request)
    (records : List Instance) (times : Nat) :
    Uniform metered fun m =>
      (s.metered m).choose chooser service policy request records times := by
  induction times generalizing s with
  | zero => exact .pure [] s
  | succ times ih =>
      let later (t : Session) := t.choose chooser service policy request records times
      refine (uniform_onBalancer s (Balancer.uniform_choose s.balancer chooser service policy
        request (unseen records))).bind (fun result t => (result :: (later t).1, (later t).2))
        (fun m => choose_succ _ chooser service policy request records times) ?_
      intro result t
      exact (ih t).map (result :: ·) fun _ => rfl

end Session

/-! ### Steps -/

open Session in
/-- **One step**, one kind of step at a time. Only a step that clears the measurements is left out. -/
theorem SessionStep.uniform_run [Url.DomainNames] (s : Session) {t : SessionStep}
    (h : t ≠ .clearMetrics) : Uniform metered fun m => (t.answer (s.metered m), t.run (s.metered m)) := by
  -- most steps measure nothing, and do not look at the meter
  have hsilent : (∀ m, (t.answer (s.metered m), t.run (s.metered m)) =
      (t.answer s, (t.run s).metered m)) →
      Uniform metered fun m => (t.answer (s.metered m), t.run (s.metered m)) := .silent _ _
  cases t with
  | bind name policy =>
      refine hsilent fun m => ?_
      have hbound : (s.metered m).balancer.bind policy = s.balancer.bind policy := rfl
      simp only [answer, run, Session.bind, hbound]
      cases s.balancer.bind policy <;> rfl
  | route name text heldName => exact (uniform_route s name text heldName).map _ fun _ => rfl
  | routeMany name text times heldName =>
      exact (uniform_routeMany s name text times heldName).map _ fun _ => rfl
  | select name service text heldName =>
      exact (uniform_select s name service text heldName).map _ fun _ => rfl
  | choose algorithm service policy request records times =>
      have hchooser : ∀ m, (s.metered m).chooser? algorithm = s.chooser? algorithm := fun _ => rfl
      simp only [answer, run, hchooser]
      cases s.chooser? algorithm with
      | ok chooser =>
          exact (uniform_choose s chooser service policy request records times).map
            (fun results => .chosen (.ok results)) fun _ => rfl
      | error e => exact .silent (.chosen (.error e)) s fun _ => rfl
  | openConnection name record =>
      exact (uniform_hold { s with balancer := (s.balancer.connect record).2 } name
        ⟨record.id, none⟩).map (fun _ => .done) fun _ => rfl
  | release name => exact (uniform_release s name).map _ fun _ => rfl
  | parts name => exact (uniform_parts s name).map _ fun _ => rfl
  | exchange name ending => exact (uniform_exchange s name ending).map _ fun _ => rfl
  | connect record times => exact (uniform_connect s record times).map _ fun _ => rfl
  | disconnect id => exact (uniform_close s id).map _ fun _ => rfl
  | markInTurn id times => exact (uniform_markInTurn s id true none times).map _ fun _ => rfl
  | count name tags n => exact .measures .done s [.count name tags n] fun _ => rfl
  | time name tags nanos => exact .measures .done s [.time name tags nanos] fun _ => rfl
  | clearMetrics => exact absurd rfl h
  | healthChanges name =>
      refine hsilent fun m => ?_
      have hreader : (s.metered m).healthReaders.get? name = s.healthReaders.get? name := rfl
      simp only [answer, run, Session.healthChanges, hreader]
      cases s.healthReaders.get? name <;> rfl
  | serviceChanges name =>
      refine hsilent fun m => ?_
      have hreader : (s.metered m).serviceReaders.get? name = s.serviceReaders.get? name := rfl
      simp only [answer, run, Session.serviceChanges, hreader]
      cases s.serviceReaders.get? name <;> rfl
  | _ => exact hsilent fun _ => rfl

/-! ### Commands -/

/-- A question about anything but measurements does not look at the meter. -/
theorem SessionQuery.answer_metered (s : Session) {q : SessionQuery} (h : q.readsMetrics = false)
    (m : Meter) : q.answer (s.metered m) = q.answer s := by
  cases q with
  | total name filter => cases h
  | timings name filter => cases h
  | exposition => cases h
  | diagnostics part => cases part <;> rfl
  | _ => rfl

namespace SessionCommand

/-- Commands in turn with their answers, but for those that are about measurements. -/
def unmetered [Url.DomainNames] (s : Session) (commands : List SessionCommand) : List
    (SessionCommand × Reply) :=
  (transcript s commands).filter fun e => !e.1.isAboutMetrics

/-- The sinks after commands in turn. -/
def sinks [Url.DomainNames] (s : Session) : List SessionCommand → List Sink
  | [] => []
  | c :: rest => (c.run s).balancer.sink :: sinks (c.run s) rest

/-- A command with its answer, unless it is about measurements. -/
def line [Url.DomainNames] (s : Session) (c : SessionCommand) : List (SessionCommand × Reply) :=
  if c.isAboutMetrics then [] else [(c, c.answer s)]

theorem unmetered_cons [Url.DomainNames] (s : Session) (c : SessionCommand) (rest : List SessionCommand) :
    unmetered s (c :: rest) = line s c ++ unmetered (c.run s) rest := by
  unfold unmetered line
  cases h : c.isAboutMetrics <;> simp [transcript, h]

/-- **One command** that does not clear the measurements. -/
theorem uniform_line [Url.DomainNames] (s : Session) {c : SessionCommand} (h : c.clearsMetrics = false) :
    Uniform Session.metered fun m => (line (s.metered m) c, c.run (s.metered m)) := by
  unfold line
  cases c with
  | step t =>
      have hstep : t ≠ .clearMetrics := by
        rintro rfl
        cases h
      have habout : (step t).isAboutMetrics = false := h
      simp only [habout, Bool.false_eq_true, if_false]
      exact (SessionStep.uniform_run s hstep).map (fun a => [(step t, a)]) fun _ => rfl
  | ask q =>
      cases hreads : q.readsMetrics with
      | true =>
          refine .silent [] s fun m => ?_
          rw [if_pos (show (ask q).isAboutMetrics = true from hreads)]
          rfl
      | false =>
          have habout : ¬(ask q).isAboutMetrics = true := by
            rw [isAboutMetrics, hreads]
            exact Bool.false_ne_true
          refine .silent [(ask q, q.answer s)] s fun m => ?_
          rw [if_neg habout, answer, q.answer_metered s hreads]
          rfl

end SessionCommand

/-- The sinks that come out of a sink by commands in turn, which tell it some measurements each. -/
def Sink.course (s : Sink) : List SessionCommand → List (List Measurement) → List Sink
  | c :: commands, ms :: told =>
    let s := (if c.clearsMetrics then s.clear else s).measure ms
    s :: course s commands told
  | _, _ => []

namespace SessionCommand

/-- **A whole run**, by induction on its commands: its answers are the same with every meter, and without the
commands that clear the measurements; every sink is told of measurements that do not depend on what it is,
and the increments among them are the same however long dispatches take. -/
theorem uniform_runAll [Url.DomainNames] (s : Session) (commands : List SessionCommand) :
    ∃ lines, (∀ m, unmetered (s.metered m) commands = lines) ∧
      (∀ m, unmetered (s.metered m) (commands.filter fun c => !c.clearsMetrics) = lines) ∧
      ∀ reports, ∃ counts, ∀ lapses, ∃ told, told.map increments = counts ∧ ∀ sink,
        sinks (s.metered ⟨sink, reports, lapses⟩) commands = sink.course commands told := by
  induction commands generalizing s with
  | nil => exact ⟨[], fun _ => rfl, fun _ => rfl, fun _ => ⟨[], fun _ => ⟨[], rfl, fun _ => rfl⟩⟩⟩
  | cons c rest ih =>
      cases hclears : c.clearsMetrics with
      | true =>
          -- nothing but the sink is another one afterwards
          obtain rfl : c = step .clearMetrics := by
            cases c with
            | step t => cases t <;> first | rfl | cases hclears
            | ask q => cases hclears
          obtain ⟨lines, hall, hfiltered, hsinks⟩ := ih s
          refine ⟨lines, fun m => ?_, fun m => ?_, fun reports => ?_⟩
          · rw [unmetered_cons]
            exact hall { m with sink := m.sink.clear }
          · exact hfiltered m
          · obtain ⟨counts, hsinks⟩ := hsinks reports
            refine ⟨[] :: counts, fun lapses => ?_⟩
            obtain ⟨told, hcounts, hsinks⟩ := hsinks lapses
            refine ⟨[] :: told, ?_, fun sink => ?_⟩
            · rw [List.map_cons, hcounts]
              rfl
            · exact congrArg (sink.clear :: ·) (hsinks sink.clear)
      | false =>
          obtain ⟨first, s', hfirst⟩ := uniform_line s hclears
          obtain ⟨lines, hall, hfiltered, hsinks⟩ := ih s'
          have hcons : ∀ m after, (∀ m', unmetered (s'.metered m') after = lines) →
              unmetered (s.metered m) (c :: after) = first ++ lines := by
            intro m after hafter
            obtain ⟨_, hreports⟩ := hfirst m.reportsUnderflow
            obtain ⟨ms, -, hlapses⟩ := hreports m.lapses
            obtain ⟨hline, hrun⟩ := Prod.mk.inj (hlapses m.sink)
            rw [unmetered_cons, hline, hrun, hafter]
          refine ⟨first ++ lines, fun m => hcons m rest hall, fun m => ?_, fun reports => ?_⟩
          · rw [List.filter_cons_of_pos (by rw [hclears]; rfl)]
            exact hcons m _ hfiltered
          · obtain ⟨counts, hfirst⟩ := hfirst reports
            obtain ⟨counts', hsinks⟩ := hsinks reports
            refine ⟨counts :: counts', fun lapses => ?_⟩
            obtain ⟨ms, hcounts, hfirst⟩ := hfirst lapses
            obtain ⟨told, hcounts', hsinks⟩ := hsinks lapses
            refine ⟨ms :: told, ?_, fun sink => ?_⟩
            · rw [List.map_cons, hcounts, hcounts']
            · obtain ⟨-, hrun⟩ := Prod.mk.inj (hfirst sink)
              simp only [sinks, Sink.course, hclears, Bool.false_eq_true, if_false, hrun]
              exact congrArg (sink.measure ms :: ·) (hsinks (sink.measure ms))

end SessionCommand

/-! ### The main statement -/

/-- The session of a setup with another meter, in a world with some random numbers. -/
def Setup.startMetered (s : Setup) (rolls : Nat → Nat) (m : Meter) : Session :=
  (start { s with sink := m.sink, reportsUnderflow := m.reportsUnderflow } ⟨rolls, m.lapses⟩).2

/-- **Metering is inert.** Whatever sink a session reports to, whether its registry has underflows counted,
and however long dispatches take, it gives the same answer to every command that is not about
measurements, and clearing the measurements at any points changes none of these answers. After every
command the sink is what comes out of the first one by the measurements it was told of, and these do not
depend on what the sink is; with the same choice about underflows, the counters that were increased are
the same ones, each with its name, its tags and its number, in order. -/
theorem Session.metering_inert [Url.DomainNames] (setup : Setup) (rolls : Nat → Nat)
    (commands : List SessionCommand) :
    (∀ m m', SessionCommand.unmetered (setup.startMetered rolls m) commands =
      SessionCommand.unmetered (setup.startMetered rolls m')
        (commands.filter fun c => !c.clearsMetrics)) ∧
    ∀ reports, ∃ counts, ∀ lapses, ∃ told, told.map increments = counts ∧ ∀ sink,
      SessionCommand.sinks (setup.startMetered rolls ⟨sink, reports, lapses⟩) commands =
        sink.course commands told := by
  let s := setup.startMetered rolls ⟨.discard, false, id⟩
  have hstart : ∀ m, setup.startMetered rolls m = s.metered m := fun _ => rfl
  obtain ⟨lines, hall, hfiltered, hsinks⟩ := SessionCommand.uniform_runAll s commands
  refine ⟨fun m m' => ?_, hsinks⟩
  rw [hstart, hstart, hall, hfiltered]

end LoadBalancer

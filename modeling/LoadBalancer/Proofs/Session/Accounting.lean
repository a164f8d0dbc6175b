import Mathlib
import LoadBalancer.Proofs.Balancer.Accounting
import LoadBalancer.Proofs.Session.Move

/-!
# The accounts of a session

In a session that reports to memory and does not route, the measurements of outcomes are those of the
calls that select an instance, and those that were made by hand.

* `Notice`, `SessionStep.notices`, `SessionStep.noticesSince` – what a step says about outcomes, and what
  was said since the measurements were cleared last;
* `SessionStep.tells_run` – **one step** tells its notices, and nothing else about outcomes;
* `Notice.Agree`, `SessionStep.agree_runAll` – **a whole run**: what can be read are the notices since the
  last clearing;
* `Session.selections_accounted` – what every call measures, and the accounts at every point.
-/

namespace LoadBalancer

open Balancer (outcomes)

/-! ### Notices -/

/-- Something is said about outcomes. -/
inductive Notice where
  /-- A call that selects an instance has ended. -/
  | call (a : Algorithm) (service : String) (nanos : Nat) (result : Except Failure Instance)
  /-- A measurement is made by hand. -/
  | byHand (m : Measurement)

namespace Notice

/-- The measurements of a notice. -/
def measurements : Notice → List Measurement
  | call a service nanos result => outcomes a service nanos result
  | byHand m => [m]

/-- It comes from a call. -/
def isCall : Notice → Bool
  | call _ _ _ _ => true
  | byHand _ => false

/-- The selections and failures that are counted by hand. -/
def counted : Notice → Nat
  | call _ _ _ _ => 0
  | byHand m => m.adds Metric.selections [] + m.adds Metric.failedSelections []

/-- The number of observations that are made by hand. -/
def timed : Notice → Nat
  | call _ _ _ _ => 0
  | byHand m => (m.times Metric.selectionDuration []).length

/-- All measurements of notices. -/
def all (ns : List Notice) : List Measurement := ns.flatMap measurements

theorem all_append (xs ys : List Notice) : all (xs ++ ys) = all xs ++ all ys := List.flatMap_append

theorem all_singleton (n : Notice) : all [n] = n.measurements := List.append_nil _

theorem all_cons (n : Notice) (ns : List Notice) : all (n :: ns) = n.measurements ++ all ns := rfl

/-- Every call counts one selection or one failure. -/
theorem sumAdds_all (ns : List Notice) :
    Measurement.sumAdds Metric.selections [] (all ns) +
        Measurement.sumAdds Metric.failedSelections [] (all ns) =
      ns.countP isCall + sumOf (ns.map counted) := by
  induction ns with
  | nil => rfl
  | cons n rest ih =>
      have hone : Measurement.sumAdds Metric.selections [] n.measurements +
          Measurement.sumAdds Metric.failedSelections [] n.measurements =
            (if n.isCall then 1 else 0) + n.counted := by
        cases n with
        | call a service nanos result =>
            rw [measurements, Balancer.sumAdds_selections, Balancer.sumAdds_failures]
            cases result <;> rfl
        | byHand m =>
            rw [measurements, Measurement.sumAdds_cons, Measurement.sumAdds_cons,
              Measurement.sumAdds_nil, Measurement.sumAdds_nil]
            simp [isCall, counted]
      rw [all_cons, Measurement.sumAdds_append, Measurement.sumAdds_append, List.countP_cons,
        List.map_cons, sumOf_cons]
      omega

/-- Every call is timed once. -/
theorem length_allTimes_all (ns : List Notice) :
    (Measurement.allTimes Metric.selectionDuration [] (all ns)).length =
      ns.countP isCall + sumOf (ns.map timed) := by
  induction ns with
  | nil => rfl
  | cons n rest ih =>
      have hone : (Measurement.allTimes Metric.selectionDuration [] n.measurements).length =
          (if n.isCall then 1 else 0) + n.timed := by
        cases n with
        | call a service nanos result => exact Balancer.length_allTimes a service nanos result
        | byHand m =>
            rw [measurements, Measurement.allTimes_cons, Measurement.allTimes_nil, List.append_nil]
            simp [isCall, timed]
      rw [all_cons, Measurement.allTimes_append, List.length_append, List.countP_cons,
        List.map_cons, sumOf_cons]
      omega

/-- Calls add nothing by hand. -/
theorem sumOf_of_calls {ns : List Notice} (h : ∀ n ∈ ns, n.isCall = true) :
    sumOf (ns.map counted) = 0 ∧ sumOf (ns.map timed) = 0 := by
  induction ns with
  | nil => exact ⟨rfl, rfl⟩
  | cons n rest ih =>
      obtain ⟨hcounted, htimed⟩ := ih fun later hlater => h later (List.mem_cons_of_mem _ hlater)
      rw [List.map_cons, List.map_cons, sumOf_cons, sumOf_cons, hcounted, htimed]
      have hone := h n List.mem_cons_self
      cases n with
      | call a service nanos result => exact ⟨rfl, rfl⟩
      | byHand m => cases hone

/-- What can be read of a tally about outcomes are the measurements of notices. -/
structure Agree (ns : List Notice) (t : Tally Labels) : Prop where
  total : ∀ name ∈ [Metric.selections, Metric.failedSelections], ∀ filter,
    t.total name (Sink.passes filter) = Measurement.sumAdds name filter (all ns)
  observations : ∀ filter, (t.observations Metric.selectionDuration (Sink.passes filter)).Perm
    (Measurement.allTimes Metric.selectionDuration filter (all ns))

theorem agree_empty : Agree [] .empty where
  total := fun _ _ _ => rfl
  observations := fun _ => List.Perm.refl _

/-- More is told. -/
theorem Agree.tells {ns new : List Notice} {t : Tally Labels} {s : Sink} (h : Agree ns t)
    (htold : Sink.Tells Measurement.isOutcome ((all new).filter Measurement.isOutcome) (.memory t) s) :
    ∃ t', s = .memory t' ∧ Agree (ns ++ new) t' := by
  obtain ⟨t', rfl, htotal, htimes⟩ := htold.gains
  refine ⟨t', rfl, ?_, ?_⟩
  · intro name hname filter
    have hkind : ∀ m : Measurement, m.name = name → m.isOutcome = true := by
      rintro m rfl
      exact Measurement.isOutcome_of_counted hname
    rw [htotal name hname filter, h.total name hname filter, all_append, Measurement.sumAdds_append,
      Measurement.sumAdds_filter hkind]
  · intro filter
    refine (htimes filter).trans ?_
    rw [Measurement.allTimes_filter fun m => Measurement.isOutcome_of_timed, all_append,
      Measurement.allTimes_append]
    exact List.perm_append_comm.trans ((h.observations filter).append_right _)

end Notice

/-! ### Steps -/

namespace SessionStep

/-- The step routes a request. -/
def Routes : SessionStep → Prop
  | route _ _ _ => True
  | routeMany _ _ _ _ => True
  | _ => False

/-- What a step says about outcomes. -/
def notices [Url.DomainNames] (s : Session) : SessionStep → List Notice
  | select name service text _ =>
    match s.prepare name text with
    | .ok (bound, request) =>
      [.call bound.algorithm service (s.balancer.nanos service request bound)
        (s.balancer.select service request bound).1]
    | .error _ => []
  | count name tags n => [.byHand (.count name tags n)]
  | time name tags nanos => [.byHand (.time name tags nanos)]
  | _ => []

/-- What was said since the measurements were cleared last, if `before` was said before a step. -/
def noted [Url.DomainNames] (before : List Notice) (s : Session) : SessionStep → List Notice
  | clearMetrics => []
  | step => before ++ step.notices s

/-- What was said since the measurements were cleared last, if `before` was said before some steps. -/
def noticesSince [Url.DomainNames] (before : List Notice) (s : Session) : List SessionStep → List Notice
  | [] => before
  | step :: rest => noticesSince (step.noted before s) (run s step) rest

theorem noted_of_ne [Url.DomainNames] {step : SessionStep} (h : step ≠ clearMetrics)
    (before : List Notice) (s : Session) : step.noted before s = before ++ step.notices s := by
  cases step with
  | clearMetrics => exact absurd rfl h
  | _ => rfl

end SessionStep

namespace Session

open Balancer (tells_disconnect tells_choose tells_select)

/-- Nothing has been said about outcomes. -/
def Silent (s s' : Session) : Prop :=
  Sink.Tells Measurement.isOutcome [] s.balancer.sink s'.balancer.sink

section Silent

variable {s s' s'' : Session}

theorem Silent.refl (s : Session) : Silent s s := Sink.Tells.refl _

theorem Silent.trans (h : Silent s s') (h' : Silent s' s'') : Silent s s'' := Sink.Tells.trans h h'

theorem silent_close (s : Session) (id : String) : Silent s (s.close id).2 :=
  tells_disconnect s.balancer id

theorem silent_hold (s : Session) (name : String) (h : Held) : Silent s (s.hold name h) := by
  unfold hold
  cases s.held.get? name with
  | none => exact .refl s
  | some old => exact silent_close s old.id

theorem silent_keep (s : Session) (name : Option String) (record : Instance) :
    Silent s (s.keep name record) := by
  cases name with
  | none => exact silent_close s record.id
  | some name => exact silent_hold s name _

theorem silent_release (s : Session) (name : String) : Silent s (s.release name).2 := by
  unfold release
  split
  · exact silent_close (s.forget name) _
  · exact .refl s

theorem silent_parts (s : Session) (name : String) : Silent s (s.parts name).2 := by
  unfold parts
  split <;> exact .refl s

theorem silent_exchange (s : Session) (name : String) (ending : Ending) :
    Silent s (s.exchange name ending).2 := by
  unfold exchange
  split
  · rename_i h record heq
    exact silent_close (forget { s with balancer :=
      { s.balancer with clock := s.balancer.clock + ending.duration } } name) h.id
  · exact .refl s

theorem silent_openConnection (s : Session) (name : String) (record : Instance) :
    Silent s (s.openConnection name record) :=
  silent_hold { s with balancer := (s.balancer.connect record).2 } name _

theorem silent_connect (s : Session) (record : Instance) (times : Nat) :
    Silent s (s.connect record times).2 := by
  induction times generalizing s with
  | zero => exact .refl s
  | succ times ih => exact ih { s with balancer := (s.balancer.connect record).2 }

theorem silent_markInTurn (s : Session) (id : String) (alive : Bool) (last : Option Health)
    (times : Nat) : Silent s (s.markInTurn id alive last times).2 := by
  induction times generalizing s alive last with
  | zero => exact .refl s
  | succ times ih => exact ih (s.mark id (Health.ofVerdict (some alive))).2 _ _

theorem silent_choose (s : Session) (chooser : Chooser) (service : String) (policy : Policy)
    (request : Request) (records : List Instance) (times : Nat) :
    Silent s (s.choose chooser service policy request records times).2 := by
  induction times generalizing s with
  | zero => exact .refl s
  | succ times ih =>
      have hfirst : Silent s { s with balancer :=
          (s.balancer.choose chooser service policy request (unseen records)).2 } :=
        tells_choose s.balancer chooser service policy request (unseen records)
      exact hfirst.trans (ih _)

end Silent

end Session

namespace SessionStep

open Session

/-- **One step** that does not route tells its notices, one kind of step at a time. -/
theorem tells_run [Url.DomainNames] (s : Session) {step : SessionStep} (hroutes : ¬step.Routes)
    (hclear : step ≠ clearMetrics) :
    Sink.Tells Measurement.isOutcome
      ((Notice.all (step.notices s)).filter Measurement.isOutcome) s.balancer.sink
      (run s step).balancer.sink := by
  cases step with
  | bind name policy =>
      simp only [run, Session.bind]
      split <;> exact .refl _
  | route name text heldName => exact absurd trivial hroutes
  | routeMany name text times heldName => exact absurd trivial hroutes
  | select name service text heldName =>
      cases hprepared : s.prepare name text with
      | error e =>
          simp only [run, Session.select, notices, hprepared]
          exact .refl _
      | ok prepared =>
          obtain ⟨bound, request⟩ := prepared
          have htold := Balancer.tells_select s.balancer service request bound
          simp only [run, Session.select, notices, hprepared]
          rw [Notice.all_singleton, Notice.measurements, Balancer.filter_outcomes]
          split
          · rename_i record b heq
            rw [heq] at htold ⊢
            exact htold.then_nothing (silent_keep { s with balancer := b } heldName record)
          · rename_i f b heq
            rw [heq] at htold ⊢
            exact htold
  | choose algorithm service policy request records times =>
      simp only [run]
      split
      · exact silent_choose s _ service policy request records times
      · exact .refl _
  | openConnection name record => exact silent_openConnection s name record
  | release name => exact silent_release s name
  | parts name => exact silent_parts s name
  | exchange name ending => exact silent_exchange s name ending
  | connect record times => exact silent_connect s record times
  | disconnect id => exact silent_close s id
  | markInTurn id times => exact silent_markInTurn s id true none times
  | count name tags n => exact .measure s.balancer.sink [.count name tags n]
  | time name tags nanos => exact .measure s.balancer.sink [.time name tags nanos]
  | clearMetrics => exact absurd rfl hclear
  | healthChanges name =>
      simp only [run, Session.healthChanges]
      split <;> exact .refl _
  | serviceChanges name =>
      simp only [run, Session.serviceChanges]
      split <;> exact .refl _
  | _ => exact .refl _

/-- One step keeps the accounts. -/
theorem agree_run [Url.DomainNames] {s : Session} {t : Tally Labels} {before : List Notice}
    (hsink : s.balancer.sink = .memory t) (h : Notice.Agree before t) {step : SessionStep}
    (hroutes : ¬step.Routes) :
    ∃ t', (run s step).balancer.sink = .memory t' ∧ Notice.Agree (step.noted before s) t' := by
  by_cases hclear : step = clearMetrics
  · subst hclear
    refine ⟨.empty, ?_, Notice.agree_empty⟩
    show s.balancer.sink.clear = _
    rw [hsink]
    rfl
  · have htold := tells_run s hroutes hclear
    rw [hsink] at htold
    rw [noted_of_ne hclear]
    exact h.tells htold

/-- **A whole run**, by induction on its steps. -/
theorem agree_runAll [Url.DomainNames] {s : Session} {t : Tally Labels} {before : List Notice}
    (hsink : s.balancer.sink = .memory t) (h : Notice.Agree before t) {steps : List SessionStep}
    (hroutes : ∀ step ∈ steps, ¬step.Routes) :
    ∃ t', (runAll s steps).balancer.sink = .memory t' ∧
      Notice.Agree (noticesSince before s steps) t' := by
  induction steps generalizing s t before with
  | nil => exact ⟨t, hsink, h⟩
  | cons step rest ih =>
      obtain ⟨t', hsink', hagree⟩ := agree_run hsink h (hroutes step List.mem_cons_self)
      exact ih hsink' hagree fun later hlater => hroutes later (List.mem_cons_of_mem _ hlater)

end SessionStep

/-! ### Default choosers -/

namespace Choosers

theorem resolve_withDefaults (a : Algorithm) :
    withDefaults.resolve a = .ok ⟨a.rank, .ofAlgorithm a⟩ := by
  cases a <;> rfl

/-- If every algorithm has a chooser, no other can be registered. -/
theorem registerAll_of_full {c : Choosers} (h : ∀ a, c.byAlgorithm.contains a = true)
    (entries : List (String × Strategy)) : (c.registerAll entries).2 = c := by
  induction entries with
  | nil => rfl
  | cons e rest ih =>
      rw [registerAll_cons]
      split
      · rename_i c' heq
        simp only [registerNamed, bind, Except.bind] at heq
        split at heq
        · cases heq
        · rename_i a ha
          rw [register, if_pos (h a)] at heq
          cases heq
      · exact ih

theorem registerAll_withDefaults (entries : List (String × Strategy)) :
    (withDefaults.registerAll entries).2 = withDefaults := by
  refine registerAll_of_full ?_ entries
  intro a
  cases a <;> rfl

end Choosers

namespace Session

/-- Every route has the chooser of its algorithm, and so will the next. -/
structure HasDefaults (s : Session) : Prop where
  choosers : s.balancer.choosers = .withDefaults
  routes : ∀ name bound, s.routes.get? name = some bound →
    bound.chooser.rule = .ofAlgorithm bound.algorithm

theorem hasDefaults_move {S : Scope} {loose loose' : List String} {s s' : Session}
    (h : Move S (loose, s) (loose', s')) (hs : s.HasDefaults) : s'.HasDefaults := by
  cases h with
  | act h => exact ⟨h.choosers.trans hs.choosers, hs.routes⟩
  | bind h =>
      obtain ⟨-, hresolve⟩ := of_bind_eq_ok h
      rw [hs.choosers, Choosers.resolve_withDefaults] at hresolve
      refine ⟨hs.choosers, ?_⟩
      intro name' bound hget
      simp only [Table.get?_put] at hget
      split at hget
      · cases hget
        rw [← Except.ok.inj hresolve]
        rfl
      · exact hs.routes name' bound hget
  | close =>
      rename_i id
      have hclosed : Balancer.Evolves Scope.any s.balancer (s.balancer.disconnect id).2 :=
        Balancer.Evolves.disconnect trivial
      exact ⟨hclosed.choosers.trans hs.choosers, hs.routes⟩
  | _ => exact ⟨hs.choosers, hs.routes⟩

theorem hasDefaults_start {setup : Setup} (h : setup.choosers = .withDefaults) (ambient : Ambient) :
    (setup.start ambient).2.HasDefaults := by
  refine ⟨?_, ?_⟩
  · show (setup.choosers.registerAll setup.registrations).2 = _
    rw [h, Choosers.registerAll_withDefaults]
  · intro name bound hget
    cases hget

theorem hasDefaults_run [Url.DomainNames] {s : Session} (hw : s.Within .any) (hs : s.HasDefaults)
    (t : SessionStep) : (t.run s).HasDefaults :=
  moves_induction (P := fun _ s => s.HasDefaults) hasDefaults_move
    (moves_run [] hw (Scope.allowsStep_any t)) hs

theorem hasDefaults_runAll [Url.DomainNames] {setup : Setup} (h : setup.choosers = .withDefaults)
    (ambient : Ambient)
    (steps : List SessionStep) : (SessionStep.runAll (setup.start ambient).2 steps).HasDefaults := by
  have hmoves : Moves .any ([], (setup.start ambient).2)
      ([], SessionStep.runAll (setup.start ambient).2 steps) :=
    moves_runAll (within_start (Scope.allowsSetup_any setup) ambient)
      fun t _ => Scope.allowsStep_any t
  exact moves_induction (P := fun _ s => s.HasDefaults) hasDefaults_move hmoves
    (hasDefaults_start h ambient)

end Session

/-! ### The main statement -/

namespace Session

/-- **The accounts of a session** that reports to memory and does not route, at every point. A call that
selects an instance by the rule of an algorithm measures, if the rules of its set are functions of the
request, the cause that it answers, if it fails, and one outcome, and nothing else. The routes of a session
with default choosers are of this kind. What can be read about outcomes are the notices since the
measurements were cleared last. Selections and failures together, and the observations, are as many as the
calls, and as were added by hand; if all notices come from calls, nothing was. -/
theorem selections_accounted [Url.DomainNames] {setup : Setup} (hsink : setup.sink = .memory .empty)
    (ambient : Ambient) {steps : List SessionStep} (hroutes : ∀ step ∈ steps, ¬step.Routes) :
    let s := SessionStep.runAll (setup.start ambient).2 steps
    let sink := s.balancer.sink
    let notices := SessionStep.noticesSince [] (setup.start ambient).2 steps
    let calls := notices.countP Notice.isCall
    (∀ (bound : BoundRoute) (a : Algorithm), bound.chooser.rule = .ofAlgorithm a →
      s.balancer.rules.ReadsRequest bound.policy.ruleSet →
      ∀ service request, s.balancer.Accounts service request bound) ∧
    (setup.choosers = .withDefaults → ∀ name bound, s.routes.get? name = some bound →
      bound.chooser.rule = .ofAlgorithm bound.algorithm) ∧
    (∀ name ∈ [Metric.selections, Metric.failedSelections], ∀ filter,
      sink.total name filter = Measurement.sumAdds name filter (Notice.all notices) % size64) ∧
    (∀ filter, (sink.timings Metric.selectionDuration filter).Perm
      (Measurement.allTimes Metric.selectionDuration filter (Notice.all notices))) ∧
    (sink.total Metric.selections [] + sink.total Metric.failedSelections []) % size64 =
      (calls + sumOf (notices.map Notice.counted)) % size64 ∧
    (calls + sumOf (notices.map Notice.counted) < size64 →
      sink.total Metric.selections [] + sink.total Metric.failedSelections [] =
        calls + sumOf (notices.map Notice.counted)) ∧
    (sink.timings Metric.selectionDuration []).length =
      calls + sumOf (notices.map Notice.timed) ∧
    ((∀ n ∈ notices, n.isCall = true) →
      sumOf (notices.map Notice.counted) = 0 ∧ sumOf (notices.map Notice.timed) = 0) := by
  intro s sink notices calls
  obtain ⟨t, hmemory, hagree⟩ : ∃ t, s.balancer.sink = .memory t ∧ Notice.Agree notices t :=
    SessionStep.agree_runAll hsink Notice.agree_empty hroutes
  have htotal : ∀ name ∈ [Metric.selections, Metric.failedSelections], ∀ filter,
      sink.total name filter = Measurement.sumAdds name filter (Notice.all notices) % size64 := by
    intro name hname filter
    rw [show sink = .memory t from hmemory, Sink.total, hagree.total name hname filter]
  have htimes : ∀ filter, (sink.timings Metric.selectionDuration filter).Perm
      (Measurement.allTimes Metric.selectionDuration filter (Notice.all notices)) := by
    intro filter
    rw [show sink = .memory t from hmemory]
    exact hagree.observations filter
  have hsums := Notice.sumAdds_all notices
  have hselections := htotal Metric.selections (by simp) []
  have hfailures := htotal Metric.failedSelections (by simp) []
  refine ⟨?_, ?_, htotal, htimes, ?_, ?_, ?_, Notice.sumOf_of_calls⟩
  · intro bound a hrule hreads service request
    have hreachable : s.Reachable := ⟨setup, ambient, steps, rfl⟩
    exact Balancer.accounts_select hrule hreachable.sound hreads hmemory
  · intro hdefault
    exact (hasDefaults_runAll hdefault ambient steps).routes
  · rw [hselections, hfailures, ← Nat.add_mod, hsums]
  · intro hrange
    rw [hselections, hfailures, Nat.mod_eq_of_lt, Nat.mod_eq_of_lt, hsums]
    all_goals omega
  · rw [(htimes []).length_eq, Notice.length_allTimes_all]

/-- A rule that asks for a header applies to the first of two calls; nothing is found for the second one.
Before, the measurements were cleared. -/
theorem selections_accounted_selected :
    let record := (Instance.plain "a" "s" "10.0.0.1" 80).withMetadata "canary" "beta"
    let rules := RuleBook.empty.add "canary" ⟨"beta", .header "X-Canary" "on"⟩
    let setup : Setup := ⟨.memory .empty, true, .withDefaults, [], rules, [record], []⟩
    let policy : Policy := { Policy.default with ruleSet := "canary" }
    let text : RequestText := ⟨"lb://s/", [("x-canary", "On")], none, .empty⟩
    let steps : List SessionStep :=
      [.bind "r" policy, .count Metric.selections [] 3, .clearMetrics, .select "r" "s" text (some "h"),
        .select "r" "s" { text with headers := [] } none]
    let s := SessionStep.runAll (setup.start ⟨id, id⟩).2 steps
    let route : BoundRoute := ⟨policy, ⟨1, .ofAlgorithm .roundRobin⟩⟩
    (∀ step ∈ steps, ¬step.Routes) ∧
      (∀ service request, s.balancer.Accounts service request route) ∧
      s.balancer.sink.total Metric.selections [] = 1 ∧
      s.balancer.sink.total Metric.failedSelections [] = 1 ∧
      s.balancer.sink.total Metric.noCandidates [("service", "s")] = 1 ∧
      (s.balancer.sink.timings Metric.selectionDuration []).length = 2 := by
  intro record rules setup policy text steps s route
  have hroutes : ∀ step ∈ steps, ¬step.Routes := by
    intro step hstep
    simp only [steps, List.mem_cons, List.not_mem_nil, or_false] at hstep
    rcases hstep with rfl | rfl | rfl | rfl | rfl <;> exact id
  have hsink : setup.sink = .memory .empty := rfl
  have hall := selections_accounted hsink ⟨id, id⟩ hroutes
  extract_lets sink notices calls at hall
  obtain ⟨haccounts, -, htotal, -, -, -, htimed, hbyHand⟩ := hall
  have hreads : s.balancer.rules.ReadsRequest route.policy.ruleSet :=
    RuleBook.readsRequest_iff.mpr (by decide +kernel)
  -- two calls since the clearing, and nothing by hand
  have hcalls : ∀ n ∈ notices, n.isCall = true := by decide +kernel
  have htwo : calls = 2 := by decide +kernel
  rw [htwo, (hbyHand hcalls).2] at htimed
  refine ⟨hroutes, haccounts route .roundRobin rfl hreads, ?_, ?_, by decide +kernel, htimed⟩
  · exact (htotal Metric.selections (by decide) []).trans (by decide +kernel)
  · exact (htotal Metric.failedSelections (by decide) []).trans (by decide +kernel)

end Session

end LoadBalancer

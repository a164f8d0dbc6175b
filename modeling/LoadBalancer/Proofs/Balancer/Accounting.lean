import Mathlib
import LoadBalancer.Balancer.Routing
import LoadBalancer.Proofs.Balancer.Decision
import LoadBalancer.Proofs.Metrics.Measurement

/-!
# What a selection and a route measure

Every selection is timed and counted under its outcome, and a failed one has its cause counted at the
place where it fails. A route leaves this to the selection, and counts two failures of its own.

* `Balancer.outcomes`, `Balancer.causes` – the measurements of a selection;
* `Balancer.sink_select_ofAlgorithm` – by the rule of an algorithm, these are all of them, as the answer
  has them if the rules read the request, and `Balancer.accounts_select` reads them back;
* `Balancer.tells_select`, `Balancer.routesFor` – by any chooser, what a selection and a route say about
  outcomes;
* `Sink.Truthful` – what can be read back agrees with one outcome;
* `Balancer.route_accounts` – **when it agrees with the outcome of a route**, and what is measured if it
  does not.
-/

namespace LoadBalancer

namespace Balancer

/-! ### Measurements of a selection -/

/-- A failure, as it is counted. -/
def failed (a : Algorithm) (f : Failure) : Measurement :=
  .count Metric.failedSelections
    [("reason", f.reason), ("algorithm", a.name), ("service", f.service)] 1

/-- The outcome of a selection: it is timed, and counted. -/
def outcomes (a : Algorithm) (service : String) (nanos : Nat) (result : Except Failure Instance) :
    List Measurement :=
  [.time Metric.selectionDuration
      [("algorithm", a.name), ("service", service), ("outcome", outcomeWord result)] nanos,
    match result with
    | .ok _ => .count Metric.selections [("algorithm", a.name), ("service", service)] 1
    | .error f => failed a f]

/-- What a chooser measures that has used up its attempts. -/
def exhaustion (service : String) (policy : Policy) : Except Failure Instance → List Measurement
  | .error (.retriesExhausted _ _ _) =>
    [.count Metric.maxTries [("algorithm", policy.algorithm.name), ("service", service)] 1]
  | _ => []

/-- The cause of a failed selection, as it is counted where the selection fails: no instance is listed,
none is found, or the attempts of the chooser are used up. -/
def causes (b : Balancer) (service : String) (request : Request) (policy : Policy)
    (result : Except Failure Instance) : List Measurement :=
  if b.listed service = [] then [.count Metric.noInstances [("service", service)] 1]
  else if b.found service request policy = [] then
    [.count Metric.noCandidates [("service", service)] 1]
  else exhaustion service policy result

/-- The time that is observed. -/
def nanos (b : Balancer) (service : String) (request : Request) (bound : BoundRoute) : Nat :=
  (b.decide service request bound).2.1

/-- The cause of a failure, read off the answer. -/
def cause (service : String) (policy : Policy) : Except Failure Instance → List Measurement
  | .error (.noInstances _) => [.count Metric.noInstances [("service", service)] 1]
  | .error (.noCandidates _) => [.count Metric.noCandidates [("service", service)] 1]
  | .error (.retriesExhausted _ _ _) =>
    [.count Metric.maxTries [("algorithm", policy.algorithm.name), ("service", service)] 1]
  | _ => []

variable {b : Balancer} {service : String} {request : Request} {bound : BoundRoute}

/-- Without candidates no time counts. -/
theorem nanos_of_unfound (h : b.found service request bound.policy = []) :
    b.nanos service request bound = 0 := by
  by_cases hlisted : b.listed service = []
  · rw [nanos, decide_of_unlisted hlisted]
  · rw [nanos, decide_of_unfound hlisted h]

theorem filter_outcomes (a : Algorithm) (service : String) (nanos : Nat)
    (result : Except Failure Instance) :
    (outcomes a service nanos result).filter Measurement.isOutcome =
      outcomes a service nanos result := by
  cases result <;> rfl

theorem filter_exhaustion (service : String) (policy : Policy) (result : Except Failure Instance) :
    (exhaustion service policy result).filter Measurement.isOutcome = [] := by
  unfold exhaustion
  split <;> rfl

/-- A cause says nothing about the outcome. -/
theorem filter_causes (b : Balancer) (service : String) (request : Request) (policy : Policy)
    (result : Except Failure Instance) :
    (b.causes service request policy result).filter Measurement.isOutcome = [] := by
  unfold causes
  split
  · rfl
  · split
    · rfl
    · exact filter_exhaustion service policy result

/-! ### Choosing -/

open Sink (Tells)

theorem tells_act (b : Balancer) (actions : List RegistryAction) :
    Tells Measurement.isOutcome [] b.sink (b.act actions).sink := by
  rw [act_eq]
  dsimp only
  split
  · refine ⟨underflows _, countUnderflows_eq_measure _ _, ?_⟩
    rw [List.filter_eq_nil_iff]
    intro m hm
    obtain ⟨id, -, rfl⟩ := List.mem_map.mp hm
    simp [Measurement.isOutcome, Measurement.name, Metric.counterUnderflow, Metric.selections,
      Metric.failedSelections, Metric.selectionDuration]
  · exact .refl _

theorem tells_disconnect (b : Balancer) (id : String) :
    Tells Measurement.isOutcome [] b.sink (b.disconnect id).2.sink := by
  rw [← act_disconnect]
  exact tells_act b [.disconnect id]

theorem tells_pick (chooser : Chooser) (service : String) (request : Request) (pool : List Status)
    (b : Balancer) :
    Tells Measurement.isOutcome [] b.sink (pick chooser service request pool b).2.sink := by
  unfold pick
  cases chooser.rule with
  | scripted =>
      -- only what a script does while it picks can be measured
      dsimp only
      rw [balancer_follow]
      exact tells_act ({ b with script := b.script.tail, seen := pool :: b.seen } : Balancer) _
  | _ => exact .refl _

theorem sink_sleep (b : Balancer) (d : Duration) : (b.sleep d).sink = b.sink := by
  unfold sleep
  rfl

/-- All that a choice measures of a kind is that the attempts are used up. -/
def TellsExhaustion (kind : Measurement → Bool) (service : String) (policy : Policy) (b : Balancer)
    (chosen : Except Failure Instance × Balancer) : Prop :=
  Tells kind ((exhaustion service policy chosen.1).filter kind) b.sink chosen.2.sink

theorem tellsExhaustion_outcome {policy : Policy} {chosen : Except Failure Instance × Balancer} :
    TellsExhaustion Measurement.isOutcome service policy b chosen ↔
      Tells Measurement.isOutcome [] b.sink chosen.2.sink := by
  rw [TellsExhaustion, filter_exhaustion]

/-- What attempts measure, if picks and pauses measure nothing of a kind. -/
theorem tells_chooseByAttempts {kind : Measurement → Bool} {chooser : Chooser} {policy : Policy}
    (hpick : ∀ pool (t : Balancer), Tells kind [] t.sink (pick chooser service request pool t).2.sink)
    (b : Balancer) (candidates : List Status) :
    TellsExhaustion kind service policy b
      (b.chooseByAttempts chooser service policy request candidates) := by
  have hkeeps : (surroundings chooser service policy request).Keeps
      fun t => Tells kind [] b.sink t.sink := by
    refine ⟨fun pool t ht => ht.then_nothing (hpick pool t), ?_⟩
    intro t ht
    simp only [surroundings, sink_sleep]
    exact ht
  have hall := attempt_keeps hkeeps ⟨service, policy.lenient, candidates⟩ (tries policy) (.refl b.sink)
  simp only [chooseByAttempts, chooseIn]
  split
  · rename_i record t heq
    rw [heq] at hall
    exact hall
  · rename_i t heq
    rw [heq] at hall
    exact hall
  · rename_i n t heq
    rw [heq] at hall
    exact hall.trans (.measure t.sink
      [.count Metric.maxTries [("algorithm", policy.algorithm.name), ("service", service)] 1])

/-- By the rule of an algorithm, a choice measures that the attempts are used up, or nothing. -/
theorem tells_choose_ofAlgorithm {kind : Measurement → Bool} {chooser : Chooser} {a : Algorithm}
    (h : chooser.rule = .ofAlgorithm a) (b : Balancer) (service : String) (policy : Policy)
    (request : Request) (candidates : List Status) :
    TellsExhaustion kind service policy b
      (b.choose chooser service policy request candidates) := by
  have hpick : ∀ pool (t : Balancer),
      Tells kind [] t.sink (pick chooser service request pool t).2.sink := by
    intro pool t
    refine .of_eq ?_
    unfold pick
    rw [h]
    cases a <;> rfl
  rw [choose_ofAlgorithm h]
  exact tells_chooseByAttempts hpick b candidates

/-- A choice says nothing about the outcome. -/
theorem tells_choose (b : Balancer) (chooser : Chooser) (service : String) (policy : Policy)
    (request : Request) (candidates : List Status) :
    Tells Measurement.isOutcome [] b.sink
      (b.choose chooser service policy request candidates).2.sink := by
  unfold choose
  split
  · exact .refl _
  · exact tells_act ({ b with asked := b.asked + 1 } : Balancer) _
  · exact tellsExhaustion_outcome.mp
      (tells_chooseByAttempts (tells_pick chooser service request) b candidates)

/-! ### Selecting -/

/-- What is measured on the way to an outcome, if a choice measures no more of a kind than that the
attempts are used up. -/
theorem tells_decide {kind : Measurement → Bool}
    (hchoose : ∀ (t : Balancer) candidates, TellsExhaustion kind service bound.policy t
      (t.choose bound.chooser service bound.policy request candidates)) :
    Tells kind ((b.causes service request bound.policy (b.decide service request bound).1).filter kind)
      b.sink (b.decide service request bound).2.2.sink := by
  unfold causes
  by_cases hlisted : b.listed service = []
  · rw [if_pos hlisted, decide_of_unlisted hlisted]
    exact .measure b.sink [.count Metric.noInstances [("service", service)] 1]
  · rw [if_neg hlisted]
    by_cases hfound : b.found service request bound.policy = []
    · rw [if_pos hfound, decide_of_unfound hlisted hfound]
      exact .measure b.sink [.count Metric.noCandidates [("service", service)] 1]
    · rw [if_neg hfound, decide_of_found hfound]
      exact hchoose { b with registry := (b.offered service request bound.policy).2 } _

/-- The outcome is measured last. -/
theorem sink_select (b : Balancer) (service : String) (request : Request) (bound : BoundRoute) :
    (b.select service request bound).2.sink =
      (b.decide service request bound).2.2.sink.measure
        (outcomes bound.algorithm service (b.nanos service request bound)
          (b.select service request bound).1) := by
  rw [result_select_eq_decide]
  simp only [select]
  split
  · rename_i record heq
    rw [heq]
    rfl
  · rename_i f heq
    rw [heq]
    rfl

/-- **By any chooser**, a selection measures one outcome. -/
theorem tells_select (b : Balancer) (service : String) (request : Request) (bound : BoundRoute) :
    Tells Measurement.isOutcome
      (outcomes bound.algorithm service (b.nanos service request bound)
        (b.select service request bound).1) b.sink (b.select service request bound).2.sink := by
  have hdecided := tells_decide (b := b) fun t candidates =>
    tellsExhaustion_outcome.mpr (tells_choose t bound.chooser service bound.policy request candidates)
  have houtcome : Tells Measurement.isOutcome _ _ (b.select service request bound).2.sink :=
    ⟨_, sink_select b service request bound, filter_outcomes _ _ _ _⟩
  rw [filter_causes] at hdecided
  exact hdecided.trans houtcome

/-- A failed selection is about the service that was asked for. -/
theorem service_of_failure_select {a : Algorithm} (hrule : bound.chooser.rule = .ofAlgorithm a)
    {f : Failure} (h : (b.select service request bound).1 = .error f) : f.service = service := by
  rw [result_select] at h
  split at h
  · cases h
    rfl
  · split at h
    · cases h
      rfl
    · rw [answer_choose_ofAlgorithm hrule] at h
      unfold answerOf at h
      split at h <;> cases h <;> rfl

/-- The cause that is counted is the one that is answered, if the rules read the request: a chooser is
left without candidates only if a rule has forgotten them. -/
theorem causes_eq_cause {a : Algorithm} (hrule : bound.chooser.rule = .ofAlgorithm a)
    (hr : b.registry.Sound) (hreads : b.rules.ReadsRequest bound.policy.ruleSet) :
    b.causes service request bound.policy (b.select service request bound).1 =
      cause service bound.policy (b.select service request bound).1 := by
  have hends : Ends b service request bound.policy _ := ends_of_readsRequest hrule hr hreads
  generalize (b.select service request bound).1 = result at hends ⊢
  cases hends with
  | unlisted hlisted => exact if_pos hlisted
  | unfound hlisted hfound =>
      rw [causes, if_neg hlisted, if_pos hfound]
      rfl
  | unreachable hlisted hfound hnone =>
      rw [causes, if_neg hlisted, if_neg hfound]
      rfl
  | chosen hlisted hfound hid hreachable hlatest =>
      rw [causes, if_neg hlisted, if_neg hfound]
      rfl

/-- What a selection by the rule of an algorithm measures: the cause, if it fails, and the outcome. -/
def account (b : Balancer) (service : String) (request : Request) (bound : BoundRoute) :
    List Measurement :=
  cause service bound.policy (b.select service request bound).1 ++
    outcomes bound.algorithm service (b.nanos service request bound) (b.select service request bound).1

/-- **By the rule of an algorithm**, and by rules that read the request, a selection measures its cause, if
it fails, and its outcome, and nothing else. -/
theorem sink_select_ofAlgorithm {a : Algorithm} (hrule : bound.chooser.rule = .ofAlgorithm a)
    (hr : b.registry.Sound) (hreads : b.rules.ReadsRequest bound.policy.ruleSet) :
    (b.select service request bound).2.sink = b.sink.measure (b.account service request bound) := by
  have hdecided : Tells (fun _ => true) _ b.sink (b.decide service request bound).2.2.sink :=
    tells_decide fun t candidates =>
      tells_choose_ofAlgorithm hrule t service bound.policy request candidates
  rw [List.filter_true, ← result_select_eq_decide, causes_eq_cause hrule hr hreads] at hdecided
  rw [sink_select, hdecided.eq_measure, ← Sink.measure_append, account]

/-- What becomes of a sink in memory by a selection. -/
structure Accounts (b : Balancer) (service : String) (request : Request) (bound : BoundRoute) :
    Prop where
  measured : (b.select service request bound).2.sink =
    b.sink.measure (b.account service request bound)
  total : ∀ name filter, (b.select service request bound).2.sink.total name filter =
    (b.sink.total name filter +
      Measurement.sumAdds name filter (b.account service request bound)) % size64
  timings : ∀ name filter, ((b.select service request bound).2.sink.timings name filter).Perm
    (Measurement.allTimes name filter (b.account service request bound) ++ b.sink.timings name filter)
  /-- A call that fails before an instance is chosen takes no time that counts. -/
  untimed : ∀ f, (b.select service request bound).1 = .error f →
    f = .noInstances service ∨ f = .noCandidates service → b.nanos service request bound = 0
  blamed : ∀ f, (b.select service request bound).1 = .error f → f.service = service

theorem accounts_select {a : Algorithm} (hrule : bound.chooser.rule = .ofAlgorithm a)
    (hr : b.registry.Sound) (hreads : b.rules.ReadsRequest bound.policy.ruleSet) {t : Tally Labels}
    (hsink : b.sink = .memory t) : Accounts b service request bound where
  measured := sink_select_ofAlgorithm hrule hr hreads
  total := by
    intro name filter
    rw [sink_select_ofAlgorithm hrule hr hreads, hsink]
    exact Sink.total_measure t _ name filter
  timings := by
    intro name filter
    rw [sink_select_ofAlgorithm hrule hr hreads, hsink]
    exact Sink.timings_measure t _ name filter
  untimed := by
    intro f hfailed hearly
    refine nanos_of_unfound ?_
    have hends : Ends b service request bound.policy _ := ends_of_readsRequest hrule hr hreads
    rcases hearly with rfl | rfl
    · exact found_eq_nil_of_listed (hends.unlisted_iff.mp hfailed)
    · exact (hends.unfound_iff.mp hfailed).2
  blamed := by
    intro f hfailed
    exact service_of_failure_select hrule hfailed

/-! ### Routing -/

/-- A route without a service counts its failure, and is not timed. -/
theorem route_of_no_service [Url.DomainNames] (h : request.service? = none) :
    (b.route request bound).1 = .error (.noInstances "") ∧
      Tells Measurement.isOutcome [failed bound.algorithm (.noInstances "")] b.sink
        (b.route request bound).2.2.sink := by
  unfold route
  rw [h]
  exact ⟨rfl, .measure b.sink [failed bound.algorithm (.noInstances "")]⟩

/-- A failed selection is a failed route, and nothing more is measured. -/
theorem route_of_select_error [Url.DomainNames] (h : request.service? = some service) {f : Failure}
    (hselect : (b.select service request bound).1 = .error f) :
    (b.route request bound).1 = .error f ∧
      (b.route request bound).2.2.sink = (b.select service request bound).2.sink := by
  unfold route
  rw [h]
  dsimp only
  split
  · rename_i g t heq
    rw [heq] at hselect ⊢
    exact ⟨hselect, rfl⟩
  · rename_i record t heq
    rw [heq] at hselect
    cases hselect

/-- A successful selection of an instance whose address is of use is a successful route. -/
theorem route_of_select_ok [Url.DomainNames] (h : request.service? = some service) {record : Instance}
    (hselect : (b.select service request bound).1 = .ok record) {target : Url}
    (htarget : forwardTarget request.target record = some target) :
    (b.route request bound).1 = .ok record ∧
      (b.route request bound).2.2.sink = (b.select service request bound).2.sink := by
  unfold route
  rw [h]
  dsimp only
  split
  · rename_i g t heq
    rw [heq] at hselect
    cases hselect
  · rename_i other t heq
    rw [heq] at hselect ⊢
    cases hselect
    rw [htarget]
    exact ⟨rfl, rfl⟩

/-- If the address is of no use, the route fails, and one more failure is counted. -/
theorem route_of_invalid_target [Url.DomainNames] (h : request.service? = some service)
    {record : Instance} (hselect : (b.select service request bound).1 = .ok record)
    (htarget : forwardTarget request.target record = none) :
    (b.route request bound).1 = .error (.invalidTarget service record.id) ∧
      Tells Measurement.isOutcome [failed bound.algorithm (.invalidTarget service record.id)]
        (b.select service request bound).2.sink (b.route request bound).2.2.sink := by
  unfold route
  rw [h]
  dsimp only
  split
  · rename_i g t heq
    rw [heq] at hselect
    cases hselect
  · rename_i other t heq
    rw [heq] at hselect ⊢
    cases hselect
    rw [htarget]
    refine ⟨rfl, ?_⟩
    exact (Tells.measure t.sink [failed bound.algorithm (.invalidTarget service record.id)]).then_nothing
      (tells_disconnect _ record.id)

/-- What a route for a service answers and measures, after the selection that it makes. -/
structure RoutesFor [Url.DomainNames] (b : Balancer) (request : Request) (bound : BoundRoute)
    (service : String) : Prop where
  failed : ∀ f, (b.select service request bound).1 = .error f →
    (b.route request bound).1 = .error f ∧
      Tells Measurement.isOutcome
        (outcomes bound.algorithm service (b.nanos service request bound) (.error f)) b.sink
        (b.route request bound).2.2.sink
  forwarded : ∀ record, (b.select service request bound).1 = .ok record →
    forwardTarget request.target record ≠ none →
      (b.route request bound).1 = .ok record ∧
        Tells Measurement.isOutcome
          (outcomes bound.algorithm service (b.nanos service request bound) (.ok record)) b.sink
          (b.route request bound).2.2.sink
  /-- A success has been counted and timed before the failure is counted. -/
  misaddressed : ∀ record, (b.select service request bound).1 = .ok record →
    forwardTarget request.target record = none →
      (b.route request bound).1 = .error (.invalidTarget service record.id) ∧
        Tells Measurement.isOutcome
          (outcomes bound.algorithm service (b.nanos service request bound) (.ok record) ++
            [Balancer.failed bound.algorithm (.invalidTarget service record.id)]) b.sink
          (b.route request bound).2.2.sink

theorem routesFor [Url.DomainNames] (h : request.service? = some service) :
    RoutesFor b request bound service where
  failed := by
    intro f hselect
    have htold := tells_select b service request bound
    obtain ⟨hresult, hafter⟩ := route_of_select_error h hselect
    rw [hselect, ← hafter] at htold
    exact ⟨hresult, htold⟩
  forwarded := by
    intro record hselect htarget
    have htold := tells_select b service request bound
    obtain ⟨target, htarget⟩ := Option.ne_none_iff_exists'.mp htarget
    obtain ⟨hresult, hafter⟩ := route_of_select_ok h hselect htarget
    rw [hselect, ← hafter] at htold
    exact ⟨hresult, htold⟩
  misaddressed := by
    intro record hselect htarget
    have htold := tells_select b service request bound
    obtain ⟨hresult, hafter⟩ := route_of_invalid_target h hselect htarget
    rw [hselect] at htold
    exact ⟨hresult, htold.trans hafter⟩

end Balancer

/-! ### What agrees with an outcome -/

/-- What can be read of a sink before and after a call agrees with what the call answers: one selection
or one failure more, the failure under its reason, and one observation more, under the word for the
outcome. -/
structure Sink.Truthful (result : Except Failure Instance) (s s' : Sink) : Prop where
  selections : s'.total Metric.selections [] =
    (s.total Metric.selections [] + if result.isOk then 1 else 0) % size64
  failures : s'.total Metric.failedSelections [] =
    (s.total Metric.failedSelections [] + if result.isOk then 0 else 1) % size64
  reason : ∀ f, result = .error f → s'.total Metric.failedSelections [("reason", f.reason)] =
    (s.total Metric.failedSelections [("reason", f.reason)] + 1) % size64
  timed : (s'.timings Metric.selectionDuration []).length =
    (s.timings Metric.selectionDuration []).length + 1
  outcome : (s'.timings Metric.selectionDuration
      [("outcome", Balancer.outcomeWord result)]).length =
    (s.timings Metric.selectionDuration [("outcome", Balancer.outcomeWord result)]).length + 1

namespace Balancer

open Sink (Tells Truthful)

variable {b : Balancer} {t : Tally Labels} {s' : Sink}

theorem sumAdds_selections (a : Algorithm) (service : String) (nanos : Nat)
    (result : Except Failure Instance) :
    Measurement.sumAdds Metric.selections [] (outcomes a service nanos result) =
      if result.isOk then 1 else 0 := by
  cases result <;> rfl

theorem sumAdds_failures (a : Algorithm) (service : String) (nanos : Nat)
    (result : Except Failure Instance) :
    Measurement.sumAdds Metric.failedSelections [] (outcomes a service nanos result) =
      if result.isOk then 0 else 1 := by
  cases result <;> rfl

theorem sumAdds_reason (a : Algorithm) (service : String) (nanos : Nat) (f : Failure) :
    Measurement.sumAdds Metric.failedSelections [("reason", f.reason)]
      (outcomes a service nanos (.error f)) = 1 := by
  have hpasses : Sink.passes [("reason", f.reason)] (Labels.ofList
      [("reason", f.reason), ("algorithm", a.name), ("service", f.service)]) = true := by
    simp [Sink.passes, Labels.ofList]
  simp [Measurement.sumAdds, outcomes, failed, Measurement.adds, hpasses]

theorem length_allTimes (a : Algorithm) (service : String) (nanos : Nat)
    (result : Except Failure Instance) :
    (Measurement.allTimes Metric.selectionDuration [] (outcomes a service nanos result)).length = 1 := by
  cases result <;> rfl

theorem length_allTimes_outcome (a : Algorithm) (service : String) (nanos : Nat)
    (result : Except Failure Instance) :
    (Measurement.allTimes Metric.selectionDuration [("outcome", outcomeWord result)]
      (outcomes a service nanos result)).length = 1 := by
  have hpasses : Sink.passes [("outcome", outcomeWord result)] (Labels.ofList
      [("algorithm", a.name), ("service", service), ("outcome", outcomeWord result)]) = true := by
    simp [Sink.passes, Labels.ofList]
  cases result <;> simp [Measurement.allTimes, outcomes, failed, Measurement.times, hpasses]

/-- The measurements of one outcome agree with it. -/
theorem truthful_of_tells {a : Algorithm} {service : String} {nanos : Nat}
    {result : Except Failure Instance}
    (h : Tells Measurement.isOutcome (outcomes a service nanos result) (.memory t) s') :
    Truthful result (.memory t) s' where
  selections := by rw [h.total (by simp), sumAdds_selections]
  failures := by rw [h.total (by simp), sumAdds_failures]
  reason := by
    rintro f rfl
    rw [h.total (by simp), sumAdds_reason]
  timed := by rw [h.length_timings, length_allTimes]
  outcome := by rw [h.length_timings, length_allTimes_outcome]

/-- Without an observation, nothing agrees. -/
theorem not_truthful_of_untimed {a : Algorithm} {f : Failure} {result : Except Failure Instance}
    (h : Tells Measurement.isOutcome [failed a f] (.memory t) s') : ¬Truthful result (.memory t) s' := by
  intro htruthful
  have htimed := htruthful.timed
  rw [h.length_timings] at htimed
  exact absurd htimed (Nat.ne_of_lt (Nat.lt_succ_self _))

/-- Neither does a success that has been counted agree with a failure. -/
theorem not_truthful_of_success {a : Algorithm} {service : String} {nanos : Nat} {record : Instance}
    {f g : Failure}
    (h : Tells Measurement.isOutcome (outcomes a service nanos (.ok record) ++ [failed a f])
      (.memory t) s') : ¬Truthful (.error g) (.memory t) s' := by
  intro htruthful
  have hcounted := htruthful.selections
  have hrange : (Sink.memory t).total Metric.selections [] < size64 := Nat.mod_lt _ (by decide)
  rw [h.total (by simp), show Measurement.sumAdds Metric.selections []
    (outcomes a service nanos (.ok record) ++ [failed a f]) = 1 from rfl] at hcounted
  simp only [Except.isOk, Except.toBool, Bool.false_eq_true, if_false, Nat.add_zero] at hcounted
  unfold size64 at hcounted hrange
  omega

/-- **What a route measures.**  If a sink in memory is told, what can be read of it agrees with the
outcome exactly if the target has a service, and the address of a selected instance is of use. A route
without a service counts its failure and is not timed. -/
theorem route_accounts [Url.DomainNames] (hsink : b.sink = .memory t) (request : Request)
    (bound : BoundRoute) : (request.service? = none →
      (b.route request bound).1 = .error (.noInstances "") ∧
        Tells Measurement.isOutcome [failed bound.algorithm (.noInstances "")] b.sink
          (b.route request bound).2.2.sink) ∧
    (∀ service, request.service? = some service → RoutesFor b request bound service) ∧
    (Truthful (b.route request bound).1 b.sink (b.route request bound).2.2.sink ↔
      ∃ service, request.service? = some service ∧
        ∀ record, (b.select service request bound).1 = .ok record →
          forwardTarget request.target record ≠ none) := by
  refine ⟨route_of_no_service, fun service => routesFor, ?_⟩
  constructor
  · intro htruthful
    rw [hsink] at htruthful
    cases hservice : request.service? with
    | none =>
        obtain ⟨-, htold⟩ : (b.route request bound).1 = .error (.noInstances "") ∧ _ :=
          route_of_no_service hservice
        rw [hsink] at htold
        exact absurd htruthful (not_truthful_of_untimed htold)
    | some service =>
        refine ⟨service, rfl, ?_⟩
        intro record hselect htarget
        obtain ⟨hresult, htold⟩ := (routesFor hservice).misaddressed record hselect htarget
        rw [hsink] at htold
        rw [hresult] at htruthful
        exact not_truthful_of_success htold htruthful
  · rintro ⟨service, hservice, htarget⟩
    have hroutes : RoutesFor b request bound service := routesFor hservice
    cases hselect : (b.select service request bound).1 with
    | error f =>
        obtain ⟨hresult, htold⟩ := hroutes.failed f hselect
        rw [hsink] at htold ⊢
        rw [hresult]
        exact truthful_of_tells htold
    | ok record =>
        obtain ⟨hresult, htold⟩ := hroutes.forwarded record hselect (htarget record hselect)
        rw [hsink] at htold ⊢
        rw [hresult]
        exact truthful_of_tells htold

/-- The instance at an address of no use is down, so that the other one is selected. -/
theorem route_accounts_addressed :
    let misaddressed := Instance.plain "a" "s" "bad host" 80
    let record := Instance.plain "b" "s" "10.0.0.1" 8080
    let b := { Balancer.new ⟨id, id⟩ with
      discovery := Discovery.empty.replace "s" [misaddressed, record]
      registry := ((Registry.empty.observe "s" [misaddressed]).mark "a" .unhealthy).2 }
    let bound : BoundRoute :=
      ⟨{ Policy.default with fallbackToAll := true }, ⟨1, .ofAlgorithm .roundRobin⟩⟩
    let request := Request.ofTarget
      ⟨"lb", some ⟨"", "", .name "s", none⟩, .segments ["p"], none, none⟩
    b.sink = .memory .empty ∧
      (b.select "s" request bound).1 = .ok record ∧
      Truthful (b.route request bound).1 b.sink (b.route request bound).2.2.sink ∧
      (b.route request bound).1 = .ok record := by
  intro misaddressed record b bound request
  have hsink : b.sink = .memory .empty := rfl
  have hservice : request.service? = some "s" := by decide +kernel
  have hselect : (b.select "s" request bound).1 = .ok record := by decide +kernel
  have htarget : forwardTarget request.target record ≠ none := by decide +kernel
  obtain ⟨-, hsome, htruthful⟩ := route_accounts hsink request bound
  have hforwarded := ((hsome "s" hservice).forwarded record hselect htarget).1
  refine ⟨hsink, hselect, htruthful.mpr ⟨"s", hservice, ?_⟩, hforwarded⟩
  intro other hok
  rw [hselect] at hok
  cases hok
  exact htarget

/-- A target without a service makes a failure that is not timed. An instance whose address is of no use
makes a failure, and a success that has been counted and timed before. -/
theorem route_counts_failure_as_success :
    let record := Instance.plain "a" "s" "bad host" 80
    let b := { Balancer.new ⟨id, id⟩ with discovery := Discovery.empty.replace "s" [record] }
    let bound : BoundRoute :=
      ⟨{ Policy.default with fallbackToAll := true }, ⟨1, .ofAlgorithm .roundRobin⟩⟩
    let opaqueTarget := Request.ofTarget ⟨"lb", none, .bare "opaque", none, none⟩
    let request := Request.ofTarget
      ⟨"lb", some ⟨"", "", .name "s", none⟩, .segments [""], none, none⟩
    let reads := fun s : Sink => (s.total Metric.selections [], s.total Metric.failedSelections [],
      (s.timings Metric.selectionDuration []).length,
      (s.timings Metric.selectionDuration [("outcome", "success")]).length)
    Url.read "lb:opaque" = some opaqueTarget.target ∧ Url.read "lb://s/" = some request.target ∧
      (b.route opaqueTarget bound).1 = .error (.noInstances "") ∧
      reads (b.route opaqueTarget bound).2.2.sink = (0, 1, 0, 0) ∧
      (b.route request bound).1 = .error (.invalidTarget "s" "a") ∧
      reads (b.route request bound).2.2.sink = (1, 1, 1, 1) := by
  decide +kernel

end Balancer

end LoadBalancer

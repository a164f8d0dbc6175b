import Mathlib
import LoadBalancer.Proofs.Balancer.Course
import LoadBalancer.Proofs.Rule

/-!
# The stages of a selection

A selection goes through stages, each of which works on what the one before it leaves.

* `Balancer.observed`, `Balancer.matched`, `Balancer.found`, `Balancer.offered` – the instances of the
  service are seen, the rules are asked, some instances are found, and their statuses are taken;
* `Balancer.matched_of_readsRequest` – asking rules that read the request;
* `Balancer.decide_of_unlisted`, `Balancer.decide_of_unfound`, `Balancer.decide_of_found`,
  `Balancer.result_select` – how a selection goes on, stage by stage, and its answer;
* `Balancer.pick_ofAlgorithm`, `Balancer.registry_pick_ofAlgorithm` – the rule of an algorithm picks an
  index of its pool, and leaves the registry alone;
* `Balancer.choose_of_unreachable`, `Balancer.choose_of_pick` – what is chosen by such a rule.
-/

namespace LoadBalancer

/-! ### Least loaded instances -/

/-- The first of the least loaded instances stands in the pool. -/
theorem leastFrom_bounds {i j load : Nat} {pool : List Status}
    (h : leastFrom i pool = some (j, load)) : i ≤ j ∧ j < i + pool.length := by
  induction pool generalizing i j load with
  | nil => cases h
  | cons s rest ih =>
      rw [List.length_cons]
      unfold leastFrom at h
      split at h
      · rename_i k load' heq
        have hrest := ih heq
        split at h
        · cases h
          omega
        · cases h
          omega
      · cases h
        omega

theorem leastLoaded_of_ne_nil {pool : List Status} (h : pool ≠ []) :
    ∃ i, leastLoaded pool = some i ∧ i < pool.length := by
  have hsome : (leastFrom 0 pool).isSome = true := by
    cases pool with
    | nil => exact absurd rfl h
    | cons s rest =>
        unfold leastFrom
        split
        · split <;> rfl
        · rfl
  obtain ⟨⟨i, load⟩, heq⟩ := Option.isSome_iff_exists.mp hsome
  have hbounds := leastFrom_bounds heq
  refine ⟨i, ?_, by omega⟩
  unfold leastLoaded
  rw [heq]
  rfl

namespace Balancer

/-! ### Picks by the rule of an algorithm -/

section Picks

variable {b : Balancer} {chooser : Chooser} {a : Algorithm}

theorem registry_pick_ofAlgorithm (h : chooser.rule = .ofAlgorithm a) (service : String)
    (request : Request) (pool : List Status) :
    (pick chooser service request pool b).2.registry = b.registry := by
  unfold pick
  rw [h]
  cases a <;> rfl

/-- The rule of an algorithm picks an index of every pool that is not empty. -/
theorem pick_ofAlgorithm (h : chooser.rule = .ofAlgorithm a) (service : String) (request : Request)
    {pool : List Status} (hpool : pool ≠ []) :
    ∃ i, (pick chooser service request pool b).1 = some i ∧ i < pool.length := by
  have hlength : 0 < pool.length := List.length_pos_of_ne_nil hpool
  have hleast := leastLoaded_of_ne_nil hpool
  have hroll : ∃ i, some (b.roll pool.length).1 = some i ∧ i < pool.length :=
    ⟨_, rfl, Nat.mod_lt _ hlength⟩
  have hturn : ∃ i, some (b.turn chooser.serial service pool.length).1 = some i ∧ i < pool.length :=
    ⟨_, rfl, Nat.mod_lt _ hlength⟩
  have hhash : ∀ key, ∃ i, some (hashIndex (request.hashText key) pool.length) = some i ∧
      i < pool.length := fun key => ⟨_, rfl, Nat.mod_lt _ hlength⟩
  unfold pick
  rw [h]
  cases a with
  | random => exact hroll
  | weightedRandom => exact hroll
  | roundRobin => exact hturn
  | weightedRoundRobin => exact hturn
  | destinationHash => exact hhash .destination
  | sourceHash => exact hhash .source
  | _ => exact hleast

theorem choose_ofAlgorithm (h : chooser.rule = .ofAlgorithm a) (b : Balancer) (service : String)
    (policy : Policy) (request : Request) (candidates : List Status) :
    b.choose chooser service policy request candidates =
      b.chooseByAttempts chooser service policy request candidates := by
  unfold choose
  rw [h]
  cases a <;> rfl

/-! ### Attempts by the rule of an algorithm -/

variable {service : String} {policy : Policy} {request : Request} {candidates : List Status}

theorem registry_sleep (b : Balancer) (d : Duration) : (b.sleep d).registry = b.registry := by
  unfold sleep
  rfl

theorem cursors_sleep (b : Balancer) (d : Duration) : (b.sleep d).cursors = b.cursors := by
  unfold sleep
  rfl

theorem keeps_registry (h : chooser.rule = .ofAlgorithm a) (r : Registry) :
    (surroundings chooser service policy request).Keeps fun t => t.registry = r where
  pick := by
    intro pool t ht
    exact (registry_pick_ofAlgorithm h service request pool).trans ht
  pause := by
    intro t ht
    simp only [surroundings, registry_sleep]
    exact ht

/-- By the rule of an algorithm, a choice answers the outcome of its attempts. -/
theorem answer_choose_ofAlgorithm (h : chooser.rule = .ofAlgorithm a) (b : Balancer) (service : String)
    (policy : Policy) (request : Request) (candidates : List Status) :
    (b.choose chooser service policy request candidates).1 = answerOf service policy
      (attempt (surroundings chooser service policy request) ⟨service, policy.lenient, candidates⟩
        (tries policy) b).1 := by
  rw [choose_ofAlgorithm h, chooseByAttempts, answer_chooseIn]

/-- The service has candidates, and none of them may get requests. -/
theorem choose_of_unreachable (h : chooser.rule = .ofAlgorithm a)
    (ha : Demand.available ⟨service, policy.lenient, candidates⟩ b.registry ≠ [])
    (hp : Demand.pool ⟨service, policy.lenient, candidates⟩ b.registry = []) :
    (b.choose chooser service policy request candidates).1 =
      .error (.retriesExhausted service (tries policy)
        (Demand.available ⟨service, policy.lenient, candidates⟩ b.registry).length) := by
  obtain ⟨left, hleft⟩ := tries_eq_succ policy
  have hkeeps : (surroundings chooser service policy request).Keeps
      fun t => t.registry = b.registry := keeps_registry h b.registry
  have hends := attempt_of_unreachable hkeeps (s := b) rfl ha hp left
  rw [← hleft] at hends
  rw [answer_choose_ofAlgorithm h, hends]
  rfl

/-- Nothing is picked if none of the candidates may get requests: the cursors stay where they are. -/
theorem cursors_choose_of_unreachable (h : chooser.rule = .ofAlgorithm a)
    (hp : Demand.pool ⟨service, policy.lenient, candidates⟩ b.registry = []) :
    (b.choose chooser service policy request candidates).2.cursors = b.cursors := by
  have hpause : ∀ t : Balancer, t.registry = b.registry ∧ t.cursors = b.cursors →
      (t.sleep policy.backoff).registry = b.registry ∧ (t.sleep policy.backoff).cursors = b.cursors := by
    intro t ht
    rw [registry_sleep, cursors_sleep]
    exact ht
  have hpool : ∀ t : Balancer, t.registry = b.registry ∧ t.cursors = b.cursors →
      Demand.pool ⟨service, policy.lenient, candidates⟩ t.registry = [] := by
    intro t ht
    rw [ht.1, hp]
  have hends : (attempt (surroundings chooser service policy request)
      ⟨service, policy.lenient, candidates⟩ (tries policy) b).2.registry = b.registry ∧ (attempt
        (surroundings chooser service policy request) ⟨service, policy.lenient, candidates⟩
        (tries policy) b).2.cursors = b.cursors :=
    attempt_keeps_of_unpicked (I := fun t : Balancer => t.registry = b.registry ∧ t.cursors = b.cursors)
      hpool hpause (tries policy) ⟨rfl, rfl⟩
  rw [choose_ofAlgorithm h]
  unfold chooseByAttempts chooseIn
  generalize attempt _ _ _ b = ended at hends
  obtain ⟨outcome, t⟩ := ended
  cases outcome <;> exact hends.2

/-- The instance that is picked first is chosen. -/
theorem choose_of_pick (h : chooser.rule = .ofAlgorithm a) (hr : b.registry.Sound) {i : Nat}
    (hi : (pick chooser service request
      (Demand.pool ⟨service, policy.lenient, candidates⟩ b.registry) b).1 = some i)
    (hlt : i < (Demand.pool ⟨service, policy.lenient, candidates⟩ b.registry).length) :
    b.choose chooser service policy request candidates =
      (.ok (Demand.pool ⟨service, policy.lenient, candidates⟩ b.registry)[i].record,
        (pick chooser service request
          (Demand.pool ⟨service, policy.lenient, candidates⟩ b.registry) b).2) := by
  obtain ⟨left, hleft⟩ := tries_eq_succ policy
  have hp : Demand.pool ⟨service, policy.lenient, candidates⟩ b.registry ≠ [] :=
    List.ne_nil_of_length_pos (Nat.zero_lt_of_lt hlt)
  have ha : Demand.available ⟨service, policy.lenient, candidates⟩ b.registry ≠ [] :=
    fun hnil => hp (Demand.pool_eq_nil_of_available hnil)
  have hkeeps : (surroundings chooser service policy request).Keeps
      fun t => t.registry = b.registry := keeps_registry h b.registry
  have hends := attempt_of_pick hkeeps (s := b) rfl ha hi hlt
    (fun _ => Demand.isAlive_of_mem_pool hr) left
  rw [choose_ofAlgorithm h, chooseByAttempts, chooseIn, hleft, hends]
  rfl

variable (service policy request candidates) in
/-- Some candidate of the service may get requests. -/
theorem choose_of_reachable (h : chooser.rule = .ofAlgorithm a) (hr : b.registry.Sound)
    (hp : Demand.pool ⟨service, policy.lenient, candidates⟩ b.registry ≠ []) :
    ∃ c ∈ Demand.pool ⟨service, policy.lenient, candidates⟩ b.registry,
      (b.choose chooser service policy request candidates).1 = .ok c.record := by
  obtain ⟨i, hi, hlt⟩ := pick_ofAlgorithm (b := b) h service request hp
  exact ⟨_, List.getElem_mem hlt, congrArg Prod.fst (choose_of_pick h hr hi hlt)⟩

end Picks

/-! ### Stages -/

/-- The registry that has seen the instances of a service. -/
def observed (b : Balancer) (service : String) : Registry :=
  b.registry.observe service (b.listed service)

/-- The names of the rules that apply to a request, and the registry after they were asked. -/
def matched (b : Balancer) (service : String) (request : Request) (policy : Policy) :
    List String × Registry :=
  b.rules.matching request policy.ruleSet (b.observed service)

/-- The instances of a service that may serve a request. -/
def found (b : Balancer) (service : String) (request : Request) (policy : Policy) :
    List Instance :=
  eligible policy (b.matched service request policy).1 (b.listed service)

/-- Their statuses, and the registry after these were taken. -/
def offered (b : Balancer) (service : String) (request : Request) (policy : Policy) :
    List Status × Registry :=
  (b.matched service request policy).2.statusesOf (b.found service request policy)

/-- Rules that read the request leave the registry as it is. -/
theorem matched_of_readsRequest {b : Balancer} {policy : Policy}
    (h : b.rules.ReadsRequest policy.ruleSet) (service : String) (request : Request) :
    b.matched service request policy =
      (Rule.applying request (b.rules.rules policy.ruleSet), b.observed service) :=
  RuleBook.matching_of_readsRequest h request (b.observed service)

/-- Only instances of the service are found. -/
theorem mem_listed_of_mem_found {b : Balancer} {service : String} {request : Request}
    {policy : Policy} {record : Instance} (h : record ∈ b.found service request policy) :
    record ∈ b.listed service := by
  unfold found eligible markedBy at h
  split at h
  · split at h
    · exact h
    · cases h
  · exact (List.mem_filter.mp h).1

theorem found_eq_nil_of_listed {b : Balancer} {service : String} {request : Request}
    {policy : Policy} (h : b.listed service = []) : b.found service request policy = [] := by
  rw [List.eq_nil_iff_forall_not_mem]
  intro record hmem
  have hlisted := mem_listed_of_mem_found hmem
  rw [h] at hlisted
  cases hlisted

/-- The candidates, stage by stage. -/
theorem candidates_eq (b : Balancer) (service : String) (request : Request) (policy : Policy) :
    b.candidates service request policy =
      if b.listed service = [] then
        (.error (.noInstances service), b.count Metric.noInstances [("service", service)] 1)
      else
        let t : Balancer := { b with registry := (b.matched service request policy).2 }
        if b.found service request policy = [] then
          (.error (.noCandidates service), t.count Metric.noCandidates [("service", service)] 1)
        else (.ok (b.found service request policy), t) := by
  simp only [candidates, List.isEmpty_iff]
  rfl

section Decide

variable {b : Balancer} {service : String} {request : Request} {bound : BoundRoute}

/-- No instance is listed. -/
theorem decide_of_unlisted (h : b.listed service = []) :
    b.decide service request bound =
      (.error (.noInstances service), 0, b.count Metric.noInstances [("service", service)] 1) := by
  simp only [decide, candidates_eq, if_pos h]

/-- Some are listed, but none is found. -/
theorem decide_of_unfound (hlisted : b.listed service ≠ [])
    (h : b.found service request bound.policy = []) :
    b.decide service request bound =
      (.error (.noCandidates service), 0,
        ({ b with registry := (b.matched service request bound.policy).2 } : Balancer).count
          Metric.noCandidates [("service", service)] 1) := by
  simp only [decide, candidates_eq, if_neg hlisted, if_pos h]

variable (b service request bound) in
/-- What is chosen of the statuses that are offered. -/
def picked : Except Failure Instance × Balancer :=
  ({ b with registry := (b.offered service request bound.policy).2 } : Balancer).choose
    bound.chooser service bound.policy request (b.offered service request bound.policy).1

/-- Some are found, and one of them is chosen. -/
theorem decide_of_found (h : b.found service request bound.policy ≠ []) :
    b.decide service request bound =
      ((b.picked service request bound).1, (b.picked service request bound).2.lapse) := by
  have hlisted : b.listed service ≠ [] := fun hnil => h (found_eq_nil_of_listed hnil)
  simp only [decide, candidates_eq, if_neg hlisted, if_neg h]
  rfl

/-- A selection answers what was decided. -/
theorem result_select_eq_decide (b : Balancer) (service : String) (request : Request)
    (bound : BoundRoute) :
    (b.select service request bound).1 = (b.decide service request bound).1 := by
  simp only [select]
  split
  · rename_i record heq
    exact heq.symm
  · rename_i f heq
    exact heq.symm

end Decide

/-- **The answer of a selection**, stage by stage. -/
theorem result_select (b : Balancer) (service : String) (request : Request) (bound : BoundRoute) :
    (b.select service request bound).1 =
      if b.listed service = [] then .error (.noInstances service)
      else if b.found service request bound.policy = [] then .error (.noCandidates service)
      else (({ b with registry := (b.offered service request bound.policy).2 } : Balancer).choose
        bound.chooser service bound.policy request (b.offered service request bound.policy).1).1 := by
  rw [result_select_eq_decide]
  by_cases hlisted : b.listed service = []
  · rw [if_pos hlisted, decide_of_unlisted hlisted]
  · rw [if_neg hlisted]
    by_cases hfound : b.found service request bound.policy = []
    · rw [if_pos hfound, decide_of_unfound hlisted hfound]
    · rw [if_neg hfound, decide_of_found hfound]
      rfl

end Balancer

end LoadBalancer

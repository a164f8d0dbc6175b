import Mathlib
import LoadBalancer.Proofs.Balancer.Sides
import LoadBalancer.Proofs.Registry.Twins

/-!
# Two balancers that are the same to us

What is done for a service of ours, with two balancers that are the same to us, has the same answer with both
and leaves them the same to us. Chosen at random would be another instance with each, so that choosers that
do that are left out.

* `Registry.twin_matching` – rules that are asked;
* `Twin.attempt` – **attempts** in two surroundings, by induction on their number;
* `Balancer.twin_connect`, `twin_disconnect` – connections;
* `Balancer.twin_attempt`, `twin_choose` – choosing;
* `Balancer.agree_decide`, `Balancer.twin_select`, `Balancer.twin_route` – **selecting and routing**.
-/

namespace LoadBalancer

variable {side : Side}

/-! ### Rules -/

namespace Registry

variable {r r' : Registry}

theorem twin_holds (h : Agree side r r') (request : Request) {condition : Condition}
    (hevicted : ∀ id, condition.evicted? = some id → side.ids id = true) :
    Twin (Agree side) (condition.holds request r) (condition.holds request r') := by
  cases condition with
  | evict id => exact twin_evict h (hevicted id rfl)
  | _ => exact .intro _ h

/-- **Rules that are asked**, by induction on them. -/
theorem twin_matching (h : Agree side r r') (request : Request) {rules : List Rule}
    (hevicted : ∀ rule ∈ rules, ∀ id, rule.condition.evicted? = some id → side.ids id = true) :
    Twin (Agree side) (Rule.matching request rules r) (Rule.matching request rules r') := by
  induction rules generalizing r r' with
  | nil => exact .intro [] h
  | cons rule rest ih =>
      obtain ⟨hfirst, hafter⟩ := twin_holds h request (hevicted rule List.mem_cons_self)
      obtain ⟨hlater, hend⟩ := ih hafter fun other hother => hevicted other (List.mem_cons_of_mem _ hother)
      refine ⟨?_, hend⟩
      simp only [Rule.matching, hfirst, hlater]

end Registry

/-! ### Pools -/

namespace Demand

variable {r r' : Registry} (h : Registry.Agree side r r') (hr : Registry.Apart side r) (d : Demand)
variable (hservice : side.services d.service = true)

include h hr hservice

theorem available_of_agree : d.available r' = d.available r := by
  unfold available
  rw [h.all hr hservice]

theorem pool_of_agree : d.pool r' = d.pool r := by
  unfold pool
  rw [d.available_of_agree h hr hservice, h.reachable hr hservice]

omit h in
/-- What is in the pool of a service of ours is ours. -/
theorem ids_of_mem_pool {c : Status} (hc : c ∈ d.pool r) : side.ids c.id = true := by
  have hall := (r.reachable_sublist d.lenient d.service).subset (mem_of_mem_intersect hc)
  have hhas := hr.has_of_mem_all hall
  rw [hservice] at hhas
  exact Side.ids_of_has hhas

end Demand

/-! ### Attempts -/

/-- **Attempts in two surroundings**, by induction on their number: if the candidates that the service has
are the same, if what is picked is the same, and if pauses keep states related, then the attempts have the
same outcome. -/
theorem Twin.attempt {σ : Type} {same : σ → σ → Prop} {env env' : Surroundings σ} {d : Demand}
    (havailable : ∀ s s', same s s' → d.available (env'.registry s') = d.available (env.registry s))
    (hpicked : ∀ s s', same s s' → Twin same (pickFrom env d.lenient (d.pool (env.registry s)) s)
      (pickFrom env' d.lenient (d.pool (env'.registry s')) s'))
    (hpause : ∀ s s', same s s' → same (env.pause s) (env'.pause s')) (tries : Nat) {s s' : σ}
    (h : same s s') : Twin same (attempt env d tries s) (attempt env' d tries s') := by
  induction tries generalizing s s' with
  | zero => exact .intro _ h
  | succ left ih =>
      obtain ⟨hchosen, hafter⟩ := hpicked s s' h
      rw [attempt_succ, attempt_succ, havailable s s' h]
      split
      · exact .intro _ h
      · dsimp only
        rw [hchosen]
        cases (pickFrom env d.lenient (d.pool (env.registry s)) s).1 with
        | some c => exact .intro _ hafter
        | none =>
            dsimp only [Surroundings.resume]
            split
            · exact .intro _ hafter
            · exact ih (hpause _ _ hafter)

namespace Balancer

variable {b b' : Balancer}

/-! ### Connections -/

section Connections

variable (h : Agree side b b')

include h

theorem Agree.measured (ms : List Measurement) :
    Agree side { b with sink := b.sink.measure ms } { b' with sink := b'.sink.measure ms } :=
  { h with sink := h.sink.measure fun _ _ _ => rfl }

theorem Agree.onRegistry {r r' : Registry} (hr : Registry.Agree side r r') :
    Agree side { b with registry := r } { b' with registry := r' } :=
  { h with registry := hr }

theorem Agree.add (record : Instance) :
    Agree side { b with discovery := b.discovery.add record }
      { b' with discovery := b'.discovery.add record } := by
  refine { h with lists := ?_ }
  intro service hservice
  rw [Discovery.list_add, Discovery.list_add, h.lists service hservice]

theorem Agree.remove {service : String} (hservice : side.services service = true) (id : String) :
    let removed := fun t : Balancer => t.discovery.remove service id
    Twin (Agree side) ((removed b).1, { b with discovery := (removed b).2 })
      ((removed b').1, { b' with discovery := (removed b').2 }) := by
  refine ⟨?_, { h with lists := ?_, failing := ?_ }⟩
  · dsimp only
    unfold Discovery.remove
    dsimp only
    rw [h.lists service hservice]
    split <;> rfl
  · intro other hother
    rw [Discovery.list_remove, Discovery.list_remove, h.lists other hother]
  · rw [Discovery.failing_remove, Discovery.failing_remove, h.failing]

theorem Agree.replace (service : String) (records : List Instance) :
    Agree side { b with discovery := b.discovery.replace service records }
      { b' with discovery := b'.discovery.replace service records } := by
  refine { h with lists := ?_ }
  intro other hother
  rw [Discovery.list_replace, Discovery.list_replace, h.lists other hother]

theorem twin_connect {record : Instance} (hrecord : side.has true record = true) :
    Twin (Agree side) (b.connect record) (b'.connect record) := by
  obtain ⟨hanswer, hafter⟩ := Registry.twin_connect h.registry hrecord
  exact ⟨hanswer, h.onRegistry hafter⟩

theorem twin_disconnect {id : String} (hid : side.ids id = true) :
    Twin (Agree side) (b.disconnect id) (b'.disconnect id) := by
  obtain ⟨-, hafter⟩ := Registry.twin_disconnect h.registry hid
  have hmissed : b'.missed id = b.missed id := by
    unfold missed
    rw [h.reports, h.registry.connections hid]
  refine ⟨?_, ?_⟩
  · rw [answer_disconnect, answer_disconnect, registry_disconnect, registry_disconnect,
      hafter.connections hid]
  · rw [disconnect_eq, disconnect_eq, hmissed]
    exact { h with registry := hafter, sink := h.sink.measure fun _ _ _ => rfl }

end Connections

/-! ### Choosing -/

section Choosing

variable {chooser : Chooser} {a : Algorithm} {service : String}
variable (hrule : chooser.rule = .ofAlgorithm a) (hrolls : a.rolls = false)
variable (hservice : side.services service = true)

/-- Clocks do not matter. -/
theorem Agree.clock (h : Agree side b b') (n n' : Nat) :
    Agree side { b with clock := n } { b' with clock := n' } := { h with }

theorem agree_sleep (h : Agree side b b') (d : Duration) : Agree side (b.sleep d) (b'.sleep d) := by
  unfold sleep
  exact h.clock _ _

include hservice

theorem twin_turn (h : Agree side b b') (serial n : Nat) :
    Twin (Agree side) (b.turn serial service n) (b'.turn serial service n) := by
  have hcursor := h.cursors serial service hservice
  refine ⟨?_, { h with cursors := ?_ }⟩
  · simp only [turn, hcursor]
  · intro other otherService hother
    have hbefore := h.cursors other otherService hother
    simp only [turn, cursor, Table.get?_put] at hcursor hbefore ⊢
    rw [hcursor]
    split
    · rfl
    · exact hbefore

include hrule hrolls

theorem twin_pick (h : Agree side b b') (request : Request) (pool : List Status) :
    Twin (Agree side) (pick chooser service request pool b) (pick chooser service request pool b') := by
  have hturn := twin_turn hservice h chooser.serial pool.length
  unfold pick
  rw [hrule]
  cases a with
  | random => cases hrolls
  | weightedRandom => cases hrolls
  | roundRobin => exact hturn.map some
  | weightedRoundRobin => exact hturn.map some
  | _ => exact .intro _ h

variable (policy : Policy) (request : Request)

/-- A pick out of a pool of ours. -/
theorem twin_pickFrom (h : Agree side b b') (lenient : Bool) {pool : List Status}
    (hpool : ∀ c ∈ pool, side.ids c.id = true) :
    let env := surroundings chooser service policy request
    Twin (Agree side) (pickFrom env lenient pool b) (pickFrom env lenient pool b') := by
  obtain ⟨hindex, hafter⟩ := twin_pick hrule hrolls hservice h request pool
  intro env
  unfold pickFrom
  split
  · exact .intro none h
  · refine ⟨?_, hafter⟩
    simp only [env, surroundings, hindex]
    cases hpicked : (pick chooser service request pool b).1.bind fun i => pool[i]? with
    | none => rfl
    | some c =>
        obtain ⟨i, -, hi⟩ := Option.bind_eq_some_iff.mp hpicked
        simp only [Option.filter, hafter.registry.isAlive lenient (hpool c (List.mem_of_getElem? hi))]

variable (hb : b.Apart side)

include hb

/-- **The attempts**: what is apart stays apart in a pick and in a pause. -/
theorem twin_attempt (h : Agree side b b') {d : Demand} (hd : d.service = service) (tries : Nat) :
    let env := surroundings chooser service policy request
    Twin (Agree side) (attempt env d tries b) (attempt env d tries b') := by
  intro env
  have hours : side.services d.service = true := by rw [hd, hservice]
  have hkeeps : env.Keeps (Apart side) :=
    ⟨fun pool t ht => (sided_pick ht hrule hservice request pool).apart,
      fun t ht => (sided_sleep true ht policy.backoff).apart⟩
  have hends : Twin (fun t t' => Agree side t t' ∧ Apart side t) (attempt env d tries b)
      (attempt env d tries b') := by
    refine .attempt ?_ ?_ ?_ tries ⟨h, hb⟩
    · intro t t' ⟨ht, hapart⟩
      exact d.available_of_agree ht.registry hapart.registry hours
    · intro t t' ⟨ht, hapart⟩
      have hpool : d.pool (env.registry t') = d.pool (env.registry t) :=
        d.pool_of_agree ht.registry hapart.registry hours
      rw [hpool]
      obtain ⟨hpicked, hafter⟩ := twin_pickFrom hrule hrolls hservice policy request ht d.lenient
        fun c => d.ids_of_mem_pool hapart.registry hours
      exact ⟨hpicked, hafter, pickFrom_keeps hkeeps hapart d.lenient _⟩
    · intro t t' ⟨ht, hapart⟩
      exact ⟨agree_sleep ht policy.backoff, hkeeps.pause t hapart⟩
  exact ⟨hends.1, hends.2.1⟩

theorem twin_choose (h : Agree side b b') (candidates : List Status) :
    Twin (Agree side) (b.choose chooser service policy request candidates)
      (b'.choose chooser service policy request candidates) := by
  obtain ⟨houtcome, hended⟩ := twin_attempt hrule hrolls hservice policy request hb h
    (d := ⟨service, policy.lenient, candidates⟩) rfl (tries policy)
  rw [choose_ofAlgorithm hrule, choose_ofAlgorithm hrule, chooseByAttempts_eq, chooseByAttempts_eq]
  dsimp only at houtcome ⊢
  rw [houtcome]
  exact .intro _ (hended.measured _)

end Choosing

/-! ### Selecting -/

section Selecting

variable {bound : BoundRoute} {a : Algorithm} {service : String} {request : Request}
variable (h : Agree side b b') (hb : b.Apart side)
variable (hrule : bound.chooser.rule = .ofAlgorithm a) (hrolls : a.rolls = false)
variable (hservice : side.services service = true)
variable (hevicted : ∀ id ∈ b.rules.evicted bound.policy.ruleSet, side.ids id = true)

include h hservice

theorem listed_of_agree : b'.listed service = b.listed service := by
  unfold listed Discovery.lookUp
  rw [h.failing, h.lists service hservice]

include hevicted

variable (request) in
theorem twin_matched :
    Twin (Registry.Agree side) (b.matched service request bound.policy)
      (b'.matched service request bound.policy) := by
  unfold matched observed RuleBook.matching
  rw [listed_of_agree h hservice, h.rules]
  refine Registry.twin_matching (RegistryAction.agree_observe h.registry service _) request ?_
  intro rule hrule id hid
  exact hevicted id (List.mem_filterMap.mpr ⟨rule, hrule, hid⟩)

variable (request) in
theorem found_of_agree :
    b'.found service request bound.policy = b.found service request bound.policy := by
  unfold found
  rw [(twin_matched request h hservice hevicted).1, listed_of_agree h hservice]

include hb

variable (request) in
theorem twin_offered :
    Twin (Registry.Agree side) (b.offered service request bound.policy)
      (b'.offered service request bound.policy) := by
  unfold offered
  rw [found_of_agree request h hservice hevicted]
  refine Registry.twin_statusesOf (twin_matched request h hservice hevicted).2 ?_
  intro record hrecord
  exact has_of_listed hb hservice record (mem_listed_of_mem_found hrecord)

include hrule hrolls

variable (request) in
/-- Only the time that is taken may be another one. -/
theorem agree_decide :
    (b'.decide service request bound).1 = (b.decide service request bound).1 ∧
      Agree side (b.decide service request bound).2.2 (b'.decide service request bound).2.2 := by
  have hlisted := listed_of_agree h hservice
  have hfound := found_of_agree request h hservice hevicted
  by_cases hunlisted : b.listed service = []
  · rw [decide_of_unlisted hunlisted, decide_of_unlisted (hlisted.trans hunlisted)]
    exact ⟨rfl, h.measured [.count Metric.noInstances [("service", service)] 1]⟩
  · have hunlisted' : b'.listed service ≠ [] := by rwa [hlisted]
    by_cases hunfound : b.found service request bound.policy = []
    · rw [decide_of_unfound hunlisted hunfound, decide_of_unfound hunlisted' (hfound.trans hunfound)]
      obtain ⟨-, hmatched⟩ := twin_matched request h hservice hevicted
      exact ⟨rfl, (h.onRegistry hmatched).measured
        [.count Metric.noCandidates [("service", service)] 1]⟩
    · have hunfound' : b'.found service request bound.policy ≠ [] := by rwa [hfound]
      rw [decide_of_found hunfound, decide_of_found hunfound']
      obtain ⟨hstatuses, hoffered⟩ := twin_offered request h hb hservice hevicted
      have hapart := (leads_offered request hb hservice hevicted).apart hb.registry
      have hready : Apart side { b with registry := (b.offered service request bound.policy).2 } :=
        ⟨hapart, hb.lists⟩
      obtain ⟨hpicked, hafter⟩ := twin_choose hrule hrolls hservice bound.policy request hready
        (h.onRegistry hoffered) (b.offered service request bound.policy).1
      unfold picked
      rw [hstatuses]
      exact ⟨hpicked, { hafter with }⟩

variable (request) in
/-- **Selecting** for a service of ours. -/
theorem twin_select :
    Twin (Agree side) (b.select service request bound) (b'.select service request bound) := by
  obtain ⟨hresult, hdecided⟩ := agree_decide request h hb hrule hrolls hservice hevicted
  have hopened : Agree side (opened (b.decide service request bound).1 (b.decide service request bound).2.2)
      (opened (b.decide service request bound).1 (b'.decide service request bound).2.2) := by
    cases hchosen : (b.decide service request bound).1 with
    | error f => exact hdecided
    | ok record =>
        exact (twin_connect hdecided (has_of_decide hb hrule hservice hevicted hchosen)).2
  rw [select_eq, select_eq]
  dsimp only
  rw [hresult]
  refine ⟨rfl, { hopened with sink := hdecided.sink.measure ?_ }⟩
  -- the times that were taken add to no counter
  intro name filter _
  cases (b.decide service request bound).1 <;> rfl

end Selecting

/-! ### Routing -/

section Routing

variable {bound : BoundRoute} {a : Algorithm} {request : Request}
variable (h : Agree side b b') (hb : b.Apart side)
variable (hrule : bound.chooser.rule = .ofAlgorithm a) (hrolls : a.rolls = false)
variable (hservice : side.services request.serviceText = true)
variable (hevicted : ∀ id ∈ b.rules.evicted bound.policy.ruleSet, side.ids id = true)

include h

theorem agree_countFailure (f : Failure) (a : Algorithm) :
    Agree side (b.countFailure f a) (b'.countFailure f a) :=
  h.measured [failed a f]

theorem twin_forwarded [Url.DomainNames] (service : String) {result : Except Failure Instance}
    (hresult : ∀ record, result = .ok record → side.has true record = true) :
    Twin (Agree side) (forwarded request bound service result b)
      (forwarded request bound service result b') := by
  cases result with
  | error f => exact .intro _ h
  | ok record =>
      dsimp only [forwarded]
      cases forwardTarget request.target record with
      | some target => exact .intro _ h
      | none =>
          have hcounted := agree_countFailure h (.invalidTarget service record.id) bound.algorithm
          exact .intro _ (twin_disconnect hcounted (Side.ids_of_has (hresult record rfl))).2

include hb hrule hrolls hservice hevicted

/-- **Routing** to a service of ours. -/
theorem twin_route [Url.DomainNames] :
    let routed := fun t : Balancer => t.route request bound
    Twin (Agree side) (((routed b).1, (routed b).2.1), (routed b).2.2)
      (((routed b').1, (routed b').2.1), (routed b').2.2) := by
  unfold Request.serviceText at hservice
  dsimp only
  cases hasked : request.service? with
  | none =>
      unfold route
      rw [hasked]
      exact .intro _ (agree_countFailure h _ _)
  | some service =>
      have hours : side.services service = true := by
        rw [hasked] at hservice
        exact hservice
      obtain ⟨hselected, hafter⟩ := twin_select request h hb hrule hrolls hours hevicted
      have hrouted := @route_eq _ b _ bound _ hasked
      have hrouted' := @route_eq _ b' _ bound _ hasked
      dsimp only at hrouted hrouted'
      rw [hrouted, hrouted', hselected]
      refine twin_forwarded hafter service ?_
      intro record hok
      exact has_of_select hb hrule hours hevicted hok

end Routing

end Balancer

end LoadBalancer

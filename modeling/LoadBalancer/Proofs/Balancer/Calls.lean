import Mathlib
import LoadBalancer.Proofs.Balancer.Composition
import LoadBalancer.Proofs.Balancer.Decision
import LoadBalancer.Proofs.Pool

/-!
# Calls of choosers

A selection asks a chooser once, for one of the candidates that were found. Whatever the chooser has to do
with is in that call.

* `Call`, `Call.answer` – a chooser with what it is asked, and what it answers;
* `Call.pool` – what it can pick from: the different candidates that may get requests, in the order of the
  candidates;
* `Call.answered_of_pick`, `Call.cursors_of_unreachable` – a pick out of the pool is the answer, and without
  a pool nothing is picked;
* `Balancer.selectCalls`, `Balancer.routeCalls` – the calls of a selection and of a route;
* `Balancer.Through` – a balancer changes, and the cursors of its choosers move in some calls only.
-/

namespace LoadBalancer

/-- A chooser is asked for one of some candidates. -/
structure Call where
  /-- What the chooser finds. -/
  balancer : Balancer
  chooser : Chooser
  service : String
  policy : Policy
  request : Request
  candidates : List Status

namespace Call

/-- What comes of a call: the answer of the chooser, and the balancer that it leaves. -/
def answered (c : Call) : Except Failure Instance × Balancer :=
  c.balancer.choose c.chooser c.service c.policy c.request c.candidates

/-- The answer of the chooser. -/
def answer (c : Call) : Except Failure Instance := c.answered.1

/-- The different candidates of the service that may get requests, in the order of the candidates. -/
def pool (c : Call) : List Status :=
  (c.candidates.map Status.id).eraseDups.filterMap
    (entryOf? (c.balancer.registry.reachable c.policy.lenient c.service))

/-- Their ids. -/
def poolIds (c : Call) : List String := c.pool.map Status.id

/-- The different candidates that are known under the service, whether or not they may get requests. -/
def known (c : Call) : List Status :=
  (c.candidates.map Status.id).eraseDups.filterMap (entryOf? (c.balancer.registry.all c.service))

/-- The failure that is answered when no candidate may get requests. -/
def failure (c : Call) : Failure :=
  if c.known = [] then .noCandidates c.service
  else .retriesExhausted c.service (Balancer.tries c.policy) c.known.length

variable {c : Call} {a : Algorithm}

/-- The pool is the one that attempts pick from. -/
theorem pool_eq (c : Call) :
    c.pool = Demand.pool ⟨c.service, c.policy.lenient, c.candidates⟩ c.balancer.registry :=
  (Demand.pool_eq ⟨c.service, c.policy.lenient, c.candidates⟩ c.balancer.registry).symm

theorem nodup_poolIds (c : Call) : c.poolIds.Nodup := by
  unfold poolIds
  rw [pool_eq]
  exact nodup_intersect _ _

/-- The statuses in the pool show what the registry says. -/
theorem connections_of_mem_pool (hr : c.balancer.registry.Sound) {m : Status} (hm : m ∈ c.pool) :
    m.connections = c.balancer.registry.connections m.id := by
  rw [pool_eq] at hm
  have hreachable : m ∈ c.balancer.registry.reachable c.policy.lenient c.service :=
    mem_of_mem_intersect hm
  obtain ⟨-, e, he, hstatus⟩ := Registry.known?_of_mem_all hr (List.mem_filter.mp hreachable).1
  unfold Registry.connections
  rw [he, ← hstatus]
  rfl

/-- A pick out of the pool, by the rule of an algorithm, is the answer. -/
theorem answered_of_pick (h : c.chooser.rule = .ofAlgorithm a) (hr : c.balancer.registry.Sound)
    {i : Nat} {m : Status} (hm : c.pool[i]? = some m)
    (hi : (Balancer.pick c.chooser c.service c.request c.pool c.balancer).1 = some i) :
    c.answered = (.ok m.record, (Balancer.pick c.chooser c.service c.request c.pool c.balancer).2) := by
  obtain ⟨hlt, rfl⟩ := List.getElem?_eq_some_iff.mp hm
  simp only [pool_eq] at hi hlt ⊢
  exact Balancer.choose_of_pick h hr hi hlt

/-- Without a pool, the answer is a failure. -/
theorem answer_of_unreachable (h : c.chooser.rule = .ofAlgorithm a) (hp : c.pool = []) :
    c.answer = .error c.failure := by
  have hknown : Demand.available ⟨c.service, c.policy.lenient, c.candidates⟩ c.balancer.registry =
      c.known := intersect_eq _ _
  rw [pool_eq] at hp
  unfold failure
  split
  · rename_i hnone
    obtain ⟨left, hleft⟩ := Balancer.tries_eq_succ c.policy
    rw [hnone, Demand.available_eq_nil_iff] at hknown
    rw [answer, answered, Balancer.answer_choose_ofAlgorithm h, hleft, Surroundings.attempt_of_unknown hknown]
    rfl
  · rename_i hsome
    rw [← hknown] at hsome ⊢
    exact Balancer.choose_of_unreachable h hsome hp

/-- Without a pool, the cursors stay where they are. -/
theorem cursors_of_unreachable (h : c.chooser.rule = .ofAlgorithm a) (hp : c.pool = []) :
    c.answered.2.cursors = c.balancer.cursors := by
  rw [pool_eq] at hp
  exact Balancer.cursors_choose_of_unreachable h hp

/-- A call leaves a sound registry sound, whatever the chooser does. -/
theorem sound_answered (hr : c.balancer.registry.Sound) : c.answered.2.registry.Sound :=
  (Balancer.evolves_choose (S := .any) ⟨fun _ => Scope.allowsScript_any _, Scope.allowsRule_any _⟩
    c.service c.policy c.request c.candidates).registry.sound hr

end Call

namespace Balancer

/-! ### The calls of a selection -/

/-- The call of the chooser in a selection; without candidates there is none. -/
def selectCalls (b : Balancer) (service : String) (request : Request) (bound : BoundRoute) : List Call :=
  if b.found service request bound.policy = [] then []
  else
    [⟨{ b with registry := (b.offered service request bound.policy).2 }, bound.chooser, service,
      bound.policy, request, (b.offered service request bound.policy).1⟩]

/-- The call of the chooser in a route. What becomes of the target afterwards does not matter. -/
def routeCalls (b : Balancer) (request : Request) (bound : BoundRoute) : List Call :=
  match request.service? with
  | none => []
  | some service => b.selectCalls service request bound

section Calls

variable {b : Balancer} {service : String} {request : Request} {bound : BoundRoute} {c : Call}

theorem mem_selectCalls :
    c ∈ b.selectCalls service request bound ↔
      b.found service request bound.policy ≠ [] ∧
        c = ⟨{ b with registry := (b.offered service request bound.policy).2 }, bound.chooser, service,
          bound.policy, request, (b.offered service request bound.policy).1⟩ := by
  unfold selectCalls
  by_cases hfound : b.found service request bound.policy = [] <;> simp [hfound]

/-- A selection answers what the chooser answers. -/
theorem result_select_of_call (h : c ∈ b.selectCalls service request bound) :
    (b.select service request bound).1 = c.answer := by
  obtain ⟨hfound, rfl⟩ := mem_selectCalls.mp h
  rw [result_select, if_neg (fun hnil => hfound (found_eq_nil_of_listed hnil)), if_neg hfound]
  rfl

/-- A selection that succeeds has called its chooser. -/
theorem exists_call_of_select {record : Instance} (h : (b.select service request bound).1 = .ok record) :
    ∃ c ∈ b.selectCalls service request bound, c.answer = .ok record := by
  have hfound : b.found service request bound.policy ≠ [] := by
    intro hnil
    rw [result_select, if_pos hnil] at h
    split at h <;> cases h
  have hmem := mem_selectCalls.mpr ⟨hfound, rfl⟩
  exact ⟨_, hmem, (result_select_of_call hmem).symm.trans h⟩

/-- Before the chooser is called, connections are neither opened nor closed. -/
theorem quiet_offered (b : Balancer) (service : String) (request : Request) (policy : Policy) :
    Registry.Leads RegistryAction.IsQuiet b.registry (b.offered service request policy).2 := by
  have hseen : Registry.Leads RegistryAction.IsQuiet b.registry (b.observed service) :=
    .single (a := .observe service (b.listed service)) trivial
  have hasked : Registry.Leads RegistryAction.IsQuiet b.registry (b.matched service request policy).2 :=
    hseen.trans (leads_matching request (fun _ _ _ _ => trivial) _)
  exact hasked.trans (leads_statusesOf (fun _ _ => trivial) _)

/-- The chooser sees the connections that were open when the selection began. -/
theorem connections_of_mem_selectCalls (h : c ∈ b.selectCalls service request bound) (x : String) :
    c.balancer.registry.connections x = b.registry.connections x := by
  obtain ⟨-, rfl⟩ := mem_selectCalls.mp h
  exact (quiet_offered b service request bound.policy).connections x

end Calls

/-! ### Between calls -/

/-- One balancer becomes another. Its choosers are called on the way, and other than in these calls no
cursor moves. -/
inductive Through : Balancer → List Call → Balancer → Prop
  | quiet {b b' : Balancer} (hsound : b.registry.Sound → b'.registry.Sound)
      (hcursors : b'.cursors = b.cursors) : Through b [] b'
  | call (c : Call) : Through c.balancer [c] c.answered.2
  | trans {b b' b'' : Balancer} {cs ds : List Call} (h : Through b cs b') (h' : Through b' ds b'') :
      Through b (cs ++ ds) b''

namespace Through

variable {b b' : Balancer} {cs : List Call}

theorem refl (b : Balancer) : Through b [] b := .quiet id rfl

/-- What happens before without calls. -/
theorem before {t : Balancer} (h : Through t cs b') (hbefore : Through b [] t) : Through b cs b' :=
  .trans hbefore h

/-- What happens afterwards without calls. -/
theorem after {t : Balancer} (h : Through b cs t) (hafter : Through t [] b') : Through b cs b' := by
  rw [← List.append_nil cs]
  exact .trans h hafter

/-- From a sound registry on, every chooser finds a sound registry. -/
theorem sound (h : Through b cs b') (hr : b.registry.Sound) :
    (∀ c ∈ cs, c.balancer.registry.Sound) ∧ b'.registry.Sound := by
  induction h with
  | quiet hsound _ => exact ⟨by simp, hsound hr⟩
  | call c => exact ⟨by simpa using hr, Call.sound_answered hr⟩
  | trans _ _ ih ih' =>
    obtain ⟨hfirst, hmiddle⟩ := ih hr
    obtain ⟨hsecond, hlast⟩ := ih' hmiddle
    refine ⟨fun c hc => ?_, hlast⟩
    exact (List.mem_append.mp hc).elim (hfirst c) (hsecond c)

end Through

variable (b : Balancer) (service : String) (request : Request) (bound : BoundRoute)

theorem through_connect (record : Instance) : Through b [] (b.connect record).2 :=
  .quiet (fun hr => Registry.sound_run hr (.connect record)) rfl

theorem through_disconnect (id : String) : Through b [] (b.disconnect id).2 := by
  refine .quiet (Evolves.disconnect (S := .any) trivial).registry.sound ?_
  rw [disconnect_eq]

theorem through_decide :
    Through b (b.selectCalls service request bound) (b.decide service request bound).2.2 := by
  by_cases hfound : b.found service request bound.policy = []
  · rw [selectCalls, if_pos hfound]
    by_cases hlisted : b.listed service = []
    · rw [decide_of_unlisted hlisted]
      exact .quiet id rfl
    · rw [decide_of_unfound hlisted hfound]
      exact .quiet sound_matched rfl
  · rw [selectCalls, if_neg hfound, decide_of_found hfound]
    have hoffered : Through b []
        ({ b with registry := (b.offered service request bound.policy).2 } : Balancer) :=
      .quiet (quiet_offered b service request bound.policy).sound rfl
    exact (Through.before (.call _) hoffered).after (.quiet id rfl)

theorem through_select :
    Through b (b.selectCalls service request bound) (b.select service request bound).2 := by
  have hdecided := through_decide b service request bound
  rw [select_eq]
  dsimp only
  cases (b.decide service request bound).1 with
  | error f => exact hdecided.after (.quiet id rfl)
  | ok record =>
    exact (hdecided.after (through_connect _ record)).after (.quiet id rfl)

theorem through_route [Url.DomainNames] :
    Through b (b.routeCalls request bound) (b.route request bound).2.2 := by
  unfold routeCalls
  cases hservice : request.service? with
  | none =>
    unfold route
    rw [hservice]
    exact .quiet id rfl
  | some service =>
    have hselected := through_select b service request bound
    have hrouted : (b.route request bound).2.2 = (forwarded request bound service
        (b.select service request bound).1 (b.select service request bound).2).2 :=
      congrArg (fun p => p.2) (route_eq hservice)
    rw [hrouted]
    unfold forwarded
    cases (b.select service request bound).1 with
    | error f => exact hselected
    | ok record =>
      dsimp only
      split
      · exact hselected
      -- the connection to an instance without a target is closed again
      · have hcounted : Through b (b.selectCalls service request bound)
            ((b.select service request bound).2.countFailure (.invalidTarget service record.id)
              bound.algorithm) := hselected.after (.quiet id rfl)
        exact hcounted.after (through_disconnect _ record.id)

end Balancer

end LoadBalancer

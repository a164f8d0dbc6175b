import Mathlib
import LoadBalancer.Proofs.Registry.Membership

/-!
# What forgetting an instance leaves behind

An instance that is forgotten leaves the list of the service under which it became known. The other
lists that it stands on keep its id. It shows nothing there while the instance is unknown, but the list
counts as a service, and the instance is shown again as soon as it becomes known under any service.

* `Registry.Vacant` – the invariant since an instance was forgotten, for one service;
* `RegistryAction.KeepsHome`, `Registry.homely_run` – as long as no known instance is seen under a second
  service, every list names instances that are known;
* `Registry.evict_clears_home` – which lists show an instance after it was forgotten, along every run.
-/

namespace LoadBalancer

namespace Registry

open RegistryAction

/-! ### After an instance was forgotten -/

/-- Since it was forgotten, an instance has not become known under a service; whether it is on the list
of that service has not changed. -/
structure Vacant (service x : String) (listed : Prop) (r : Registry) : Prop where
  away : r.home? x ≠ some service
  listed_iff : x ∈ r.membersOf service ↔ listed

/-- Forgetting takes the id off the list of one service, and off no other. -/
theorem vacant_evict {r : Registry} {x : String} (h : (r.evict x).1 = true) (service : String) :
    Vacant service x (x ∈ r.membersOf service ∧ r.home? x ≠ some service) (r.evict x).2 where
  away := by
    have hforgotten : (RegistryAction.evict x).forgotten? r = some x := by simp [forgotten?, h]
    have hhome := home?_run r (.evict x) x
    rw [if_pos hforgotten] at hhome
    rw [show (r.evict x).2 = (run r (.evict x)).1 from rfl, hhome]
    simp
  listed_iff := by
    rw [membersOf_evict]
    by_cases hhome : r.home? x = some service <;> simp [h, hhome]

/-- **One action** that does not put the instance on the list. -/
theorem vacant_run {r : Registry} {service x : String} {listed : Prop} {a : RegistryAction}
    (hout : ¬a.Enrols service x r) (h : Vacant service x listed r) :
    Vacant service x listed (run r a).1 where
  away := by
    rw [home?_run]
    split
    · simp
    · cases hold : r.home? x with
      | some other =>
          rw [Option.some_or, ← hold]
          exact h.away
      | none =>
          -- an unknown instance that is placed under the service is put on its list
          rw [Option.none_or]
          intro hplaced
          exact hout (enrols_of_placed? (home?_eq_none.mp hold) hplaced)
  listed_iff := by
    have hstays : a.struck? service r ≠ some x := by
      intro hstruck
      exact h.away (struck?_eq_some.mp hstruck).2
    rw [mem_membersOf_run, ← h.listed_iff]
    simp [hstays, hout]

end Registry

/-! ### Instances under one service -/

/-- The action sees no known instance under another service than the one under which it became known. -/
def RegistryAction.KeepsHome (r : Registry) (a : RegistryAction) : Prop :=
  ∀ service x, a.Enrols service x r → r.known? x = none ∨ r.home? x = some service

namespace Registry

open RegistryAction

/-- Every listed instance is known, and became known under the service. -/
def Homely (r : Registry) : Prop :=
  ∀ service, ∀ x ∈ r.membersOf service, r.home? x = some service

/-- **One action.**  A listed instance is only forgotten together with its place on the list. -/
theorem homely_run {r : Registry} {a : RegistryAction} (hkeeps : a.KeepsHome r) (h : r.Homely) :
    (run r a).1.Homely := by
  intro service x hx
  rw [home?_run]
  rcases (mem_membersOf_run r a service x).mp hx with ⟨hold, hstays⟩ | henrols
  · have hhome := h service x hold
    have hkept : a.forgotten? r ≠ some x := by
      intro hforgotten
      exact hstays (struck?_eq_some.mpr ⟨hforgotten, hhome⟩)
    rw [if_neg hkept, hhome, Option.some_or]
  · rw [forgotten?_of_enrols henrols, if_neg (by simp)]
    rcases hkeeps service x henrols with hunknown | hhome
    · rw [home?_eq_none.mpr hunknown, Option.none_or]
      exact placed?_of_enrols henrols
    · rw [hhome, Option.some_or]

theorem homely_runAll {actions : List RegistryAction}
    (h : Along (fun r a => a.KeepsHome r) .empty actions) : (runAll .empty actions).1.Homely := by
  refine h.keeps (fun _ _ => homely_run) ?_
  intro service x hx
  cases hx

theorem all_ne_nil_of_homely {r : Registry} (h : r.Homely) {service : String}
    (hlisted : r.membersOf service ≠ []) : r.all service ≠ [] := by
  obtain ⟨x, hx⟩ := List.exists_mem_of_ne_nil _ hlisted
  refine all_ne_nil_iff.mpr ⟨x, hx, ?_⟩
  rw [ne_eq, ← home?_eq_none, h service x hx]
  simp

/-! ### The main statement -/

/-- **After an instance was forgotten**, in a registry that any run has led to: as long as the instance
is not seen under a service, nor becomes known under it, that service shows it exactly if the instance
is known again, and the service showed it before and is not the one under which it was known then. A
snapshot shows the same ids, and no more of them may get requests. The number of services counts those
with an id on their list; these are those that show an instance exactly if there is a known one on every
list. A run that sees no known instance under a second service fulfils this, and what is forgotten after
it is not shown. -/
theorem evict_clears_home (actions : List RegistryAction) :
    let r := (runAll .empty actions).1
    (∀ x, (r.evict x).1 = true → ∀ service later,
      Along (fun r a => ¬a.Enrols service x r) (r.evict x).2 later →
      let after := (runAll (r.evict x).2 later).1
      (x ∈ (after.all service).map Status.id ↔
        after.known? x ≠ none ∧ x ∈ (r.all service).map Status.id ∧ r.home? x ≠ some service) ∧
      (after.snapshot service).map InstanceReport.id = (after.all service).map Status.id ∧
      ∀ lenient, ((after.reachable lenient service).map Status.id).Sublist
        ((after.all service).map Status.id)) ∧
    r.stats.services = {service | r.membersOf service ≠ []}.ncard ∧
    (r.stats.services = {service | r.all service ≠ []}.ncard ↔
      ∀ service, r.membersOf service ≠ [] → r.all service ≠ []) ∧
    (Along (fun r a => a.KeepsHome r) .empty actions →
      r.stats.services = {service | r.all service ≠ []}.ncard ∧
      ∀ x, (r.evict x).1 = true → ∀ service later,
        Along (fun r a => ¬a.Enrols service x r) (r.evict x).2 later →
        x ∉ ((runAll (r.evict x).2 later).1.all service).map Status.id) := by
  intro r
  have hsound : r.Sound := sound_runAll sound_empty actions
  have hindexed : r.Indexed := indexed_runAll indexed_empty actions
  have hshown : ∀ x, (r.evict x).1 = true → ∀ service later,
      Along (fun r a => ¬a.Enrols service x r) (r.evict x).2 later →
      let after := (runAll (r.evict x).2 later).1
      (x ∈ (after.all service).map Status.id ↔
        after.known? x ≠ none ∧ x ∈ (r.all service).map Status.id ∧ r.home? x ≠ some service) := by
    intro x hdone service later hout after
    have hvacant := hout.keeps (fun _ _ => vacant_run) (vacant_evict hdone service)
    have hknown := ((evict_iff r x).mp hdone).1
    have hafter : after.Sound := sound_runAll (sound_run hsound (.evict x)) later
    rw [mem_ids_all hafter, mem_ids_all hsound, hvacant.listed_iff]
    simp only [hknown, ne_eq, not_false_eq_true, and_true]
    tauto
  refine ⟨?_, services_eq_ncard hindexed, services_eq_ncard_all_iff hindexed, ?_⟩
  · intro x hdone service later hout after
    refine ⟨hshown x hdone service later hout, ids_snapshot after service, ?_⟩
    intro lenient
    exact (reachable_sublist after lenient service).map Status.id
  · intro hkeeps
    have hhomely := homely_runAll hkeeps
    refine ⟨(services_eq_ncard_all_iff hindexed).mpr fun _ => all_ne_nil_of_homely hhomely, ?_⟩
    intro x hdone service later hout hmem
    obtain ⟨-, hbefore, haway⟩ := (hshown x hdone service later hout).mp hmem
    exact haway (hhomely service x ((mem_ids_all hsound).mp hbefore).1)

/-- An instance is seen under one service, forgotten, and seen under another: only that one shows it. -/
theorem evict_clears_home_once :
    let record := Instance.plain "a" "s" "10.0.0.1" 80
    let actions : List RegistryAction := [.observe "s" [record]]
    let r := (runAll .empty actions).1
    Along (fun r a => a.KeepsHome r) .empty actions ∧ (r.evict "a").1 = true ∧
      Along (fun r a => ¬a.Enrols "s" "a" r) (r.evict "a").2 [.observe "t" [record]] ∧
      r.stats.services = {service | r.all service ≠ []}.ncard ∧
      "a" ∉ ((runAll (r.evict "a").2 [.observe "t" [record]]).1.all "s").map Status.id := by
  intro record actions r
  have hkeeps : Along (fun r a => a.KeepsHome r) .empty actions :=
    ⟨fun _ _ _ => Or.inl rfl, trivial⟩
  have hout : Along (fun r a => ¬a.Enrols "s" "a" r) (r.evict "a").2 [.observe "t" [record]] := by
    refine ⟨?_, trivial⟩
    rintro ⟨hservice, -⟩
    exact absurd hservice (by decide)
  have hdone : (r.evict "a").1 = true := by decide
  have hclaim := (evict_clears_home actions).2.2.2 hkeeps
  exact ⟨hkeeps, hdone, hout, hclaim.1, hclaim.2 "a" hdone "s" _ hout⟩

/-- An instance is seen under two services and forgotten. One of them still counts, though it shows
nothing; and once the instance is seen under the other one again, both show it. -/
theorem evict_leaves_second_service :
    let record := Instance.plain "a" "s" "10.0.0.1" 80
    let r := (runAll .empty [.observe "s" [record], .observe "t" [record], .evict "a"]).1
    (r.known? "a" = none ∧ r.stats.services = 1 ∧ {service | r.all service ≠ []}.ncard = 0) ∧
      Along (fun r a => ¬a.Enrols "t" "a" r) r [.observe "s" [record]] ∧
      "a" ∈ ((run r (.observe "s" [record])).1.all "t").map Status.id := by
  intro record r
  have hnothing : {service | r.all service ≠ []} = ∅ := by
    rw [Set.eq_empty_iff_forall_notMem]
    intro service hservice
    obtain ⟨x, -, hknown⟩ := all_ne_nil_iff.mp hservice
    exact hknown rfl
  refine ⟨⟨rfl, by decide, by rw [hnothing, Set.ncard_empty]⟩, ⟨?_, trivial⟩, by decide⟩
  rintro ⟨hservice, -⟩
  exact absurd hservice (by decide)

end Registry

end LoadBalancer

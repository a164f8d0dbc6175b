import Mathlib
import LoadBalancer.Proofs.Registry.Records
import LoadBalancer.Registry.Report

/-!
# The lists of ids that a registry keeps

The registry has two indices: the entry of an id, which names the service under which the instance
became known, and the list of ids that were seen under a service. One law says what an action does to
each of them, and everything about lists follows from these two.

* `RegistryAction.forgotten?`, `RegistryAction.struck?` – the instance that an action makes unknown, and
  the id that it takes out of a list; `RegistryAction.Enrols` – it puts an instance on a list;
* `RegistryAction.membersOf_run`, `RegistryAction.home?_run` – **the two laws**;
* `Registry.Indexed` – ids are listed once, no empty list is kept, and an instance is on the list of the
  service under which it became known; `Registry.indexed_runAll` keeps it along every run;
* `RegistryAction.precedes_run` – listed ids keep their order;
* `Registry.ids_all`, `Registry.ids_snapshot` – the ids that are shown for a service;
* `Registry.services_eq_ncard` – the number of services is the number of those with a list.
-/

namespace LoadBalancer

namespace RegistryAction

/-- The instance that an action makes unknown. -/
def forgotten? (r : Registry) : RegistryAction → Option String
  | evict id => if (r.evict id).1 then some id else none
  | _ => none

/-- The id that an action takes out of the list of a service. -/
def struck? (service : String) (r : Registry) (a : RegistryAction) : Option String :=
  (a.forgotten? r).filter fun id => r.home? id = some service

/-- The service under which an action sees an instance, or makes it known if it has to. -/
def placed? (x : String) : RegistryAction → Option String
  | observe service records => if x ∈ records.map Instance.id then some service else none
  | status record => if record.id = x then some record.service else none
  | connect record => if record.id = x then some record.service else none
  | _ => none

/-- The action sees an instance under a service, or makes it known under its own, and that is the
service. -/
def Enrols (service x : String) (r : Registry) : RegistryAction → Prop
  | observe other records => other = service ∧ x ∈ records.map Instance.id
  | status record => record.service = service ∧ record.id = x ∧ r.known? x = none
  | connect record => record.service = service ∧ record.id = x ∧ r.known? x = none
  | _ => False

section Enrols

variable {r : Registry} {a : RegistryAction} {service x : String}

theorem placed?_of_enrols (h : a.Enrols service x r) : a.placed? x = some service := by
  cases a with
  | observe other records => simp [placed?, h.1, h.2]
  | status record => simp [placed?, h.1, h.2.1]
  | connect record => simp [placed?, h.1, h.2.1]
  | _ => exact h.elim

/-- An unknown instance that is placed under a service is put on its list. -/
theorem enrols_of_placed? (hk : r.known? x = none) (h : a.placed? x = some service) :
    a.Enrols service x r := by
  cases a with
  | observe other records =>
      simp only [placed?, Option.ite_none_right_eq_some, Option.some.injEq] at h
      exact ⟨h.2, h.1⟩
  | status record =>
      simp only [placed?, Option.ite_none_right_eq_some, Option.some.injEq] at h
      exact ⟨h.2, h.1, hk⟩
  | connect record =>
      simp only [placed?, Option.ite_none_right_eq_some, Option.some.injEq] at h
      exact ⟨h.2, h.1, hk⟩
  | _ => cases h

/-- What enrols an instance makes nothing unknown. -/
theorem forgotten?_of_enrols (h : a.Enrols service x r) : a.forgotten? r = none := by
  cases a with
  | evict id => exact h.elim
  | _ => rfl

end Enrols

/-! ### The two laws -/

variable {r : Registry}

/-- What is seen under a service comes to the end of its list. -/
theorem membersOf_observe_filter (r : Registry) (service : String) (records : List Instance)
    (other : String) :
    ∃ added : List String,
      (r.observe service records).membersOf other =
        (r.membersOf other).filter (fun z => none ≠ some z) ++ added ∧ added.Nodup ∧
      ∀ z, z ∈ added ↔
        z ∉ r.membersOf other ∧ service = other ∧ z ∈ records.map Instance.id := by
  obtain ⟨added, hlist, hnodup, hnew⟩ := r.membersOf_observe service records other
  refine ⟨added, by simpa using hlist, hnodup, ?_⟩
  intro z
  have hmem := r.mem_membersOf_observe service records other z
  rw [hlist, List.mem_append] at hmem
  have hnot := hnew z
  tauto

theorem membersOf_ensure_filter (r : Registry) (record : Instance) (service : String) :
    ∃ added : List String,
      (r.ensure record).membersOf service =
        (r.membersOf service).filter (fun z => none ≠ some z) ++ added ∧ added.Nodup ∧
      ∀ z, z ∈ added ↔
        z ∉ r.membersOf service ∧ record.service = service ∧ record.id = z ∧ r.known? z = none := by
  rw [Registry.ensure_eq]
  obtain ⟨added, hlist, hnodup, hiff⟩ := membersOf_observe_filter r record.service
    (if r.known? record.id = none then [record] else []) service
  refine ⟨added, hlist, hnodup, ?_⟩
  intro z
  rw [hiff]
  by_cases hk : r.known? record.id = none
  · rw [if_pos hk, List.map_singleton, List.mem_singleton]
    constructor
    · rintro ⟨hout, hservice, rfl⟩
      exact ⟨hout, hservice, rfl, hk⟩
    · rintro ⟨hout, hservice, rfl, -⟩
      exact ⟨hout, hservice, rfl⟩
  · rw [if_neg hk]
    constructor
    · rintro ⟨-, -, hmem⟩
      simp at hmem
    · rintro ⟨-, -, rfl, hk'⟩
      exact absurd hk' hk

/-- **What an action does to a list.**  One id at most is taken out of it; what the action enrols and is
not on it comes to its end. -/
theorem membersOf_run (r : Registry) (a : RegistryAction) (service : String) :
    ∃ added : List String,
      (run r a).1.membersOf service =
        (r.membersOf service).filter (fun z => a.struck? service r ≠ some z) ++ added ∧
      added.Nodup ∧ ∀ z, z ∈ added ↔ z ∉ r.membersOf service ∧ a.Enrols service z r := by
  cases a with
  | observe other records => exact membersOf_observe_filter r other records service
  | status record =>
      simp only [run, Registry.registry_statusOf]
      exact membersOf_ensure_filter r record service
  | connect record =>
      have hsame := Registry.membersOf_congr (Registry.members_connect r record) service
      simp only [run, hsame]
      exact membersOf_ensure_filter r record service
  | disconnect id =>
      have hsame := Registry.membersOf_congr (Registry.members_disconnect r id) service
      rw [run_disconnect, hsame]
      exact ⟨[], by simp [struck?, forgotten?, Enrols]⟩
  | mark id health =>
      have hsame := Registry.membersOf_congr (Registry.members_mark r id health) service
      simp only [run, hsame]
      exact ⟨[], by simp [struck?, forgotten?, Enrols]⟩
  | evict id =>
      refine ⟨[], ?_, List.nodup_nil, by simp [Enrols]⟩
      rw [List.append_nil, run, Registry.membersOf_evict]
      by_cases h : (r.evict id).1 = true ∧ r.home? id = some service
      · rw [if_pos h]
        have hstruck : (evict id).struck? service r = some id := by
          simp [struck?, forgotten?, h.1, h.2]
        rw [hstruck]
        refine List.filter_congr ?_
        intro z _
        simp [eq_comm]
      · rw [if_neg h]
        have hstruck : (evict id).struck? service r = none := by
          by_cases hdone : (r.evict id).1 = true
          · have hhome : r.home? id ≠ some service := fun hh => h ⟨hdone, hh⟩
            simp [struck?, forgotten?, hdone, hhome]
          · simp [struck?, forgotten?, hdone]
        simp [hstruck]

theorem mem_membersOf_run (r : Registry) (a : RegistryAction) (service x : String) :
    x ∈ (run r a).1.membersOf service ↔
      x ∈ r.membersOf service ∧ a.struck? service r ≠ some x ∨ a.Enrols service x r := by
  obtain ⟨added, hlist, -, hiff⟩ := membersOf_run r a service
  rw [hlist, List.mem_append, List.mem_filter, hiff, decide_eq_true_eq]
  by_cases henrols : a.Enrols service x r
  · have hstruck : a.struck? service r ≠ some x := by
      simp [struck?, forgotten?_of_enrols henrols]
    simp only [henrols]
    tauto
  · simp [henrols]

end RegistryAction

namespace Registry

theorem home?_eq_none {r : Registry} {x : String} : r.home? x = none ↔ r.known? x = none := by
  simp [home?]

/-- Where an instance became known does not change while it is known. -/
theorem home?_map {r r' : Registry} {x : String} {g : Entry → Entry}
    (h : r'.known? x = (r.known? x).map g) (hg : ∀ e, (g e).service = e.service) :
    r'.home? x = r.home? x := by
  unfold home?
  rw [h]
  cases r.known? x with
  | none => rfl
  | some e => exact congrArg some (hg e)

theorem home?_observe (r : Registry) (service : String) (records : List Instance) (x : String) :
    (r.observe service records).home? x =
      (r.home? x).or (if x ∈ records.map Instance.id then some service else none) := by
  unfold home?
  rw [known?_observe]
  cases hlatest : latest records x with
  | none =>
      rw [if_neg (latest_eq_none_iff.mp hlatest), Option.or_none]
  | some record =>
      have hmem : x ∈ records.map Instance.id := by
        by_contra hout
        rw [latest_eq_none_iff.mpr hout] at hlatest
        cases hlatest
      rw [if_pos hmem]
      cases r.known? x <;> rfl

theorem home?_ensure (r : Registry) (record : Instance) (x : String) :
    (r.ensure record).home? x =
      (r.home? x).or (if record.id = x then some record.service else none) := by
  unfold home?
  rw [known?_ensure]
  by_cases h : record.id = x
  · rw [if_pos h, if_pos h]
    cases r.known? x <;> rfl
  · rw [if_neg h, if_neg h, Option.or_none]

end Registry

namespace RegistryAction

variable {r : Registry}

/-- What is known after an instance was to be forgotten. -/
theorem known?_run_evict (r : Registry) (id x : String) :
    (run r (evict id)).1.known? x =
      if (evict id).forgotten? r = some x then none else r.known? x := by
  simp only [run, Registry.known?_evict, forgotten?]
  by_cases hdone : (r.evict id).1 = true
  · simp [hdone, ((Registry.evict_iff r id).mp hdone).2]
  · -- nothing is forgotten: the instance was unknown, or has open connections
    simp only [hdone, Bool.false_eq_true, if_false, reduceCtorEq, ite_eq_right_iff]
    rintro ⟨rfl, hzero⟩
    by_contra hk
    exact hdone ((Registry.evict_iff r id).mpr ⟨fun hnone => hk hnone.symm, hzero⟩)

/-- **What an action does to the service under which an instance became known.**  It is kept until the
instance is forgotten, and found when the instance is placed anew. -/
theorem home?_run (r : Registry) (a : RegistryAction) (x : String) :
    (run r a).1.home? x =
      if a.forgotten? r = some x then none else (r.home? x).or (a.placed? x) := by
  cases a with
  | observe service records =>
      simp only [run, forgotten?, reduceCtorEq, if_false]
      exact Registry.home?_observe r service records x
  | status record =>
      simp only [run, forgotten?, reduceCtorEq, if_false, Registry.registry_statusOf]
      exact Registry.home?_ensure r record x
  | connect record =>
      simp only [run, forgotten?, reduceCtorEq, if_false]
      refine Eq.trans ?_ (Registry.home?_ensure r record x)
      unfold Registry.home?
      rw [Registry.known?_connect, Registry.known?_ensure]
      split <;> rfl
  | disconnect id =>
      simp only [forgotten?, reduceCtorEq, if_false, placed?, Option.or_none]
      rw [run_disconnect]
      have hk := Registry.known?_disconnect r id x
      split at hk
      · exact Registry.home?_map hk fun _ => rfl
      · simp only [Registry.home?, hk]
  | mark id health =>
      simp only [run, forgotten?, reduceCtorEq, if_false, placed?, Option.or_none]
      have hk := Registry.known?_mark r id health x
      split at hk
      · exact Registry.home?_map hk fun _ => rfl
      · simp only [Registry.home?, hk]
  | evict id =>
      simp only [Registry.home?, known?_run_evict, placed?, Option.or_none]
      split <;> rfl

/-- A known instance stays known unless it is forgotten. -/
theorem known?_run_ne_none {a : RegistryAction} {x : String} (hk : r.known? x ≠ none)
    (h : a.forgotten? r ≠ some x) : (run r a).1.known? x ≠ none := by
  rw [ne_eq, ← Registry.home?_eq_none] at hk ⊢
  rw [home?_run, if_neg h]
  intro hnone
  exact hk (Option.or_eq_none_iff.mp hnone).1

/-- What is forgotten was known, and is not known any more. -/
theorem forgotten?_eq_some {a : RegistryAction} {x : String} (h : a.forgotten? r = some x) :
    a = evict x ∧ (r.evict x).1 = true ∧ (run r a).1.known? x = none := by
  have hgone := home?_run r a x
  rw [if_pos h, Registry.home?_eq_none] at hgone
  cases a with
  | evict id =>
      by_cases hdone : (r.evict id).1 = true
      · simp only [forgotten?, hdone, if_true, Option.some.injEq] at h
        subst h
        exact ⟨rfl, hdone, hgone⟩
      · simp [forgotten?, hdone] at h
  | _ => cases h

theorem struck?_eq_some {a : RegistryAction} {service x : String} :
    a.struck? service r = some x ↔ a.forgotten? r = some x ∧ r.home? x = some service := by
  simp [struck?]

/-- An instance that a list gets is known afterwards. -/
theorem known?_of_enrols {a : RegistryAction} {service x : String} (h : a.Enrols service x r) :
    (run r a).1.known? x ≠ none := by
  rw [ne_eq, ← Registry.home?_eq_none, home?_run, placed?_of_enrols h, forgotten?_of_enrols h]
  simp

end RegistryAction

/-! ### The invariant of the two indices -/

namespace Registry

/-- No empty list is kept. -/
def Pruned (r : Registry) : Prop :=
  ∀ service ids, r.members.get? service = some ids → ids ≠ []

/-- No id is listed twice under a service, no empty list is kept, and an instance is on the list of the
service under which it became known. -/
structure Indexed (r : Registry) : Prop where
  nodup : ∀ service, (r.membersOf service).Nodup
  pruned : r.Pruned
  home : ∀ x service, r.home? x = some service → x ∈ r.membersOf service

theorem indexed_empty : Indexed .empty where
  nodup := fun _ => List.nodup_nil
  pruned := by
    intro service ids h
    cases h
  home := by
    intro x service h
    cases h

section Pruned

variable {r : Registry}

theorem pruned_addMember (h : r.Pruned) (service id : String) : (r.addMember service id).Pruned := by
  intro other ids hids
  simp only [addMember, Table.get?_put] at hids
  split at hids
  · cases hids
    split
    · rename_i hmem
      exact List.ne_nil_of_mem hmem
    · simp
  · exact h other ids hids

/-- A list that an id was taken out of is only put back if something is left. -/
theorem pruned_removeMember (h : r.Pruned) (service id : String) :
    (r.removeMember service id).Pruned := by
  intro other ids hids
  simp only [removeMember] at hids
  split at hids
  · split at hids
    · rw [Table.get?_erase] at hids
      split at hids
      · cases hids
      · exact h other ids hids
    · rename_i hleft
      rw [Table.get?_put] at hids
      split at hids
      · cases hids
        simpa using hleft
      · exact h other ids hids
  · exact h other ids hids

theorem pruned_observe (h : r.Pruned) (service : String) (records : List Instance) :
    (r.observe service records).Pruned := by
  unfold observe
  induction records generalizing r with
  | nil => exact h
  | cons record rest ih =>
      rw [List.foldl_cons]
      exact ih (pruned_addMember h service record.id)

/-- No action leaves an empty list. -/
theorem pruned_run (h : r.Pruned) (a : RegistryAction) : (RegistryAction.run r a).1.Pruned := by
  cases a with
  | observe service records => exact pruned_observe h service records
  | status record =>
      rw [RegistryAction.run, registry_statusOf, ensure_eq]
      exact pruned_observe h _ _
  | connect record =>
      rw [RegistryAction.run, Pruned, members_connect, ensure_eq]
      exact pruned_observe h _ _
  | disconnect id =>
      rw [RegistryAction.run_disconnect, Pruned, members_disconnect]
      exact h
  | mark id health =>
      rw [RegistryAction.run, Pruned, members_mark]
      exact h
  | evict id =>
      simp only [RegistryAction.run, evict]
      split
      · split
        · exact pruned_removeMember (r := ⟨r.entries.erase id, r.members, r.changes⟩) h _ id
        · exact h
      · exact h

end Pruned

end Registry

namespace RegistryAction

open Registry

variable {r : Registry}

/-- **One action.** -/
theorem indexed_run (h : r.Indexed) (a : RegistryAction) : (run r a).1.Indexed where
  nodup := by
    intro service
    obtain ⟨added, hlist, hnodup, hiff⟩ := membersOf_run r a service
    rw [hlist]
    refine List.nodup_append.mpr ⟨(h.nodup service).filter _, hnodup, ?_⟩
    intro z hz z' hz' hsame
    subst hsame
    exact ((hiff z).mp hz').1 (List.mem_filter.mp hz).1
  pruned := pruned_run h.pruned a
  home := by
    intro x service hhome
    rw [mem_membersOf_run]
    rw [home?_run] at hhome
    split at hhome
    · cases hhome
    · rename_i hstays
      cases hold : r.home? x with
      | some other =>
          rw [hold, Option.some_or, Option.some.injEq] at hhome
          subst hhome
          refine Or.inl ⟨h.home x other hold, ?_⟩
          intro hstruck
          exact hstays (struck?_eq_some.mp hstruck).1
      | none =>
          -- the instance becomes known by this action, which puts it on the list
          rw [hold, Option.none_or] at hhome
          exact Or.inr (enrols_of_placed? (home?_eq_none.mp hold) hhome)

/-- **A whole run**, by induction on its actions. -/
theorem indexed_runAll (h : r.Indexed) (actions : List RegistryAction) :
    (runAll r actions).1.Indexed := by
  induction actions generalizing r with
  | nil => exact h
  | cons a rest ih => exact ih (indexed_run h a)

/-! ### Order -/

/-- **Listed ids keep their order** as long as neither of them is taken off the list. -/
theorem precedes_run {service x y : String} (h : [x, y].Sublist (r.membersOf service))
    {a : RegistryAction} (hx : a.forgotten? r ≠ some x) (hy : a.forgotten? r ≠ some y) :
    [x, y].Sublist ((run r a).1.membersOf service) := by
  obtain ⟨added, hlist, -, -⟩ := membersOf_run r a service
  have hpair : [x, y].filter (fun z => a.struck? service r ≠ some z) = [x, y] := by
    rw [List.filter_eq_self]
    intro z hz
    rw [decide_eq_true_eq]
    intro hstruck
    have hforgotten := (struck?_eq_some.mp hstruck).1
    rcases List.mem_pair.mp hz with rfl | rfl
    · exact hx hforgotten
    · exact hy hforgotten
  rw [hlist, ← hpair]
  exact (h.filter _).trans (List.sublist_append_left _ _)

end RegistryAction

/-! ### What is shown for a service -/

namespace Registry

variable {r : Registry}

/-- The entries of a service are those of its listed ids. -/
theorem ids_entriesOf (hr : r.Sound) (service : String) :
    (r.entriesOf service).map (fun e => e.record.id) =
      (r.membersOf service).filter fun x => (r.known? x).isSome := by
  unfold entriesOf
  induction r.membersOf service with
  | nil => rfl
  | cons x rest ih =>
      cases hk : r.known? x with
      | none => simp [hk, ih]
      | some e => simp [hk, ih, (hr x e hk).keyed]

/-- The ids whose statuses are shown for a service are the listed ones that are known. -/
theorem ids_all (hr : r.Sound) (service : String) :
    (r.all service).map Status.id =
      (r.membersOf service).filter fun x => (r.known? x).isSome := by
  rw [← ids_entriesOf hr, all, List.map_map]
  rfl

/-- A snapshot shows the same instances, in the same order. -/
theorem ids_snapshot (r : Registry) (service : String) :
    (r.snapshot service).map InstanceReport.id = (r.all service).map Status.id := by
  rw [snapshot, all, List.map_map, List.map_map]
  rfl

theorem all_ne_nil_iff {service : String} :
    r.all service ≠ [] ↔ ∃ x ∈ r.membersOf service, r.known? x ≠ none := by
  constructor
  · intro hne
    obtain ⟨c, hc⟩ := List.exists_mem_of_ne_nil _ hne
    obtain ⟨x, hx, e, he, -⟩ := mem_all.mp hc
    exact ⟨x, hx, by simp [he]⟩
  · rintro ⟨x, hx, hk⟩
    obtain ⟨e, he⟩ := Option.ne_none_iff_exists'.mp hk
    exact List.ne_nil_of_mem (mem_all.mpr ⟨x, hx, e, he, rfl⟩)

/-! ### The number of services -/

theorem mem_keys_members (h : r.Indexed) {service : String} :
    service ∈ r.members.keys ↔ r.membersOf service ≠ [] := by
  rw [← Table.contains_iff, Table.contains, membersOf]
  cases hids : r.members.get? service with
  | none => simp
  | some ids => simpa using h.pruned service ids hids

/-- A service counts as long as there is an id on its list, known or not. -/
theorem services_eq_ncard (h : r.Indexed) :
    r.stats.services = {service | r.membersOf service ≠ []}.ncard := by
  have hset : {service | r.membersOf service ≠ []} = (r.members.keys.toFinset : Set String) := by
    ext service
    simp [mem_keys_members h]
  have hnodup : r.members.keys.Nodup := r.members.nodup
  rw [hset, Set.ncard_coe_finset, List.toFinset_card_of_nodup hnodup]
  simp [stats, Table.size, Table.keys]

/-- It is the number of the services for which an instance is shown exactly if there is a known one on
every list. -/
theorem services_eq_ncard_all_iff (h : r.Indexed) :
    r.stats.services = {service | r.all service ≠ []}.ncard ↔
      ∀ service, r.membersOf service ≠ [] → r.all service ≠ [] := by
  have hsub : {service | r.all service ≠ []} ⊆ {service | r.membersOf service ≠ []} := by
    intro service hservice
    obtain ⟨x, hx, -⟩ := all_ne_nil_iff.mp hservice
    exact List.ne_nil_of_mem hx
  have hfinite : {service | r.membersOf service ≠ []}.Finite := by
    refine (r.members.keys.toFinset.finite_toSet).subset ?_
    intro service hservice
    simpa [mem_keys_members h] using hservice
  rw [services_eq_ncard h]
  constructor
  · intro hcard service hlisted
    have hsame := Set.eq_of_subset_of_ncard_le hsub hcard.le hfinite
    have hmem : service ∈ {service | r.membersOf service ≠ []} := hlisted
    rwa [← hsame] at hmem
  · intro hall
    congr 1
    ext service
    exact ⟨hall service, fun hservice => hsub hservice⟩

end Registry

end LoadBalancer

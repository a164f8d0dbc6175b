import Mathlib
import LoadBalancer.Proofs.Registry.Conservation
import LoadBalancer.Proofs.Registry.Membership
import LoadBalancer.Proofs.Table

/-!
# What a registry shows of a known instance

An instance that a service has got since it became known is shown for that service once, with its latest
record and its counters, until it is forgotten. The instances of a service keep their order.

* `RegistryAction.lastRecord?` – the record that counts, along the actions since an instance became known;
* `RegistryAction.record_run` – what one action does to the record of an instance;
* `RegistryAction.Tenure.induction_from` – what is known about an instance, followed since then, with
  `RegistryAction.record_of_tenure` and `RegistryAction.total_since`;
* `RegistryAction.listed_of_tenure` – an instance stays on a list that it came to while it is known;
* `Registry.filter_all`, `Registry.filter_snapshot` – it is shown once;
* `Registry.observe_observe` – seeing instances twice is seeing them once;
* `Registry.known_shown_once` – all of it, for every run.
-/

namespace LoadBalancer

namespace RegistryAction

/-! ### The record that counts -/

/-- The record under which an action sees an instance. -/
def shown? (x : String) : RegistryAction → Option Instance
  | observe _ records => latest records x
  | _ => none

/-- The record under which an instance was seen last by some actions, or, if it was not seen, the one
with which the first of them made it known. -/
def lastRecord? (x : String) (actions : List RegistryAction) : Option Instance :=
  (actions.filterMap (shown? x)).getLast?.or (actions.head?.bind fun a => latest a.brings x)

/-- What an action sees, it brings. -/
theorem shown?_or_latest (x : String) (a : RegistryAction) :
    (a.shown? x).or (latest a.brings x) = latest a.brings x := by
  cases a with
  | observe service records => exact Option.or_self
  | _ => rfl

theorem lastRecord?_singleton (x : String) (a : RegistryAction) :
    lastRecord? x [a] = latest a.brings x := by
  rw [← shown?_or_latest]
  cases hshown : a.shown? x <;> simp [lastRecord?, hshown]

theorem lastRecord?_snoc (x : String) {actions : List RegistryAction} (hne : actions ≠ [])
    (a : RegistryAction) :
    lastRecord? x (actions ++ [a]) = (a.shown? x).or (lastRecord? x actions) := by
  have hhead : (actions ++ [a]).head? = actions.head? := by
    rw [List.head?_append, List.head?_eq_some_head hne, Option.some_or]
  unfold lastRecord?
  rw [hhead, List.filterMap_append, List.getLast?_append, Option.or_assoc]
  cases hshown : a.shown? x <;> simp [hshown]

variable {r : Registry} {a : RegistryAction} {x : String} {e : Entry}

theorem latest_singleton (record : Instance) (id : String) :
    latest [record] id = if record.id = id then some record else none := by
  rw [latest_cons]
  rfl

/-- **What an action does to the record of an instance.**  A known instance changes it only by being
seen; one that becomes known has the record that the action brings. -/
theorem record_run (r : Registry) (a : RegistryAction) (x : String) :
    ((run r a).1.known? x).map Entry.record =
      if a.forgotten? r = some x then none
      else ((a.shown? x).or ((r.known? x).map Entry.record)).or (latest a.brings x) := by
  cases a with
  | observe service records =>
      simp only [run, forgotten?, reduceCtorEq, if_false, shown?, brings, Registry.known?_observe]
      cases latest records x <;> cases r.known? x <;> rfl
  | status record =>
      simp only [run, forgotten?, reduceCtorEq, if_false, shown?, brings, latest_singleton,
        Registry.registry_statusOf, Registry.known?_ensure]
      split <;> cases r.known? x <;> rfl
  | connect record =>
      simp only [run, forgotten?, reduceCtorEq, if_false, shown?, brings, latest_singleton,
        Registry.known?_connect]
      split <;> cases r.known? x <;> rfl
  | disconnect id =>
      rw [run_disconnect]
      simp only [forgotten?, reduceCtorEq, if_false, Registry.known?_disconnect]
      split <;> cases r.known? x <;> rfl
  | mark id health =>
      simp only [run, forgotten?, reduceCtorEq, if_false, Registry.known?_mark]
      split <;> cases r.known? x <;> rfl
  | evict id =>
      rw [known?_run_evict]
      split <;> cases r.known? x <;> rfl

/-- An instance that is known after an action was not forgotten by it. -/
theorem record_run_of_known (he : (run r a).1.known? x = some e) :
    some e.record = ((a.shown? x).or ((r.known? x).map Entry.record)).or (latest a.brings x) := by
  have hrecord := record_run r a x
  rw [he] at hrecord
  split at hrecord
  · cases hrecord
  · exact hrecord

/-! ### Since an instance became known -/

/-- **Induction over a tenure**, on its last action: what holds of an entry when the instance becomes
known, and is passed on from entry to entry along the tenure, holds of the entry at the end. -/
theorem Tenure.induction_from {before since : List RegistryAction} {P : List RegistryAction → Entry → Prop}
    (hfirst : ∀ a e, (runAll r before).1.known? x = none →
      (run (runAll r before).1 a).1.known? x = some e → P [a] e)
    (hnext : ∀ part a e e', part ≠ [] → (runAll (runAll r before).1 part).1.known? x = some e →
      (run (runAll (runAll r before).1 part).1 a).1.known? x = some e' → P part e → P (part ++ [a]) e')
    (h : Tenure r x before since) (hne : since ≠ [])
    (hk : (runAll r (before ++ since)).1.known? x = some e) : P since e := by
  rw [runAll_append] at hk
  induction since using List.reverseRecOn generalizing e with
  | nil => exact absurd rfl hne
  | append_singleton rest a ih =>
      rw [runAll_snoc] at hk
      by_cases hrest : rest = []
      · subst hrest
        exact hfirst a e h.unknown hk
      · have hshort := List.prefix_append rest [a]
        obtain ⟨old, hold⟩ := Option.ne_none_iff_exists'.mp (h.known rest hrest hshort)
        have hbefore : Tenure r x before rest :=
          ⟨h.unknown, fun part hpart hpre => h.known part hpart (hpre.trans hshort)⟩
        rw [runAll_append] at hold
        exact hnext rest a old e hrest hold hk (ih hbefore hrest hold)

/-- The same, with steps that hold of all registries. -/
theorem Tenure.entry_induction {P : List RegistryAction → Entry → Prop}
    (hfirst : ∀ r a e, r.known? x = none → (run r a).1.known? x = some e → P [a] e)
    (hnext : ∀ r part a e e', part ≠ [] → r.known? x = some e → (run r a).1.known? x = some e' →
      P part e → P (part ++ [a]) e')
    {before since : List RegistryAction} (h : Tenure r x before since) (hne : since ≠ [])
    (hk : (runAll r (before ++ since)).1.known? x = some e) : P since e :=
  h.induction_from (hfirst _) (fun _ => hnext _ _) hne hk

/-- The record of a known instance is the one that counts since it became known. -/
theorem record_of_tenure {before since : List RegistryAction} (h : Tenure r x before since)
    (hne : since ≠ []) (hk : (runAll r (before ++ since)).1.known? x = some e) :
    lastRecord? x since = some e.record := by
  refine h.entry_induction (P := fun part e => lastRecord? x part = some e.record) ?_ ?_ hne hk
  · intro r a e hunknown he
    rw [lastRecord?_singleton, record_run_of_known he, hunknown, Option.map_none, Option.or_none,
      shown?_or_latest]
  · intro r part a e e' hpart hold he ih
    rw [lastRecord?_snoc x hpart, ih, record_run_of_known he, hold, Option.map_some, Option.or_assoc,
      Option.some_or]

/-- The total of a known instance counts the connections opened since it became known. -/
theorem total_since {before since : List RegistryAction} (h : Tenure r x before since)
    (hne : since ≠ []) (hk : (runAll r (before ++ since)).1.known? x = some e) :
    e.total = since.countP (opens x) := by
  refine h.entry_induction (P := fun part e => e.total = part.countP (opens x)) ?_ ?_ hne hk
  · intro r a e hunknown he
    rw [total_run he, Registry.read_of_unknown hunknown, List.countP_singleton, Nat.zero_add]
  · intro r part a e e' _ hold he ih
    rw [total_run he, Registry.read_of_known? hold, List.countP_append, List.countP_singleton, ih]

/-! ### Staying on a list -/

/-- Since it became known, an instance has not been forgotten. -/
theorem along_of_known {actions : List RegistryAction}
    (h : ∀ part, part ≠ [] → part <+: actions → (runAll r part).1.known? x ≠ none) :
    Along (fun r a => a.forgotten? r ≠ some x) r actions := by
  induction actions generalizing r with
  | nil => trivial
  | cons a rest ih =>
      refine ⟨?_, ih ?_⟩
      · intro hforgotten
        have hone := h [a] (by simp) ⟨rest, rfl⟩
        exact hone (forgotten?_eq_some hforgotten).2.2
      · intro part hne hpart
        exact h (a :: part) (by simp) (List.cons_prefix_cons.mpr ⟨rfl, hpart⟩)

theorem along_of_tenure {before since : List RegistryAction} (h : Tenure r x before since) :
    Along (fun r a => a.forgotten? r ≠ some x) (runAll r before).1 since := by
  refine along_of_known ?_
  intro part hne hpart
  have hknown := h.known part hne hpart
  rwa [runAll_append] at hknown

/-- An id stays on a list while the instance is known. -/
theorem listed_run {service : String} (hkept : a.forgotten? r ≠ some x)
    (h : x ∈ r.membersOf service) : x ∈ (run r a).1.membersOf service := by
  rw [mem_membersOf_run]
  exact Or.inl ⟨h, fun hstruck => hkept (struck?_eq_some.mp hstruck).1⟩

/-- **What a list gets stays on it** while it is known. -/
theorem listed_of_tenure {before since : List RegistryAction} {service : String}
    (h : Tenure r x before since)
    (henrolled : Sometime (fun r a => a.Enrols service x r) (runAll r before).1 since) :
    x ∈ (runAll r (before ++ since)).1.membersOf service := by
  rw [runAll_append]
  refine henrolled.brings ?_ (fun _ _ => listed_run) (along_of_tenure h)
  intro r a henrols _
  exact (mem_membersOf_run r a service x).mpr (Or.inr henrols)

end RegistryAction

namespace Registry

open RegistryAction

/-! ### Shown once -/

section Shown

variable {r : Registry} {service x : String} {e : Entry}

/-- A listed instance that is known has one entry among those of the service. -/
theorem filter_entriesOf (hr : r.Sound) (hi : r.Indexed) (hx : x ∈ r.membersOf service)
    (he : r.known? x = some e) : (r.entriesOf service).filter (·.record.id = x) = [e] := by
  have hkeyed : ∀ ids : List String, (ids.filterMap r.known?).filter (·.record.id = x) =
      (ids.filter (· = x)).filterMap r.known? := by
    intro ids
    induction ids with
    | nil => rfl
    | cons id rest ih =>
        by_cases hid : id = x
        · subst hid
          simp [he, (hr id e he).keyed, ih]
        · cases hk : r.known? id with
          | none => simp [hk, hid, ih]
          | some other => simp [hk, (hr id other hk).keyed, hid, ih]
  have honce : (r.membersOf service).filter (· = x) = [x] := by
    rw [List.filter_eq, List.count_eq_one_of_mem (hi.nodup service) hx, List.replicate_one]
  rw [entriesOf, hkeyed, honce, List.filterMap_cons, he]
  rfl

theorem filter_all (hr : r.Sound) (hi : r.Indexed) (hx : x ∈ r.membersOf service)
    (he : r.known? x = some e) : (r.all service).filter (·.id = x) = [e.status] := by
  rw [all, List.filter_map, show ((fun c : Status => decide (c.id = x)) ∘ Entry.status) =
    fun e : Entry => decide (e.record.id = x) from rfl, filter_entriesOf hr hi hx he]
  rfl

theorem filter_snapshot (hr : r.Sound) (hi : r.Indexed) (hx : x ∈ r.membersOf service)
    (he : r.known? x = some e) : (r.snapshot service).filter (·.id = x) = [e.report] := by
  rw [snapshot, List.filter_map, show ((fun c : InstanceReport => decide (c.id = x)) ∘ Entry.report) =
    fun e : Entry => decide (e.record.id = x) from rfl, filter_entriesOf hr hi hx he]
  rfl

end Shown

/-! ### Order -/

/-- Two ids that are shown in some order are listed in this order, and known. -/
theorem shown_pair_iff {r : Registry} (hr : r.Sound) {service x y : String} :
    [x, y].Sublist ((r.all service).map Status.id) ↔
      [x, y].Sublist (r.membersOf service) ∧ r.known? x ≠ none ∧ r.known? y ≠ none := by
  rw [ids_all hr]
  constructor
  · intro h
    have hx := List.mem_filter.mp (h.subset (by simp : x ∈ [x, y]))
    have hy := List.mem_filter.mp (h.subset (by simp : y ∈ [x, y]))
    exact ⟨h.trans List.filter_sublist, Option.isSome_iff_ne_none.mp hx.2,
      Option.isSome_iff_ne_none.mp hy.2⟩
  · rintro ⟨h, hx, hy⟩
    have hpair : [x, y].filter (fun z => (r.known? z).isSome) = [x, y] := by
      rw [← Option.isSome_iff_ne_none] at hx hy
      simp [hx, hy]
    rw [← hpair]
    exact h.filter _

/-- **Shown ids keep their order** as long as neither is forgotten. -/
theorem shown_pair_runAll {r : Registry} (hr : r.Sound) {service x y : String}
    (h : [x, y].Sublist ((r.all service).map Status.id)) {later : List RegistryAction}
    (hkept : Along (fun r a => a.forgotten? r ≠ some x ∧ a.forgotten? r ≠ some y) r later) :
    [x, y].Sublist (((runAll r later).1.all service).map Status.id) := by
  rw [shown_pair_iff (sound_runAll hr later)]
  refine hkept.keeps (Q := fun r => [x, y].Sublist (r.membersOf service) ∧
    r.known? x ≠ none ∧ r.known? y ≠ none) ?_ ((shown_pair_iff hr).mp h)
  rintro r a ⟨hx, hy⟩ ⟨hpair, hxknown, hyknown⟩
  exact ⟨precedes_run hpair hx hy, known?_run_ne_none hxknown hx, known?_run_ne_none hyknown hy⟩

/-! ### Seeing instances twice -/

theorem addMember_of_mem {r : Registry} {service id : String} (h : id ∈ r.membersOf service) :
    r.addMember service id = r := by
  have hget : r.members.get? service = some (r.membersOf service) := by
    unfold membersOf at h ⊢
    cases hids : r.members.get? service with
    | none => simp [hids] at h
    | some ids => rfl
  simp only [addMember, if_pos h, Table.put_eq_self hget]

/-- Seeing known and listed instances brings their records up to date, and nothing else. -/
theorem observe_of_mem {r : Registry} {service : String} {records : List Instance}
    (hlisted : ∀ i ∈ records, i.id ∈ r.membersOf service)
    (hknown : ∀ i ∈ records, r.known? i.id ≠ none) :
    (r.observe service records).members = r.members ∧
      (r.observe service records).changes = r.changes ∧
      (r.observe service records).entries.keys = r.entries.keys := by
  unfold observe
  induction records generalizing r with
  | nil => exact ⟨rfl, rfl, rfl⟩
  | cons record rest ih =>
      have hfirst := hlisted record List.mem_cons_self
      have hkey : record.id ∈ r.entries.keys := by
        rw [← Table.contains_iff, Table.contains, Option.isSome_iff_ne_none]
        exact hknown record List.mem_cons_self
      have hmembers : (observeOne service r record).members = r.members := by
        simp only [observeOne]
        rw [addMember_of_mem]
        exact hfirst
      have hkeys : (observeOne service r record).entries.keys = r.entries.keys := by
        rw [observeOne, addMember, Table.keys_put, if_pos hkey]
      have hrest := ih (r := observeOne service r record)
        (fun i hi => by
          rw [membersOf_congr hmembers]
          exact hlisted i (List.mem_cons_of_mem _ hi))
        (fun i hi => by
          rw [known?_observeOne]
          split
          · simp
          · exact hknown i (List.mem_cons_of_mem _ hi))
      rw [List.foldl_cons]
      exact ⟨hrest.1.trans hmembers, hrest.2.1, hrest.2.2.trans hkeys⟩

/-- Seeing the same instances a second time changes nothing. -/
theorem observe_observe (r : Registry) (service : String) (records : List Instance) :
    (r.observe service records).observe service records = r.observe service records := by
  have hlisted : ∀ i ∈ records, i.id ∈ (r.observe service records).membersOf service := by
    intro i hi
    rw [mem_membersOf_observe]
    exact Or.inr ⟨rfl, List.mem_map_of_mem hi⟩
  have hknown : ∀ i ∈ records, (r.observe service records).known? i.id ≠ none := by
    intro i hi
    have henrols : (RegistryAction.observe service records).Enrols service i.id r :=
      ⟨rfl, List.mem_map_of_mem hi⟩
    exact known?_of_enrols henrols
  obtain ⟨hmembers, hchanges, hkeys⟩ := observe_of_mem hlisted hknown
  have hentries : ((r.observe service records).observe service records).entries =
      (r.observe service records).entries := by
    refine Table.eq_of_keys hkeys ?_
    intro x
    change ((r.observe service records).observe service records).known? x =
      (r.observe service records).known? x
    rw [known?_observe, known?_observe]
    cases latest records x with
    | none => rfl
    | some record => exact congrArg some (refresh_some_refresh service record record _)
  revert hmembers hchanges hentries
  cases (r.observe service records).observe service records
  cases r.observe service records
  rintro rfl rfl rfl
  rfl

/-! ### The main statement -/

/-- **Known instances are shown, once and in order**, in a registry that any run has led to. An instance
that has come to a service since it became known last is shown for that service once, in the list of
statuses and in a snapshot, with its entry: the entry has the record that counts since then, and the
current counters and health. Two ids that are shown keep their order as long as neither is forgotten.
What is shown as reachable is what is permitted of the list. Seeing instances changes no counter and no
health, and a second time nothing at all; so does a refusal to forget an instance. -/
theorem known_shown_once (actions : List RegistryAction) :
    let r := (runAll .empty actions).1
    (∀ x service before since, actions = before ++ since → Tenure .empty x before since →
      Sometime (fun r a => a.Enrols service x r) (runAll .empty before).1 since →
      ∃ e, r.known? x = some e ∧ e.record.id = x ∧ lastRecord? x since = some e.record ∧
        e.connections = r.connections x ∧ e.total = since.countP (opens x) ∧
        (r.all service).filter (·.id = x) = [e.status] ∧
        (r.snapshot service).filter (·.id = x) = [e.report]) ∧
    (∀ x y service later, [x, y].Sublist ((r.all service).map Status.id) →
      Along (fun r a => a.forgotten? r ≠ some x ∧ a.forgotten? r ≠ some y) r later →
      let after := (runAll r later).1
      [x, y].Sublist ((after.all service).map Status.id) ∧
        [x, y].Sublist ((after.snapshot service).map InstanceReport.id)) ∧
    (∀ lenient service,
      r.reachable lenient service = (r.all service).filter fun c => c.health.isReachable lenient) ∧
    (∀ service records,
      let seen := r.observe service records
      (∀ x, seen.connections x = r.connections x ∧
        seen.read Entry.total 0 x = r.read Entry.total 0 x ∧
        seen.read Entry.health .unknown x = r.read Entry.health .unknown x) ∧
      seen.observe service records = seen) ∧
    ∀ x, (r.evict x).1 = false → (r.evict x).2 = r := by
  intro r
  have hsound : r.Sound := sound_runAll sound_empty actions
  have hindexed : r.Indexed := indexed_runAll indexed_empty actions
  refine ⟨?_, ?_, fun _ _ => rfl, ?_, fun x => evict_eq_self⟩
  · intro x service before since hsplit htenure henrolled
    have hr : (runAll .empty (before ++ since)).1 = r := by rw [← hsplit]
    have hne : since ≠ [] := by
      rintro rfl
      exact henrolled
    have hlisted := listed_of_tenure htenure henrolled
    obtain ⟨e, he⟩ := Option.ne_none_iff_exists'.mp (htenure.known since hne (List.prefix_refl _))
    have hrecord := record_of_tenure htenure hne he
    have htotal := total_since htenure hne he
    rw [hr] at hlisted he
    exact ⟨e, he, (hsound x e he).keyed, hrecord, (connections_of_known? he).symm, htotal,
      filter_all hsound hindexed hlisted he, filter_snapshot hsound hindexed hlisted he⟩
  · intro x y service later hpair hkept after
    have hafter := shown_pair_runAll hsound hpair hkept
    exact ⟨hafter, by rwa [ids_snapshot]⟩
  · intro service records seen
    refine ⟨?_, observe_observe r service records⟩
    intro x
    exact ⟨connections_observe r service records x, read_observe steady_total r service records x,
      read_observe steady_health r service records x⟩

/-- An instance becomes known when its status is asked for, and is opened and seen with another address. -/
theorem known_shown_once_updated :
    let old := Instance.plain "a" "s" "10.0.0.1" 80
    let new := Instance.plain "a" "s" "10.0.0.2" 80
    let other := Instance.plain "b" "s" "10.0.0.3" 80
    let since : List RegistryAction := [.status old, .connect old, .observe "s" [new, other]]
    let r := (runAll .empty since).1
    Tenure .empty "a" [] since ∧ Sometime (fun r a => a.Enrols "s" "a" r) .empty since ∧
      (∃ e, r.known? "a" = some e ∧ e.record = new ∧ e.total = 1 ∧
        (r.all "s").filter (·.id = "a") = [e.status]) ∧
      ["a", "b"].Sublist (((runAll r [.evict "c", .evict "a"]).1.all "s").map Status.id) := by
  intro old new other since r
  have htenure : Tenure .empty "a" [] since := by
    refine ⟨rfl, ?_⟩
    intro part hne hpart
    have hcases : part ∈ since.inits := (List.mem_inits part since).mpr hpart
    simp only [since, List.inits, List.map_cons, List.map_nil, List.mem_cons, List.not_mem_nil,
      or_false] at hcases
    rcases hcases with rfl | rfl | rfl | rfl
    · exact absurd rfl hne
    all_goals decide
  have henrolled : Sometime (fun r a => a.Enrols "s" "a" r) .empty since := Or.inl ⟨rfl, rfl, rfl⟩
  obtain ⟨honce, horder, -⟩ := known_shown_once since
  obtain ⟨e, he, -, hrecord, -, htotal, hshown, -⟩ :=
    honce "a" "s" [] since rfl htenure henrolled
  have hnew : some new = some e.record := hrecord
  have hids : (r.all "s").map Status.id = ["a", "b"] := by decide
  -- the instance has an open connection, so that it is not forgotten
  have hkept : Along (fun r a => a.forgotten? r ≠ some "a" ∧ a.forgotten? r ≠ some "b") r
      [.evict "c", .evict "a"] := ⟨by decide, by decide, trivial⟩
  have hafter := horder "a" "b" "s" _ (hids ▸ List.Sublist.refl _) hkept
  exact ⟨htenure, henrolled, ⟨e, he, (Option.some.inj hnew).symm, htotal, hshown⟩, hafter.1⟩

end Registry

end LoadBalancer

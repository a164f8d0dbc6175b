import Mathlib
import LoadBalancer.Proofs.Attempts

/-!
# Pools

The pool of an attempt is built in two steps, each of which takes entries out of the one before. What comes
out can be said at once: of the different ids of candidates, in their order, the entries of those that may
get requests.

* `eraseDups_filter`, `nodup_eraseDups`, `eraseDups_of_nodup` – first occurrences in a list;
* `intersect_eq` – an intersection, looked up id by id;
* `eq_intersect_iff` – an intersection is the one list with the right ids and entries of the pool;
* `Demand.pool_eq` – the pool of a demand, in one step.
-/

namespace LoadBalancer

/-! ### First occurrences -/

section FirstOccurrences

variable {α : Type} [DecidableEq α]

-- what is left after the head is shorter, but no part of the list
theorem eraseDups_filter (p : α → Bool) (l : List α) : (l.filter p).eraseDups = l.eraseDups.filter p :=
  match l with
  | [] => rfl
  | a :: rest => by
    have hrest := eraseDups_filter p (rest.filter fun b => !b == a)
    rw [List.eraseDups_cons]
    by_cases ha : p a = true
    · rw [List.filter_cons_of_pos ha, List.filter_cons_of_pos ha, List.eraseDups_cons, ← hrest,
        List.filter_filter, List.filter_filter]
      simp only [Bool.and_comm]
    · rw [List.filter_cons_of_neg ha, List.filter_cons_of_neg ha, ← hrest, List.filter_filter]
      congr 1
      refine List.filter_congr fun b _ => ?_
      by_cases hb : b = a
      · rw [hb, Bool.eq_false_of_not_eq_true ha]
        rfl
      · simp [hb]
termination_by l.length
decreasing_by exact Nat.lt_succ_of_le (List.length_filter_le _ _)

theorem nodup_eraseDups (l : List α) : l.eraseDups.Nodup :=
  match l with
  | [] => List.nodup_nil
  | a :: rest => by
    rw [List.eraseDups_cons]
    refine List.nodup_cons.mpr ⟨fun ha => ?_, nodup_eraseDups (rest.filter fun b => !b == a)⟩
    have hne := (List.mem_filter.mp (List.mem_eraseDups.mp ha)).2
    simp at hne
termination_by l.length
decreasing_by exact Nat.lt_succ_of_le (List.length_filter_le _ _)

theorem eraseDups_of_nodup {l : List α} (h : l.Nodup) : l.eraseDups = l := by
  induction l with
  | nil => rfl
  | cons a rest ih =>
    obtain ⟨ha, hrest⟩ := List.nodup_cons.mp h
    have hall : (rest.filter fun b => !b == a) = rest := by
      refine List.filter_eq_self.mpr fun b hb => ?_
      have hne : b ≠ a := fun hba => ha (hba ▸ hb)
      simp [hne]
    rw [List.eraseDups_cons, hall, ih hrest]

end FirstOccurrences

/-! ### Entries by id -/

/-- The entry of an id among some statuses. -/
def entryOf? (pool : List Status) (id : String) : Option Status := pool.find? (·.id == id)

theorem id_of_entryOf? {pool : List Status} {id : String} {s : Status}
    (h : entryOf? pool id = some s) : s.id = id := by
  simpa using List.find?_some h

theorem entryOf?_isSome {pool : List Status} {id : String} :
    (entryOf? pool id).isSome = true ↔ id ∈ pool.map Status.id := by
  simp [entryOf?]

/-- Where no id comes twice, an entry is found by its id. -/
theorem entryOf?_of_mem {pool : List Status} (hpool : (pool.map Status.id).Nodup) {s : Status}
    (hs : s ∈ pool) : entryOf? pool s.id = some s := by
  obtain ⟨found, hfound⟩ := Option.isSome_iff_exists.mp
    (entryOf?_isSome.mpr (List.mem_map.mpr ⟨s, hs, rfl⟩))
  have hmem : found ∈ pool := List.mem_of_find?_eq_some hfound
  rw [hfound, List.inj_on_of_nodup_map hpool hmem hs (id_of_entryOf? hfound)]

/-- Where no id comes twice, entries can be told by their ids. -/
theorem filterMap_entryOf?_ids {pool l : List Status} (hpool : (pool.map Status.id).Nodup)
    (hl : ∀ s ∈ l, s ∈ pool) : (l.map Status.id).filterMap (entryOf? pool) = l := by
  induction l with
  | nil => rfl
  | cons s rest ih =>
    obtain ⟨hs, hrest⟩ := List.forall_mem_cons.mp hl
    rw [List.map_cons, List.filterMap_cons_some (entryOf?_of_mem hpool hs), ih hrest]

theorem entryOf?_filter_ne (pool : List Status) (gone id : String) :
    entryOf? (pool.filter (·.id ≠ gone)) id = if id = gone then none else entryOf? pool id := by
  unfold entryOf?
  rw [List.find?_filter]
  split
  · rename_i h
    rw [h, List.find?_eq_none]
    intro s _ hs
    simp at hs
  · rename_i h
    congr 1
    funext s
    by_cases hs : s.id = id
    · simp [hs, h]
    · simp [hs]

/-- The ids of the entries that are there. -/
theorem ids_filterMap_entryOf? (pool : List Status) (ids : List String) :
    (ids.filterMap (entryOf? pool)).map Status.id = ids.filter fun id => id ∈ pool.map Status.id := by
  induction ids with
  | nil => rfl
  | cons id rest ih =>
    cases hentry : entryOf? pool id with
    | none =>
      have hnot : id ∉ pool.map Status.id := fun hmem => by
        rw [← entryOf?_isSome, hentry] at hmem
        cases hmem
      rw [List.filterMap_cons_none hentry, ih, List.filter_cons_of_neg (by simpa using hnot)]
    | some s =>
      have hmem : id ∈ pool.map Status.id := entryOf?_isSome.mp (by rw [hentry]; rfl)
      rw [List.filterMap_cons_some hentry, List.map_cons, ih, id_of_entryOf? hentry,
        List.filter_cons_of_pos (by simpa using hmem)]

/-- Ids that have no entry do not count. -/
theorem filterMap_entryOf?_filter {pool : List Status} {p : String → Bool}
    (h : ∀ id ∈ pool.map Status.id, p id = true) (ids : List String) :
    (ids.filter p).filterMap (entryOf? pool) = ids.filterMap (entryOf? pool) := by
  rw [List.filterMap_filter]
  congr 1
  funext id
  split
  · rfl
  · rename_i hp
    cases hentry : entryOf? pool id with
    | none => rfl
    | some s => exact absurd (h id (entryOf?_isSome.mp (by rw [hentry]; rfl))) hp

/-- **An intersection** has the entries of the different ids of candidates, in their order. -/
theorem intersect_eq (cs pool : List Status) :
    intersect cs pool = (cs.map Status.id).eraseDups.filterMap (entryOf? pool) := by
  induction cs generalizing pool with
  | nil => rfl
  | cons c rest ih =>
    have hfind : pool.find? (·.id == c.id) = entryOf? pool c.id := rfl
    rw [List.map_cons, List.eraseDups_cons, eraseDups_filter, intersect, hfind]
    cases hentry : entryOf? pool c.id with
    | none =>
      have hgone : ∀ id ∈ pool.map Status.id, (!id == c.id) = true := by
        intro id hid
        have hne : id ≠ c.id := by
          rintro rfl
          rw [← entryOf?_isSome, hentry] at hid
          cases hid
        simp [hne]
      rw [List.filterMap_cons_none hentry, filterMap_entryOf?_filter hgone]
      exact ih pool
    | some s =>
      rw [List.filterMap_cons_some hentry, List.filterMap_filter]
      dsimp only
      rw [ih]
      congr 2
      funext id
      rw [entryOf?_filter_ne]
      by_cases hid : id = c.id <;> simp [hid]

/-- An intersection has the ids of the candidates that are in the pool, each where it comes first. -/
theorem ids_intersect (cs pool : List Status) :
    (intersect cs pool).map Status.id =
      (cs.map Status.id).eraseDups.filter fun id => id ∈ pool.map Status.id := by
  rw [intersect_eq, ids_filterMap_entryOf?]

/-- **What an intersection is.** If no id comes twice in the pool, its ids and the pool determine it. -/
theorem eq_intersect_iff {cs pool l : List Status} (hpool : (pool.map Status.id).Nodup) :
    l = intersect cs pool ↔
      l.map Status.id = (cs.map Status.id).eraseDups.filter (fun id => id ∈ pool.map Status.id) ∧
        ∀ s ∈ l, s ∈ pool := by
  have hmem : ∀ s ∈ intersect cs pool, s ∈ pool := fun _ => mem_of_mem_intersect
  constructor
  · rintro rfl
    exact ⟨ids_intersect cs pool, hmem⟩
  · rintro ⟨hids, hl⟩
    rw [← ids_intersect] at hids
    rw [← filterMap_entryOf?_ids hpool hl, hids, filterMap_entryOf?_ids hpool hmem]

/-- An intersection loses nothing if it is intersected again. -/
theorem intersect_intersect (cs : List Status) {pool : List Status}
    (hpool : (pool.map Status.id).Nodup) :
    intersect (intersect cs pool) pool = intersect cs pool := by
  rw [intersect_eq, eraseDups_of_nodup (nodup_intersect cs pool)]
  exact filterMap_entryOf?_ids hpool fun _ => mem_of_mem_intersect

/-! ### Pools of demands -/

namespace Demand

/-- **The pool of a demand** has the entries of the different ids of candidates that may get requests, in
the order of the candidates. -/
theorem pool_eq (d : Demand) (r : Registry) :
    d.pool r = (d.candidates.map Status.id).eraseDups.filterMap
      (entryOf? (r.reachable d.lenient d.service)) := by
  have hids : ∀ id ∈ (r.reachable d.lenient d.service).map Status.id,
      decide (id ∈ (r.all d.service).map Status.id) = true := by
    intro id hid
    exact decide_eq_true (((r.reachable_sublist d.lenient d.service).map _).mem hid)
  unfold pool available
  rw [intersect_eq, intersect_eq, ids_filterMap_entryOf?, eraseDups_of_nodup,
    filterMap_entryOf?_filter hids]
  exact (nodup_eraseDups _).filter _

/-- It makes no difference that the candidates are first looked for among all instances. -/
theorem pool_eq_intersect (d : Demand) (r : Registry) :
    d.pool r = intersect d.candidates (r.reachable d.lenient d.service) := by
  rw [pool_eq, intersect_eq]

end Demand

end LoadBalancer

import Mathlib
import LoadBalancer.Attempts

/-!
# Laws of attempts

What becomes of the state that attempts act on, and how attempts end.

* `mem_ids_intersect`, `length_intersect_filter`, `length_intersect` – which ids are in an intersection,
  and how many;
* `pickFrom_of_lt` – what is picked from a pool that may get requests is not refused;
* `attempt_keeps`, `attempt_keeps_of_unpicked` – attempts keep what a pick and a pause keep;
* `attempt_chosen` – a chosen instance comes out of a pool;
* `attempt_of_unreachable`, `attempt_of_pick` – how attempts end on a registry that stays as it is.
-/

namespace LoadBalancer

/-! ### Intersections -/

theorem mem_ids_intersect {x : String} {cs pool : List Status} :
    x ∈ (intersect cs pool).map Status.id ↔
      x ∈ cs.map Status.id ∧ x ∈ pool.map Status.id := by
  induction cs generalizing pool with
  | nil => simp [intersect]
  | cons c rest ih =>
      have hothers : x ∈ (pool.filter (·.id ≠ c.id)).map Status.id ↔
          x ∈ pool.map Status.id ∧ x ≠ c.id := by
        simp only [List.mem_map, List.mem_filter, decide_eq_true_eq]
        constructor
        · rintro ⟨s, ⟨hs, hne⟩, rfl⟩
          exact ⟨⟨s, hs, rfl⟩, hne⟩
        · rintro ⟨⟨s, hs, rfl⟩, hne⟩
          exact ⟨s, ⟨hs, hne⟩, rfl⟩
      simp only [intersect]
      split
      · rename_i s hs
        have hid : s.id = c.id := by simpa using List.find?_some hs
        have hpool : c.id ∈ pool.map Status.id :=
          List.mem_map.mpr ⟨s, List.mem_of_find?_eq_some hs, hid⟩
        rw [List.map_cons, List.mem_cons, ih, hothers, hid, List.map_cons, List.mem_cons]
        by_cases hx : x = c.id
        · rw [hx]
          exact ⟨fun _ => ⟨Or.inl rfl, hpool⟩, fun _ => Or.inl rfl⟩
        · tauto
      · rename_i hnone
        have hpool : c.id ∉ pool.map Status.id := by
          intro hmem
          obtain ⟨s, hs, hid⟩ := List.mem_map.mp hmem
          have hne := List.find?_eq_none.mp hnone s hs
          simp [hid] at hne
        rw [ih, List.map_cons, List.mem_cons]
        constructor
        · rintro ⟨hrest, hx⟩
          exact ⟨Or.inr hrest, hx⟩
        · rintro ⟨hx | hrest, hmem⟩
          · rw [hx] at hmem
            exact absurd hmem hpool
          · exact ⟨hrest, hmem⟩

/-- The intersection is as long as there are different ids of candidates in the pool. -/
theorem length_intersect_filter (cs pool : List Status) :
    (intersect cs pool).length =
      ((cs.filter fun c => c.id ∈ pool.map Status.id).map Status.id).dedup.length := by
  have hperm : ((intersect cs pool).map Status.id).Perm
      ((cs.filter fun c => c.id ∈ pool.map Status.id).map Status.id).dedup := by
    rw [List.perm_ext_iff_of_nodup (nodup_intersect cs pool) (List.nodup_dedup _)]
    intro x
    rw [mem_ids_intersect, List.mem_dedup]
    constructor
    · rintro ⟨hx, hpool⟩
      obtain ⟨c, hc, rfl⟩ := List.mem_map.mp hx
      exact List.mem_map.mpr ⟨c, List.mem_filter.mpr ⟨hc, by simpa using hpool⟩, rfl⟩
    · intro hx
      obtain ⟨c, hc, rfl⟩ := List.mem_map.mp hx
      obtain ⟨hmem, hpool⟩ := List.mem_filter.mp hc
      exact ⟨List.mem_map.mpr ⟨c, hmem, rfl⟩, by simpa using hpool⟩
  rw [← hperm.length_eq, List.length_map]

/-- If the pool has all candidates, the intersection is as long as there are different ones. -/
theorem length_intersect {cs pool : List Status} (h : ∀ c ∈ cs, c.id ∈ pool.map Status.id) :
    (intersect cs pool).length = (cs.map Status.id).dedup.length := by
  have hall : (cs.filter fun c => c.id ∈ pool.map Status.id) = cs :=
    List.filter_eq_self.mpr fun c hc => by simpa using h c hc
  rw [length_intersect_filter, hall]

namespace Demand

theorem mem_ids_available {d : Demand} {r : Registry} {x : String} :
    x ∈ (d.available r).map Status.id ↔
      x ∈ d.candidates.map Status.id ∧ x ∈ (r.all d.service).map Status.id :=
  mem_ids_intersect

theorem mem_ids_pool {d : Demand} {r : Registry} {x : String} :
    x ∈ (d.pool r).map Status.id ↔
      x ∈ d.candidates.map Status.id ∧ x ∈ (r.all d.service).map Status.id ∧
        x ∈ (r.reachable d.lenient d.service).map Status.id := by
  unfold pool
  rw [mem_ids_intersect, mem_ids_available, and_assoc]

end Demand

/-! ### What attempts keep -/

/-- A pick and a pause keep a property of states. -/
structure Surroundings.Keeps {σ : Type} (env : Surroundings σ) (I : σ → Prop) : Prop where
  pick : ∀ pool s, I s → I (env.pick pool s).2
  pause : ∀ s, I s → I (env.pause s)

section Attempts

variable {σ : Type} {env : Surroundings σ} {I : σ → Prop} {d : Demand}

theorem pickFrom_keeps (h : env.Keeps I) {s : σ} (hs : I s) (lenient : Bool) (pool : List Status) :
    I (pickFrom env lenient pool s).2 := by
  unfold pickFrom
  split
  · exact hs
  · exact h.pick pool s hs

theorem mem_of_pickFrom {lenient : Bool} {pool : List Status} {s : σ} {c : Status}
    (h : (pickFrom env lenient pool s).1 = some c) : c ∈ pool := by
  unfold pickFrom at h
  split at h
  · cases h
  · obtain ⟨hbind, -⟩ := Option.filter_eq_some_iff.mp h
    obtain ⟨i, -, hi⟩ := Option.bind_eq_some_iff.mp hbind
    exact List.mem_of_getElem? hi

/-- An index of the pool that is picked is not refused, if all of the pool may still get requests. -/
theorem pickFrom_of_lt {lenient : Bool} {pool : List Status} {s : σ} {i : Nat}
    (hpick : (env.pick pool s).1 = some i) (hi : i < pool.length)
    (halive : ∀ c ∈ pool, (env.registry (env.pick pool s).2).isAlive lenient c.id = true) :
    pickFrom env lenient pool s = (some pool[i], (env.pick pool s).2) := by
  have hsome : pool.isEmpty = false := by
    rw [List.isEmpty_eq_false_iff]
    exact List.ne_nil_of_length_pos (Nat.zero_lt_of_lt hi)
  have haccepted := halive pool[i] (List.getElem_mem hi)
  simp only [pickFrom, hsome, Bool.false_eq_true, if_false, hpick, Option.bind_some,
    List.getElem?_eq_getElem hi, Option.filter_some, haccepted, if_true]

/-- What a pick and a pause keep is kept by all attempts, by induction on their number. -/
theorem attempt_keeps (h : env.Keeps I) (d : Demand) (tries : Nat) {s : σ} (hs : I s) :
    I (attempt env d tries s).2 := by
  induction tries generalizing s with
  | zero => exact hs
  | succ left ih =>
      have hpicked := pickFrom_keeps h hs d.lenient (d.pool (env.registry s))
      simp only [attempt]
      split
      · exact hs
      · split
        · rename_i c t heq
          rw [heq] at hpicked
          exact hpicked
        · rename_i t heq
          rw [heq] at hpicked
          split
          · exact hpicked
          · exact ih (h.pause t hpicked)

/-- If there is never anything to pick from, what a pause keeps is kept. -/
theorem attempt_keeps_of_unpicked (hpool : ∀ s, I s → d.pool (env.registry s) = [])
    (hpause : ∀ s, I s → I (env.pause s)) (tries : Nat) {s : σ} (hs : I s) :
    I (attempt env d tries s).2 := by
  induction tries generalizing s with
  | zero => exact hs
  | succ left ih =>
      simp only [attempt, hpool s hs, pickFrom, List.isEmpty_nil, if_true]
      split
      · exact hs
      · split
        · exact hs
        · exact ih (hpause s hs)

/-- A chosen instance comes out of the pool of some state on the way. -/
theorem attempt_chosen (h : env.Keeps I) {tries : Nat} {s : σ} (hs : I s) {record : Instance}
    (hc : (attempt env d tries s).1 = .chosen record) :
    ∃ t, I t ∧ ∃ c ∈ d.pool (env.registry t), c.record = record := by
  induction tries generalizing s with
  | zero => cases hc
  | succ left ih =>
      have hpicked := pickFrom_keeps h hs d.lenient (d.pool (env.registry s))
      simp only [attempt] at hc
      split at hc
      · cases hc
      · split at hc
        · rename_i c t heq
          have hmem : c ∈ d.pool (env.registry s) := mem_of_pickFrom (congrArg Prod.fst heq)
          cases hc
          exact ⟨s, hs, c, hmem, rfl⟩
        · rename_i t heq
          rw [heq] at hpicked
          split at hc
          · cases hc
          · exact ih (h.pause t hpicked) hc

/-! ### A registry that stays as it is -/

variable {r : Registry}

/-- None of the candidates that the service has may get requests. -/
theorem attempt_of_unreachable (h : env.Keeps fun s => env.registry s = r) {s : σ}
    (hs : env.registry s = r) (ha : d.available r ≠ []) (hp : d.pool r = []) (left : Nat) :
    (attempt env d (left + 1) s).1 = .exhausted (d.available r).length := by
  have hempty : (d.available r).isEmpty = false := by simpa using ha
  induction left generalizing s with
  | zero => simp [attempt, pickFrom, hs, hp, ha]
  | succ left ih =>
      have hnext := ih (h.pause s hs)
      rw [attempt]
      simp only [hs, hp, hempty, pickFrom, List.isEmpty_nil, if_true, Bool.false_eq_true, if_false,
        Nat.add_one_ne_zero]
      exact hnext

/-- The first attempt ends with the pick, if the pick is in the pool. -/
theorem attempt_of_pick (h : env.Keeps fun s => env.registry s = r) {s : σ}
    (hs : env.registry s = r) (ha : d.available r ≠ []) {i : Nat}
    (hi : (env.pick (d.pool r) s).1 = some i) (hlt : i < (d.pool r).length)
    (halive : ∀ c ∈ d.pool r, r.isAlive d.lenient c.id = true) (left : Nat) :
    attempt env d (left + 1) s = (.chosen (d.pool r)[i].record, (env.pick (d.pool r) s).2) := by
  have hstays : env.registry (env.pick (d.pool r) s).2 = r := h.pick _ s hs
  have havail : (d.available r).isEmpty = false := by simpa using ha
  have hfrom : pickFrom env d.lenient (d.pool r) s =
      (some (d.pool r)[i], (env.pick (d.pool r) s).2) := by
    apply pickFrom_of_lt hi hlt
    rw [hstays]
    exact halive
  simp only [attempt, hs, havail, Bool.false_eq_true, if_false, hfrom]

end Attempts

end LoadBalancer

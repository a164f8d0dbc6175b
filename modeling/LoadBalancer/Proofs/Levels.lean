import Mathlib
import LoadBalancer.Chooser

/-!
# Levels of load

Whoever always adds to the first of the least loads levels them out.

* `FirstLeast`, `leastFrom_spec` – the first of the least loads, and that it is what the search for a least
  loaded instance finds;
* `spread`, `shortage` – how far loads are apart, and what they lack to the largest of them;
* `Pours` – one load after the other goes to the first of the least ones;
* `Pours.spread_le`, `Pours.spread_le_one`, `Pours.cyclic` – loads that are poured come closer, until they
  are level; from then on they take turns.
-/

namespace LoadBalancer

/-! ### The first of the least -/

/-- At a position there is the first of the least loads. -/
structure FirstLeast (loads : List Nat) (i load : Nat) : Prop where
  there : loads[i]? = some load
  least : ∀ x ∈ loads, load ≤ x
  first : ∀ j < i, ∀ x, loads[j]? = some x → load < x

theorem FirstLeast.unique {loads : List Nat} {i j x y : Nat} (h : FirstLeast loads i x)
    (h' : FirstLeast loads j y) : i = j := by
  have hxy : x = y :=
    le_antisymm (h.least y (List.mem_of_getElem? h'.there)) (h'.least x (List.mem_of_getElem? h.there))
  rcases lt_trichotomy i j with hij | hij | hij
  · have hlt := h'.first i hij x h.there
    omega
  · exact hij
  · have hlt := h.first j hij y h'.there
    omega

/-- A least load that comes before the others. -/
theorem firstLeast_head {load : Nat} {rest : List Nat} (h : ∀ x ∈ rest, load ≤ x) :
    FirstLeast (load :: rest) 0 load where
  there := rfl
  least := by simpa using h
  first := fun j hj => absurd hj (Nat.not_lt_zero j)

/-- A least load that comes after a larger one. -/
theorem FirstLeast.cons {i load first : Nat} {rest : List Nat} (h : FirstLeast rest i load)
    (hlt : load < first) : FirstLeast (first :: rest) (i + 1) load where
  there := by simpa using h.there
  least := by
    intro x hx
    rcases List.mem_cons.mp hx with rfl | hx
    · exact hlt.le
    · exact h.least x hx
  first := by
    intro j hj x hx
    cases j with
    | zero =>
      cases hx
      exact hlt
    | succ j => exact h.first j (by omega) x (by simpa using hx)

theorem leastFrom_eq_none {start : Nat} {pool : List Status} (h : leastFrom start pool = none) :
    pool = [] := by
  cases pool with
  | nil => rfl
  | cons s rest =>
    unfold leastFrom at h
    split at h
    · split at h <;> cases h
    · cases h

/-- The search for a least loaded instance finds the first of the least loads. -/
theorem leastFrom_spec {start j load : Nat} {pool : List Status}
    (h : leastFrom start pool = some (j, load)) :
    ∃ i, j = start + i ∧ FirstLeast (pool.map Status.connections) i load := by
  induction pool generalizing start j load with
  | nil => cases h
  | cons s rest ih =>
    unfold leastFrom at h
    split at h
    · rename_i k least hrest
      obtain ⟨i, rfl, hleast⟩ := ih hrest
      split at h
      · rename_i hle
        cases h
        exact ⟨0, rfl, firstLeast_head fun x hx => hle.trans (hleast.least x hx)⟩
      · rename_i hlt
        cases h
        exact ⟨i + 1, by omega, hleast.cons (not_le.mp hlt)⟩
    · rename_i hnone
      cases h
      rw [leastFrom_eq_none hnone]
      exact ⟨0, rfl, firstLeast_head (by simp)⟩

/-! ### Loads apart -/

variable (load : String → Nat) (ids : List String)

/-- The largest load. -/
def largest : Nat := (ids.map load).max?.getD 0

/-- The smallest load. -/
def smallest : Nat := (ids.map load).min?.getD 0

/-- The difference between the largest and the smallest load. -/
def spread : Nat := largest load ids - smallest load ids

/-- What all loads lack to the largest one. -/
def shortage : Nat := (ids.map fun id => largest load ids - load id).sum

variable {load ids}

theorem le_largest {x : String} (h : x ∈ ids) : load x ≤ largest load ids := by
  have hmem : load x ∈ ids.map load := List.mem_map.mpr ⟨x, h, rfl⟩
  obtain ⟨m, hm⟩ := Option.isSome_iff_exists.mp (List.isSome_max?_of_mem hmem)
  rw [largest, hm]
  exact (List.max?_eq_some_iff.mp hm).2 _ hmem

theorem smallest_le {x : String} (h : x ∈ ids) : smallest load ids ≤ load x := by
  have hmem : load x ∈ ids.map load := List.mem_map.mpr ⟨x, h, rfl⟩
  obtain ⟨m, hm⟩ := Option.isSome_iff_exists.mp (List.isSome_min?_of_mem hmem)
  rw [smallest, hm]
  exact (List.min?_eq_some_iff.mp hm).2 _ hmem

/-- Loads are no further apart than any two of them. -/
theorem spread_le_iff {d : Nat} :
    spread load ids ≤ d ↔ ∀ x ∈ ids, ∀ y ∈ ids, load x ≤ load y + d := by
  constructor
  · intro h x hx y hy
    have hlarge : load x ≤ largest load ids := le_largest hx
    have hsmall : smallest load ids ≤ load y := smallest_le hy
    unfold spread at h
    omega
  · intro h
    cases hmax : (ids.map load).max? with
    | none =>
      rw [spread, largest, hmax]
      exact (Nat.zero_sub _).le.trans (Nat.zero_le d)
    | some m =>
      cases hmin : (ids.map load).min? with
      | none =>
        rw [List.min?_eq_none_iff] at hmin
        rw [hmin] at hmax
        cases hmax
      | some n =>
        obtain ⟨x, hx, rfl⟩ := List.mem_map.mp (List.max?_eq_some_iff.mp hmax).1
        obtain ⟨y, hy, rfl⟩ := List.mem_map.mp (List.min?_eq_some_iff.mp hmin).1
        have hxy := h x hx y hy
        rw [spread, largest, smallest, hmax, hmin]
        simp only [Option.getD_some]
        omega

theorem apart_le {x y : String} (hx : x ∈ ids) (hy : y ∈ ids) : load x ≤ load y + spread load ids :=
  spread_le_iff.mp le_rfl x hx y hy

/-! ### Pouring -/

/-- Loads are put on one after the other, each on the first of the least loads. -/
inductive Pours (ids : List String) : (String → Nat) → List String → (String → Nat) → Prop
  | done {before after : String → Nat} (h : ∀ x ∈ ids, after x = before x) : Pours ids before [] after
  | pour {before next after : String → Nat} {picks : List String} {i least : Nat} {id : String}
      (hleast : FirstLeast (ids.map before) i least) (hid : ids[i]? = some id)
      (hnext : ∀ x ∈ ids, next x = before x + if id = x then 1 else 0) (rest : Pours ids next picks after) :
      Pours ids before (id :: picks) after

namespace Pours

variable {before next after : String → Nat} {picks : List String} {i least : Nat} {id : String}

/-- What is poured on is a least load. -/
theorem least_eq (hleast : FirstLeast (ids.map before) i least) (hid : ids[i]? = some id) :
    before id = least := by
  have hthere := hleast.there
  rw [List.getElem?_map, hid] at hthere
  exact Option.some.inj hthere

theorem le_of_mem (hleast : FirstLeast (ids.map before) i least) (hid : ids[i]? = some id) {x : String}
    (hx : x ∈ ids) : before id ≤ before x := by
  rw [least_eq hleast hid]
  exact hleast.least _ (List.mem_map.mpr ⟨x, hx, rfl⟩)

/-- It matters only how large the loads of the ids were. -/
theorem congr {before' : String → Nat} (h : Pours ids before' picks after)
    (hsame : ∀ x ∈ ids, before' x = before x) : Pours ids before picks after := by
  have hloads : ids.map before' = ids.map before := List.map_congr_left hsame
  cases h with
  | done hafter => exact .done fun x hx => (hafter x hx).trans (hsame x hx)
  | pour hleast hid hnext rest =>
    rw [hloads] at hleast
    refine .pour hleast hid (fun x hx => ?_) rest
    rw [hnext x hx, hsame x hx]

/-- One load does not draw the others apart, unless by one. -/
theorem spread_le_of_pour (hleast : FirstLeast (ids.map before) i least) (hid : ids[i]? = some id)
    (hnext : ∀ x ∈ ids, next x = before x + if id = x then 1 else 0) :
    spread next ids ≤ max 1 (spread before ids) := by
  rw [spread_le_iff]
  intro x hx y hy
  have hapart : before x ≤ before y + spread before ids := apart_le hx hy
  have hmin := le_of_mem hleast hid hy
  rw [hnext x hx, hnext y hy]
  by_cases hxid : id = x
  · rw [if_pos hxid, ← hxid]
    omega
  · rw [if_neg hxid]
    omega

/-- **Loads do not come apart**, by more than one or more than they were. -/
theorem spread_le (h : Pours ids before picks after) : spread after ids ≤ max 1 (spread before ids) := by
  induction h with
  | @done before after hsame =>
    rw [spread_le_iff]
    intro x hx y hy
    have hapart : before x ≤ before y + spread before ids := apart_le hx hy
    rw [hsame x hx, hsame y hy]
    omega
  | pour hleast hid hnext _ ih =>
    have hone := spread_le_of_pour hleast hid hnext
    omega

/-- As soon as as many loads were put on as were lacking, the loads are level: each load that is put on
while one is lacking takes the place of one that is. -/
theorem spread_le_one_of_le (h : Pours ids before picks after) {top : Nat} (htop : ∀ x ∈ ids, before x ≤ top)
    (henough : (ids.map fun x => top - before x).sum ≤ picks.length) : spread after ids ≤ 1 := by
  induction h with
  | @done before after hsame =>
    rw [spread_le_iff]
    intro x hx y hy
    have hmem : top - before y ∈ ids.map fun x => top - before x := List.mem_map.mpr ⟨y, hy, rfl⟩
    have hlack := List.le_sum_of_mem hmem
    have hx' := htop x hx
    simp only [List.length_nil] at henough
    rw [hsame x hx, hsame y hy]
    omega
  | @pour before next after picks i least id hleast hid hnext rest ih =>
    have hmem : id ∈ ids := List.mem_of_getElem? hid
    by_cases hfull : before id = top
    · -- nothing is lacking any more
      have hlevel : spread before ids ≤ 0 := by
        rw [spread_le_iff]
        intro x hx y hy
        have hx' := htop x hx
        have hy' := le_of_mem hleast hid hy
        omega
      have hnow := spread_le_of_pour hleast hid hnext
      have hlater := spread_le rest
      omega
    · have hlt : before id < top := lt_of_le_of_ne (htop id hmem) hfull
      refine ih (fun x hx => ?_) ?_
      · rw [hnext x hx]
        have hx' := htop x hx
        split
        · rename_i hxid
          rw [← hxid]
          omega
        · omega
      · have hless : (ids.map fun x => top - next x).sum < (ids.map fun x => top - before x).sum := by
          refine List.sum_lt_sum _ _ (fun x hx => ?_) ⟨id, hmem, ?_⟩
          · rw [hnext x hx]
            omega
          · rw [hnext id hmem, if_pos rfl]
            omega
        rw [List.length_cons] at henough
        omega

/-- **Loads are level** once as many were put on as were lacking. -/
theorem spread_le_one (h : Pours ids before picks after) (henough : shortage before ids ≤ picks.length) :
    spread after ids ≤ 1 :=
  spread_le_one_of_le h (fun _ => le_largest) henough

/-- Loads of which the first few have had their turn. -/
def Turned (ids : List String) (load : String → Nat) (base turned : Nat) : Prop :=
  ∀ j x, ids[j]? = some x → load x = base + if j < turned then 1 else 0

/-- The next turn is that of the first load that has not had it. -/
theorem firstLeast_of_turned {base turned : Nat} (h : Turned ids before base turned)
    (hlt : turned < ids.length) : FirstLeast (ids.map before) turned base where
  there := by
    rw [List.getElem?_map, List.getElem?_eq_getElem hlt, Option.map_some,
      h turned _ (List.getElem?_eq_getElem hlt), if_neg (lt_irrefl _), Nat.add_zero]
  least := by
    intro x hx
    obtain ⟨y, hy, rfl⟩ := List.mem_map.mp hx
    obtain ⟨j, hj⟩ := List.getElem?_of_mem hy
    rw [h j y hj]
    exact Nat.le_add_right _ _
  first := by
    intro j hj x hx
    rw [List.getElem?_map] at hx
    obtain ⟨y, hy, rfl⟩ := Option.map_eq_some_iff.mp hx
    rw [h j y hy, if_pos hj]
    exact Nat.lt_succ_self _

/-- The picks go on through the ids, by induction on the picks with the number of loads that have had their
turn. -/
theorem cyclic_of_turned (h : Pours ids before picks after) (hnodup : ids.Nodup) {base turned : Nat}
    (hturned : Turned ids before base turned) (hlt : turned < ids.length) {n : Nat} (hn : n < picks.length) :
    picks[n]? = ids[(turned + n) % ids.length]? := by
  induction h generalizing base turned n with
  | done _ => cases hn
  | @pour before next after picks i least id hleast hid hnext rest ih =>
    obtain rfl : i = turned := hleast.unique (firstLeast_of_turned hturned hlt)
    have hnext' : ∀ j x, ids[j]? = some x →
        next x = base + (if j < i then 1 else 0) + if j = i then 1 else 0 := by
      intro j x hx
      have hsame : id = x ↔ j = i := by
        constructor
        · rintro rfl
          exact (List.getElem?_inj (List.getElem?_eq_some_iff.mp hx).1 hnodup).mp (hx.trans hid.symm)
        · rintro rfl
          rw [hid] at hx
          exact Option.some.inj hx
      rw [hnext x (List.mem_of_getElem? hx), hturned j x hx]
      simp only [hsame]
    cases n with
    | zero =>
      rw [Nat.add_zero, Nat.mod_eq_of_lt hlt, hid]
      rfl
    | succ n =>
      have hn' : n < picks.length := by simpa using hn
      rw [List.getElem?_cons_succ]
      by_cases hround : i + 1 < ids.length
      · have hlater : Turned ids next base (i + 1) := by
          intro j x hx
          rw [hnext' j x hx]
          split <;> split <;> split <;> omega
        rw [ih hlater hround hn']
        congr 2
        omega
      · -- all have had their turn, and a new round begins
        have hagain : Turned ids next (base + 1) 0 := by
          intro j x hx
          have hj := (List.getElem?_eq_some_iff.mp hx).1
          rw [hnext' j x hx]
          split <;> split <;> split <;> omega
        rw [ih hagain (by omega) hn', show i + (n + 1) = 0 + n + ids.length by omega, Nat.add_mod_right]

/-- **Level loads take turns**, beginning with the first. -/
theorem cyclic (h : Pours ids before picks after) (hnodup : ids.Nodup)
    (hlevel : ∀ x ∈ ids, ∀ y ∈ ids, before x = before y) {n : Nat} (hn : n < picks.length) :
    picks[n]? = ids[n % ids.length]? := by
  cases ids with
  | nil =>
    cases h with
    | done _ => cases hn
    | pour _ hid _ _ => cases hid
  | cons first rest =>
    have hturned : Turned (first :: rest) before (before first) 0 := by
      intro j x hx
      rw [hlevel x (List.mem_of_getElem? hx) first List.mem_cons_self]
      rfl
    rw [cyclic_of_turned h hnodup hturned (Nat.zero_lt_succ _) hn, Nat.zero_add]

end Pours

end LoadBalancer

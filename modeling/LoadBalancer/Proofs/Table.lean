import Mathlib
import LoadBalancer.Metrics.Tally

/-!
# Tables as bags of values

What `put` and `erase` do to the values of a table, up to their order, and what follows for sums.

* `Table.get?_eq_some_iff` – a value of a key is one of the entries;
* `Table.eq_of_keys` – a table is its keys with their values;
* `Table.values_put_perm`, `Table.values_perm_of_get?` – a key with its value can be split off;
* `sumOf_map_count` – the elements of a list, counted key by key.
-/

namespace LoadBalancer

namespace Table

variable {κ α : Type} [DecidableEq κ]

theorem find_eq_some_iff {k : κ} {a : α} {es : List (κ × α)} (h : (es.map Prod.fst).Nodup) :
    find k es = some a ↔ (k, a) ∈ es := by
  induction es with
  | nil => simp [find]
  | cons e rest ih =>
      obtain ⟨hnot, hrest⟩ := List.nodup_cons.mp h
      by_cases hk : e.1 = k
      · subst hk
        have habsent : (e.1, a) ∉ rest := by
          intro hmem
          exact hnot (List.mem_map.mpr ⟨_, hmem, rfl⟩)
        simp only [find, if_true, Option.some.injEq, List.mem_cons, habsent, or_false]
        exact ⟨fun h => by rw [← h], fun h => by rw [← h]⟩
      · have hne : (k, a) ≠ e := by
          intro he
          exact hk (by rw [← he])
        simp only [find, hk, if_false, List.mem_cons, hne, false_or]
        exact ih hrest

/-- The entries are the keys with their values. -/
theorem get?_eq_some_iff {t : Table κ α} {k : κ} {a : α} :
    t.get? k = some a ↔ (k, a) ∈ t.entries :=
  find_eq_some_iff t.nodup

/-- A table is its keys with their values. -/
theorem eq_of_keys {t t' : Table κ α} (hkeys : t.keys = t'.keys) (hget : ∀ k, t.get? k = t'.get? k) :
    t = t' := by
  have hvalues : ∀ t : Table κ α,
      t.entries.map (fun e => (e.1, some e.2)) = t.keys.map fun k => (k, t.get? k) := by
    intro t
    rw [keys, List.map_map]
    refine List.map_congr_left ?_
    intro e he
    simp only [Function.comp_apply, get?_eq_some_iff.mpr he]
  have hinj : Function.Injective fun e : κ × α => (e.1, some e.2) := by
    rintro ⟨k, a⟩ ⟨k', a'⟩ h
    simpa using h
  have hentries : t.entries = t'.entries := by
    refine hinj.list_map ?_
    rw [hvalues t, hvalues t', hkeys]
    exact List.map_congr_left fun k _ => by rw [hget]
  obtain ⟨es, hes⟩ := t
  obtain ⟨es', hes'⟩ := t'
  cases hentries
  rfl

/-- Putting the value that is there changes nothing. -/
theorem put_eq_self {t : Table κ α} {k : κ} {a : α} (h : t.get? k = some a) : t.put k a = t := by
  refine eq_of_keys ?_ ?_
  · have hmem : k ∈ t.keys := by
      rw [← contains_iff, contains, h, Option.isSome_some]
    rw [keys_put, if_pos hmem]
  · intro k'
    rw [get?_put]
    by_cases hk : k = k'
    · rw [if_pos hk, ← hk, h]
    · rw [if_neg hk]

theorem filter_ne_eq_self {k : κ} {es : List (κ × α)} (h : k ∉ es.map Prod.fst) :
    es.filter (fun e => e.1 ≠ k) = es := by
  rw [List.filter_eq_self]
  intro e he
  have hne : e.1 ≠ k := by
    intro hk
    exact h (List.mem_map.mpr ⟨e, he, hk⟩)
  simpa using hne

theorem putEntry_perm {k : κ} {es : List (κ × α)} (a : α) (h : (es.map Prod.fst).Nodup) :
    (putEntry k a es).Perm ((k, a) :: es.filter fun e => e.1 ≠ k) := by
  induction es with
  | nil => exact List.Perm.refl _
  | cons e rest ih =>
      obtain ⟨hnot, hrest⟩ := List.nodup_cons.mp h
      by_cases hk : e.1 = k
      · subst hk
        have hfilter := filter_ne_eq_self hnot
        simp only [putEntry, if_true, List.filter_cons, ne_eq, not_true_eq_false, decide_false,
          Bool.false_eq_true, if_false]
        simp only [ne_eq] at hfilter
        rw [hfilter]
      · simp only [putEntry, hk, if_false, List.filter_cons, ne_eq, not_false_eq_true,
          decide_true, if_true]
        exact ((ih hrest).cons e).trans (List.Perm.swap _ _ _)

theorem perm_of_find {k : κ} {a : α} {es : List (κ × α)} (h : (es.map Prod.fst).Nodup)
    (hf : find k es = some a) : es.Perm ((k, a) :: es.filter fun e => e.1 ≠ k) := by
  induction es with
  | nil => simp [find] at hf
  | cons e rest ih =>
      obtain ⟨hnot, hrest⟩ := List.nodup_cons.mp h
      by_cases hk : e.1 = k
      · subst hk
        have hfilter := filter_ne_eq_self hnot
        simp only [find, if_true, Option.some.injEq] at hf
        subst hf
        simp only [List.filter_cons, ne_eq, not_true_eq_false, decide_false, Bool.false_eq_true,
          if_false]
        simp only [ne_eq] at hfilter
        rw [hfilter]
      · simp only [find, hk, if_false] at hf
        simp only [List.filter_cons, ne_eq, hk, not_false_eq_true, decide_true, if_true]
        exact ((ih hrest hf).cons e).trans (List.Perm.swap _ _ _)

/-- After `put` there is the new value, and every value of another key. -/
theorem values_put_perm (t : Table κ α) (k : κ) (a : α) :
    (t.put k a).values.Perm (a :: (t.erase k).values) :=
  (putEntry_perm a t.nodup).map Prod.snd

/-- The value of a key can be split off. -/
theorem values_perm_of_get? {t : Table κ α} {k : κ} {a : α} (h : t.get? k = some a) :
    t.values.Perm (a :: (t.erase k).values) :=
  (perm_of_find t.nodup h).map Prod.snd

/-- Without a value there is nothing to take out. -/
theorem erase_of_get?_eq_none {t : Table κ α} {k : κ} (h : t.get? k = none) : t.erase k = t := by
  have hk : k ∉ t.entries.map Prod.fst := by
    intro hmem
    have hsome := (find_isSome_iff k t.entries).mpr hmem
    rw [show find k t.entries = none from h] at hsome
    simp at hsome
  have hentries := filter_ne_eq_self hk
  obtain ⟨es, hes⟩ := t
  simp only [erase, mk.injEq]
  exact hentries

end Table

/-! ### Sums -/

/-- The sum is the one of the library. -/
theorem sumOf_eq_sum (ns : List Nat) : sumOf ns = ns.sum := by
  induction ns with
  | nil => rfl
  | cons n rest ih => rw [sumOf_cons, ih, List.sum_cons]

/-- A list is as long as its elements are frequent, counted once for every key. -/
theorem sumOf_map_count {α : Type} [DecidableEq α] {ks l : List α} (hks : ks.Nodup)
    (hl : ∀ x ∈ l, x ∈ ks) : sumOf (ks.map l.count) = l.length := by
  have hcard : ∑ k ∈ ks.toFinset, Multiset.count k (l : Multiset α) = (l : Multiset α).card := by
    apply Multiset.sum_count_eq_card
    intro x hx
    exact List.mem_toFinset.mpr (hl x hx)
  rw [List.sum_toFinset _ hks] at hcard
  simp only [Multiset.coe_count, Multiset.coe_card] at hcard
  rw [sumOf_eq_sum]
  exact hcard

end LoadBalancer

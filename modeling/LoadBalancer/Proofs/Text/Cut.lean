import Mathlib
import LoadBalancer.Text.Cut

/-!
# Laws of cutting

Where a text is cut, and what the pieces have in them.

* `cutAt_eq_none_iff`, `cutAt_append` – a text is cut at the first occurrence of a character;
* `mem_fields`, `notMem_of_mem_fields` – the characters of the pieces;
* `fields_joinWith`, `fields_append` – the pieces of joined texts;
* `intercalate_eq_joinWith` – joining with one character.
-/

namespace LoadBalancer.Text

variable {sep : Char}

/-! ### The first occurrence -/

theorem cutAt_eq_none_iff {s : List Char} : cutAt sep s = none ↔ sep ∉ s := by
  induction s with
  | nil => simp [cutAt]
  | cons c rest ih =>
      by_cases hc : c = sep
      · simp [cutAt, hc]
      · have hne : ¬sep = c := fun h => hc h.symm
        simp [cutAt, hc, hne, ih]

theorem exists_cutAt {s : List Char} (h : sep ∈ s) : ∃ a b, cutAt sep s = some (a, b) := by
  cases hcut : cutAt sep s with
  | none => exact absurd h (cutAt_eq_none_iff.mp hcut)
  | some p => exact ⟨p.1, p.2, rfl⟩

/-- The first occurrence comes after a text that has none. -/
theorem cutAt_append {s : List Char} (h : sep ∉ s) (t : List Char) :
    cutAt sep (s ++ sep :: t) = some (s, t) := by
  induction s with
  | nil => simp [cutAt]
  | cons c rest ih =>
      have hc : ¬c = sep := fun heq => h (by simp [heq])
      have hrest : sep ∉ rest := fun hmem => h (List.mem_cons_of_mem _ hmem)
      simp [cutAt, hc, ih hrest]

theorem notMem_of_cutAt {s a b : List Char} (h : cutAt sep s = some (a, b)) : sep ∉ a := by
  induction s generalizing a with
  | nil => cases h
  | cons c rest ih =>
      simp only [cutAt] at h
      split at h
      · cases h
        simp
      · rename_i hc
        obtain ⟨⟨front, back⟩, hcut, heq⟩ := Option.map_eq_some_iff.mp h
        obtain ⟨rfl, rfl⟩ := Prod.mk.inj heq
        have hne : ¬sep = c := fun heq => hc heq.symm
        simp [hne, ih hcut]

/-! ### Pieces -/

theorem fields_cons_of_ne {c : Char} (h : c ≠ sep) (s : List Char) :
    ∃ piece pieces, fields sep s = piece :: pieces ∧
      fields sep (c :: s) = (c :: piece) :: pieces := by
  cases hs : fields sep s with
  | nil => exact absurd hs (fields_ne_nil sep s)
  | cons piece pieces => exact ⟨piece, pieces, rfl, by simp only [fields, h, if_false, hs]⟩

/-- A text without the character is one piece. -/
theorem fields_of_notMem {s : List Char} (h : sep ∉ s) : fields sep s = [s] := by
  induction s with
  | nil => rfl
  | cons c rest ih =>
      have hc : ¬c = sep := fun heq => h (by simp [heq])
      have hrest : sep ∉ rest := fun hmem => h (List.mem_cons_of_mem _ hmem)
      simp only [fields, hc, if_false, ih hrest]

/-- The pieces of two texts with the character between them. -/
theorem fields_append (s t : List Char) :
    fields sep (s ++ sep :: t) = fields sep s ++ fields sep t := by
  induction s with
  | nil => simp [fields]
  | cons c rest ih =>
      by_cases hc : c = sep
      · simp only [List.cons_append, fields, hc, if_true, ih]
      · obtain ⟨piece, pieces, hrest, hcons⟩ := fields_cons_of_ne hc rest
        obtain ⟨piece', pieces', hall, hcons'⟩ := fields_cons_of_ne hc (rest ++ sep :: t)
        rw [ih, hrest, List.cons_append, List.cons.injEq] at hall
        rw [List.cons_append, hcons', hcons, ← hall.1, ← hall.2, List.cons_append]

/-- The last piece goes on in a text without the character. -/
theorem fields_append_of_notMem {t : List Char} (h : sep ∉ t) (s : List Char) :
    ∃ pieces last, fields sep (s ++ t) = pieces ++ [last ++ t] := by
  induction s with
  | nil => exact ⟨[], [], fields_of_notMem h⟩
  | cons c rest ih =>
      obtain ⟨pieces, last, hrest⟩ := ih
      by_cases hc : c = sep
      · refine ⟨[] :: pieces, last, ?_⟩
        simp only [List.cons_append, fields, hc, if_true, hrest]
      · obtain ⟨piece, others, hfields, hcons⟩ := fields_cons_of_ne hc (rest ++ t)
        rw [hrest] at hfields
        rw [List.cons_append, hcons]
        cases pieces with
        | nil =>
            obtain ⟨rfl, rfl⟩ := List.cons.inj hfields
            exact ⟨[], c :: last, rfl⟩
        | cons p ps =>
            obtain ⟨rfl, rfl⟩ := List.cons.inj hfields
            exact ⟨(c :: p) :: ps, last, rfl⟩

theorem notMem_of_mem_fields {s piece : List Char} (h : piece ∈ fields sep s) : sep ∉ piece := by
  induction s generalizing piece with
  | nil =>
      rw [List.mem_singleton.mp h]
      simp
  | cons c rest ih =>
      by_cases hc : c = sep
      · simp only [fields, hc, if_true, List.mem_cons] at h
        rcases h with rfl | h
        · simp
        · exact ih h
      · obtain ⟨first, pieces, hrest, hcons⟩ := fields_cons_of_ne hc rest
        rw [hcons] at h
        rw [hrest] at ih
        rcases List.mem_cons.mp h with rfl | h
        · have hfirst := ih List.mem_cons_self
          have hne : ¬sep = c := fun heq => hc heq.symm
          simp [hne, hfirst]
        · exact ih (List.mem_cons_of_mem _ h)

/-- The characters of a text are those of its pieces, and the one between them. -/
theorem mem_fields (sep : Char) {s : List Char} {c : Char} (h : c ∈ s) :
    c = sep ∨ ∃ piece ∈ fields sep s, c ∈ piece := by
  induction s with
  | nil => cases h
  | cons d rest ih =>
      by_cases hd : d = sep
      · rcases List.mem_cons.mp h with rfl | hrest
        · exact Or.inl hd
        · refine (ih hrest).imp_right ?_
          rintro ⟨piece, hpiece, hc⟩
          exact ⟨piece, by simp only [fields, hd, if_true, List.mem_cons, hpiece, or_true], hc⟩
      · obtain ⟨first, pieces, hfields, hcons⟩ := fields_cons_of_ne hd rest
        rw [hcons]
        rw [hfields] at ih
        rcases List.mem_cons.mp h with rfl | hrest
        · exact Or.inr ⟨_, List.mem_cons_self, List.mem_cons_self⟩
        · refine (ih hrest).imp_right ?_
          rintro ⟨piece, hpiece, hc⟩
          rcases List.mem_cons.mp hpiece with rfl | hpiece
          · exact ⟨_, List.mem_cons_self, List.mem_cons_of_mem _ hc⟩
          · exact ⟨piece, List.mem_cons_of_mem _ hpiece, hc⟩

theorem mem_of_mem_fields {s piece : List Char} (h : piece ∈ fields sep s) {c : Char}
    (hc : c ∈ piece) : c ∈ s := by
  induction s generalizing piece with
  | nil =>
      rw [List.mem_singleton.mp h] at hc
      cases hc
  | cons d rest ih =>
      by_cases hd : d = sep
      · simp only [fields, hd, if_true, List.mem_cons] at h
        rcases h with rfl | h
        · cases hc
        · exact List.mem_cons_of_mem _ (ih h hc)
      · obtain ⟨first, pieces, hrest, hcons⟩ := fields_cons_of_ne hd rest
        rw [hcons] at h
        rw [hrest] at ih
        rcases List.mem_cons.mp h with rfl | h
        · rcases List.mem_cons.mp hc with rfl | hc
          · exact List.mem_cons_self
          · exact List.mem_cons_of_mem _ (ih List.mem_cons_self hc)
        · exact List.mem_cons_of_mem _ (ih (List.mem_cons_of_mem _ h) hc)

/-- Pieces without the character come back after they were joined. -/
theorem fields_joinWith {pieces : List (List Char)} (hne : pieces ≠ [])
    (h : ∀ piece ∈ pieces, sep ∉ piece) : fields sep (joinWith sep pieces) = pieces := by
  induction pieces with
  | nil => exact absurd rfl hne
  | cons piece rest ih =>
      have hpiece := fields_of_notMem (h piece List.mem_cons_self)
      by_cases hrest : rest = []
      · rw [hrest]
        exact hpiece
      · rw [joinWith_cons hrest, fields_append, hpiece,
          ih hrest fun p hp => h p (List.mem_cons_of_mem _ hp)]
        rfl

/-- Joined pieces go on behind the first of them, with a character for each of the others at least. -/
theorem exists_joinWith_cons (sep : Char) (piece : List Char) (pieces : List (List Char)) :
    ∃ t, joinWith sep (piece :: pieces) = piece ++ t ∧ pieces.length ≤ t.length := by
  induction pieces generalizing piece with
  | nil => exact ⟨[], (List.append_nil piece).symm, le_refl 0⟩
  | cons next others ih =>
      obtain ⟨t, ht, hlength⟩ := ih next
      refine ⟨_, joinWith_cons (List.cons_ne_nil next others), ?_⟩
      rw [ht]
      simp only [List.length_cons, List.length_append]
      omega

theorem intercalate_eq_joinWith (sep : Char) (pieces : List (List Char)) :
    [sep].intercalate pieces = joinWith sep pieces := by
  induction pieces with
  | nil => rfl
  | cons piece rest ih =>
      cases rest with
      | nil => simp [joinWith]
      | cons next others =>
          rw [List.intercalate_cons_cons, ih, joinWith_cons (List.cons_ne_nil next others),
            List.append_assoc, List.singleton_append]

end LoadBalancer.Text

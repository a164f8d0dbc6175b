/-!
# Cutting a text at a character

* `cutAt` – a text at the first occurrence of a character;
* `fields` – a text at every occurrence of a character;
* `joinWith` – the pieces with a character between them.

Joining what `fields` yields gives the text back (`joinWith_fields`).
-/

namespace LoadBalancer.Text

/-- What stands before the first `sep` and what stands after it. -/
def cutAt (sep : Char) : List Char → Option (List Char × List Char)
  | [] => none
  | c :: rest =>
    if c = sep then some ([], rest) else (cutAt sep rest).map fun p => (c :: p.1, p.2)

/-- The pieces between the occurrences of `sep`; there is always at least one. -/
def fields (sep : Char) : List Char → List (List Char)
  | [] => [[]]
  | c :: rest =>
    if c = sep then [] :: fields sep rest
    else match fields sep rest with
      | [] => [[c]]
      | piece :: pieces => (c :: piece) :: pieces

/-- The pieces with `sep` between them. -/
def joinWith (sep : Char) : List (List Char) → List Char
  | [] => []
  | [piece] => piece
  | piece :: pieces => piece ++ sep :: joinWith sep pieces

/-! ### Laws -/

theorem fields_ne_nil (sep : Char) (s : List Char) : fields sep s ≠ [] := by
  cases s with
  | nil => simp [fields]
  | cons c rest =>
    simp only [fields]
    split
    · simp
    · split <;> simp

theorem joinWith_cons {sep : Char} {piece : List Char} {pieces : List (List Char)}
    (h : pieces ≠ []) : joinWith sep (piece :: pieces) = piece ++ sep :: joinWith sep pieces := by
  cases pieces with
  | nil => exact absurd rfl h
  | cons p ps => rfl

/-- The pieces of a text, joined again, are the text. -/
theorem joinWith_fields (sep : Char) (s : List Char) : joinWith sep (fields sep s) = s := by
  induction s with
  | nil => rfl
  | cons c rest ih =>
    simp only [fields]
    split
    · rename_i h
      rw [joinWith_cons (fields_ne_nil sep rest), ih, h]
      rfl
    · match hf : fields sep rest with
      | [] => exact absurd hf (fields_ne_nil sep rest)
      | [piece] => rw [hf] at ih; simpa [joinWith] using ih
      | piece :: q :: pieces => rw [hf] at ih; simpa [joinWith] using ih

theorem cutAt_eq {sep : Char} {s a b : List Char} (h : cutAt sep s = some (a, b)) :
    s = a ++ sep :: b := by
  induction s generalizing a with
  | nil => simp [cutAt] at h
  | cons c rest ih =>
    simp only [cutAt] at h
    split at h
    · rename_i hc
      obtain ⟨rfl, rfl⟩ := by simpa using h
      simp [hc]
    · obtain ⟨⟨a', b'⟩, hp, he⟩ := Option.map_eq_some_iff.1 h
      obtain ⟨rfl, rfl⟩ := by simpa using he
      simp [ih hp]

end LoadBalancer.Text

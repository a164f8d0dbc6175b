/-!
# Comparison up to ASCII case

Only the letters `A` to `Z` have a second form here; every other character stands for itself.

* `lower` – the small form of an ASCII letter;
* `sameFolded` – equality of two texts up to ASCII case;
* `startsFolded` – one text begins with another up to ASCII case.
-/

namespace LoadBalancer.Text

/-- The small form of an ASCII capital; any other character is left alone. -/
def lower (c : Char) : Char :=
  if 'A' ≤ c ∧ c ≤ 'Z' then Char.ofNat (c.toNat + 32) else c

/-- A text with its ASCII capitals made small. -/
def lowerList (s : List Char) : List Char :=
  s.map lower

/-- A text with its ASCII capitals made small. -/
def lowerText (s : String) : String :=
  String.ofList (lowerList s.toList)

/-- Equality of two texts up to ASCII case. -/
def sameFolded (a b : String) : Bool :=
  lowerList a.toList == lowerList b.toList

/-- A text begins with `start` up to ASCII case. -/
def startsFolded (start s : String) : Bool :=
  (lowerList start.toList).isPrefixOf (lowerList s.toList)

/-! ### Laws -/

theorem sameFolded_iff {a b : String} :
    sameFolded a b = true ↔ lowerList a.toList = lowerList b.toList := by
  simp [sameFolded]

@[simp] theorem sameFolded_refl (a : String) : sameFolded a a = true := by
  simp [sameFolded]

theorem sameFolded_comm (a b : String) : sameFolded a b = sameFolded b a := by
  rw [Bool.eq_iff_iff, sameFolded_iff, sameFolded_iff]
  exact eq_comm

end LoadBalancer.Text

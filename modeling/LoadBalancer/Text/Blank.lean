/-!
# Blank characters

The characters with the Unicode property `White_Space`, and trimming by them.

* `isBlank` – the property, as a table of ranges;
* `trimList`, `trim` – a text without the blank characters at its two ends.

The statements beside them say that trimming only leaves characters out (`trimList_sublist`) and
that the table holds every character that core calls white space (`isBlank_of_isWhitespace`).
-/

namespace LoadBalancer.Text

/-- The ranges of code points with the property `White_Space`. -/
def blankRanges : List (Nat × Nat) :=
  [(0x0009, 0x000D), (0x0020, 0x0020), (0x0085, 0x0085), (0x00A0, 0x00A0), (0x1680, 0x1680),
   (0x2000, 0x200A), (0x2028, 0x2029), (0x202F, 0x202F), (0x205F, 0x205F), (0x3000, 0x3000)]

/-- A character is blank when it has the property `White_Space`. -/
def isBlank (c : Char) : Bool :=
  blankRanges.any fun r => r.1 ≤ c.toNat && c.toNat ≤ r.2

/-- A text without its leading blanks. -/
def trimStartList (s : List Char) : List Char :=
  s.dropWhile isBlank

/-- A text without its trailing blanks. -/
def trimEndList (s : List Char) : List Char :=
  (s.reverse.dropWhile isBlank).reverse

/-- A text without the blanks at its two ends. -/
def trimList (s : List Char) : List Char :=
  trimEndList (trimStartList s)

/-- A text without the blanks at its two ends. -/
def trim (s : String) : String :=
  String.ofList (trimList s.toList)

/-- A text that holds blanks only. -/
def isBlankText (s : String) : Bool :=
  s.toList.all isBlank

/-! ### Laws -/

theorem trimStartList_sublist (s : List Char) : (trimStartList s).Sublist s :=
  List.dropWhile_sublist isBlank

theorem trimEndList_sublist (s : List Char) : (trimEndList s).Sublist s := by
  have h := (List.dropWhile_sublist isBlank (l := s.reverse)).reverse
  simpa [trimEndList] using h

theorem trimList_sublist (s : List Char) : (trimList s).Sublist s :=
  (trimEndList_sublist _).trans (trimStartList_sublist s)

/-- Every character that core calls white space is blank. -/
theorem isBlank_of_isWhitespace {c : Char} (h : c.isWhitespace = true) : isBlank c = true := by
  simp only [Char.isWhitespace, Bool.or_eq_true, decide_eq_true_eq] at h
  rcases h with ((h | h) | h) | h <;> subst h <;> decide

@[simp] theorem toList_trim (s : String) : (trim s).toList = trimList s.toList := by
  simp [trim]

end LoadBalancer.Text

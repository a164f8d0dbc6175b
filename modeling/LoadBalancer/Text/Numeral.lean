import LoadBalancer.Number.Word

/-!
# Written numbers and flags

Reading of unsigned decimal numerals and of the two flag words.

* `readUnsigned` – a numeral below a bound: digits, with at most one plus sign before them;
* `readFlag` – `true` or `false`, in small letters;
* `NumeralFault.message` – what is wrong with a text that is no numeral.
-/

namespace LoadBalancer.Text

/-- Why a text is not a numeral within its bound. -/
inductive NumeralFault where
  /-- There is no text at all. -/
  | empty
  /-- A character is no decimal digit, or there is a sign and nothing after it. -/
  | invalidDigit
  /-- The value reaches the bound. -/
  | tooLarge
  deriving DecidableEq, Repr

/-- The wording of a fault. -/
def NumeralFault.message : NumeralFault → String
  | .empty => "cannot parse integer from empty string"
  | .invalidDigit => "invalid digit found in string"
  | .tooLarge => "number too large to fit in target type"

/-- The value of a decimal digit. -/
def digit? (c : Char) : Option Nat :=
  if '0' ≤ c ∧ c ≤ '9' then some (c.toNat - 48) else none

/-- The value of a hexadecimal digit, in either case. -/
def hexDigit? (c : Char) : Option Nat :=
  if '0' ≤ c ∧ c ≤ '9' then some (c.toNat - 48)
  else if 'a' ≤ c ∧ c ≤ 'f' then some (c.toNat - 87)
  else if 'A' ≤ c ∧ c ≤ 'F' then some (c.toNat - 55)
  else none

/-- Digits read on from the value `n`; the first fault from the left counts. -/
def readDigits (bound : Nat) : Nat → List Char → Except NumeralFault Nat
  | n, [] => .ok n
  | n, c :: rest =>
    match digit? c with
    | none => .error .invalidDigit
    | some d =>
      if 10 * n + d < bound then readDigits bound (10 * n + d) rest else .error .tooLarge

/-- An unsigned numeral below `bound`: digits, after at most one plus sign. -/
def readUnsigned (bound : Nat) (s : String) : Except NumeralFault Nat :=
  match s.toList with
  | [] => .error .empty
  | ['+'] => .error .invalidDigit
  | '+' :: rest => readDigits bound 0 rest
  | cs => readDigits bound 0 cs

/-- The wording for a text that is neither flag word. -/
def flagFault : String := "provided string was not `true` or `false`"

/-- The flag words, in small letters only. -/
def readFlag (s : String) : Option Bool :=
  if s = "true" then some true else if s = "false" then some false else none

/-- A value in small hexadecimal digits, without leading zeros. -/
def hexText (n : Nat) : String :=
  String.ofList (Nat.toDigits 16 n)

/-! ### Laws -/

/-- A numeral that is read lies below its bound. -/
theorem readDigits_lt {bound n v : Nat} {s : List Char} (hn : n < bound)
    (h : readDigits bound n s = .ok v) : v < bound := by
  induction s generalizing n with
  | nil => simp only [readDigits, Except.ok.injEq] at h; omega
  | cons c rest ih =>
    simp only [readDigits] at h
    split at h
    · exact absurd h (by simp)
    · split at h
      · exact ih ‹_› h
      · exact absurd h (by simp)

end LoadBalancer.Text

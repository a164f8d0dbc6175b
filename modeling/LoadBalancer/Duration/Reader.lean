import LoadBalancer.Duration.Basic
import LoadBalancer.Duration.Unit
import LoadBalancer.Text.Blank
import LoadBalancer.Text.Numeral

/-!
# Reading durations

A duration is written as one item or more, each a number and a unit, which are added up: `1h 30m`.
Blanks are allowed between the digits of a number and around a unit.

* `Duration.Item` – a number with its fraction, and a unit;
* `Duration.addItem` – an item added to the value so far; the sum has to be exact and within bounds;
* `Duration.readItems` – the items of a text, added up;
* `Duration.read` – the duration of a text; a lone `0` needs no unit.
-/

namespace LoadBalancer.Duration

open LoadBalancer.Text

/-- Why a text is no duration. -/
inductive Fault where
  /-- There is nothing but blanks. -/
  | empty
  /-- An item begins with something else than a digit. -/
  | numberExpected
  /-- A character has no place where it stands. -/
  | invalidCharacter
  /-- A unit is missing or has an unknown name. -/
  | unknownUnit
  /-- A value is too large, or its fraction does not come out even. -/
  | overflow
  deriving DecidableEq, Repr

/-- The values that one number of a text can have. -/
def wordBound : Nat := size64

/-- A value if it is within one word. -/
def inWord (n : Nat) : Except Fault Nat :=
  if n < wordBound then .ok n else .error .overflow

/-- A fraction: the digits after the point as a number, and the power of ten they are divided by. -/
structure Fraction where
  numerator : Nat
  denominator : Nat
  deriving DecidableEq, Repr

/-- A number and a unit. -/
structure Item where
  whole : Nat
  fraction : Option Fraction
  unit : TimeUnit
  deriving DecidableEq, Repr

/-- A letter that a unit may have. -/
def isUnitChar (c : Char) : Bool :=
  c.isAlpha || c == 'µ'

/-! ### The parts of an item -/

/-- The digits of a whole number up to the unit or the point; `n` is the value so far. -/
def readWhole (n : Nat) : List Char → Except Fault (Nat × List Char)
  | [] => .ok (n, [])
  | c :: rest =>
    match digit? c with
    | some d =>
      if 10 * n + d < wordBound then readWhole (10 * n + d) rest else .error .overflow
    | none =>
      if isBlank c then readWhole n rest
      else if isUnitChar c || c == '.' then .ok (n, c :: rest)
      else .error .invalidCharacter

/-- The digits after the point, up to the unit; `f` is the fraction so far. -/
def readFraction (f : Fraction) : List Char → Except Fault (Fraction × List Char)
  | [] => .ok (f, [])
  | c :: rest =>
    match digit? c with
    | some d =>
      if 10 * f.denominator < wordBound ∧ 10 * f.numerator + d < wordBound then
        readFraction ⟨10 * f.numerator + d, 10 * f.denominator⟩ rest
      else .error .overflow
    | none =>
      if isBlank c then readFraction f rest
      else if isUnitChar c then .ok (f, c :: rest)
      else .error .invalidCharacter

/-- The whole number and the fraction, if there is a point. A point needs a digit after it. -/
def readNumber (n : Nat) (s : List Char) :
    Except Fault (Nat × Option Fraction × List Char) := do
  let (whole, rest) ← readWhole n s
  match rest with
  | '.' :: rest =>
    let (f, rest) ← readFraction ⟨0, 1⟩ rest
    if f.denominator = 1 then throw .invalidCharacter
    return (whole, some f, rest)
  | rest => return (whole, none, rest)

/-- The name of a unit. A blank ends it, and so does the first digit of the next item. -/
def readUnitName : List Char → Except Fault (List Char × List Char)
  | [] => .ok ([], [])
  | c :: rest =>
    if (digit? c).isSome then .ok ([], c :: rest)
    else if isBlank c then .ok ([], rest)
    else if isUnitChar c then (readUnitName rest).map fun p => (c :: p.1, p.2)
    else .error .invalidCharacter

/-- The first digit of an item, after blanks. At the end of the text there is none. -/
def readFirst : List Char → Except Fault (Option (Nat × List Char))
  | [] => .ok none
  | c :: rest =>
    match digit? c with
    | some d => .ok (some (d, rest))
    | none => if isBlank c then readFirst rest else .error .numberExpected

/-! ### Items -/

/-- The value of an item, in nanoseconds, added to the value so far. -/
def addItem (total : Nat) (item : Item) : Except Fault Nat := do
  let add (total seconds nanos : Nat) : Except Fault Nat := do
    let _ ← inWord (total % nanosPerSecond + nanos)
    let sum := total + seconds * nanosPerSecond + nanos
    if sum < size64 * nanosPerSecond then return sum else throw .overflow
  let total ← match item.unit.scale with
    | .nanos k => do add total 0 (← inWord (item.whole * k))
    | .seconds k => do add total (← inWord (item.whole * k)) 0
  match item.fraction with
  | none => return total
  | some f =>
    let exact (k : Nat) : Except Fault Nat := do
      let v ← inWord (f.numerator * k)
      if v % f.denominator = 0 then return v / f.denominator else throw .overflow
    match item.unit.fractionScale with
    | none => throw .overflow
    | some (.nanos k) => do add total 0 (← exact k)
    | some (.seconds k) => do add total (← exact k) 0

/-- The items after the first digit `n` of one of them, added to the value so far. Every item takes
at least one character of the text, so `fuel` may be the length of the text. -/
def readItems : Nat → Nat → Nat → List Char → Except Fault Nat
  | 0, _, _, _ => .error .unknownUnit
  | fuel + 1, total, n, s => do
    let (whole, fraction, rest) ← readNumber n s
    let (name, rest) ← readUnitName rest
    match TimeUnit.ofName (String.ofList name) with
    | none => throw .unknownUnit
    | some unit =>
      let total ← addItem total ⟨whole, fraction, unit⟩
      match ← readFirst rest with
      | none => return total
      | some (n, rest) => readItems fuel total n rest

/-- The duration of a text. -/
def read (s : String) : Except Fault Duration := do
  if s = "0" then return zero
  match ← readFirst s.toList with
  | none => throw .empty
  | some (n, rest) =>
    match ofNanos? (← readItems (rest.length + 1) 0 n rest) with
    | some d => return d
    | none => throw .overflow

end LoadBalancer.Duration

import LoadBalancer.Number.Binary64
import LoadBalancer.Number.Word
import LoadBalancer.Text.Numeral

/-!
# Document trees

The tree of values that a settings text stands for, in either of the two formats.

* `Scalar` – a value without parts; `plain` is text whose type is left to the field it is read for;
* `Node` – a scalar, a list, a record, or a reference to one of the document's named nodes. A text
  that breaks off in the middle is still a tree: what was read is kept, and the rest is marked as
  missing, so that the first fault in reading order is found whatever its kind;
* `Whole` – what a whole text holds;
* `Scalar.text?`, `flag?`, `natural?`, `number?`, `choice?`, `given?` – a scalar as a field of that
  type takes it;
* `Node.size` – the number of marks that a tree is written with.
-/

namespace LoadBalancer.Document

open LoadBalancer.Text

/-- How text under a tag is written. -/
inductive Style where
  /-- Without quotes. -/
  | plain
  /-- As a block that keeps its lines. -/
  | literal
  /-- In any other way. -/
  | quoted
  deriving DecidableEq, Repr

/-- A value without parts. -/
inductive Scalar where
  | null
  | flag (b : Bool)
  | integer (i : Int)
  | number (x : Binary64)
  | text (s : String)
  /-- Text without quotes whose type is left to the reader. -/
  | plain (s : String)
  /-- Text under a tag, which is missing if its octets are no text. -/
  | tagged (tag : Option String) (style : Style) (s : String)
  /-- Written correctly, but standing for no value. -/
  | unusable
  deriving DecidableEq, Repr

/-- A document, or a part of one. -/
inductive Node where
  | scalar (s : Scalar)
  /-- Items in order. `positional` allows the list to stand for a record, and `closed` says that its
  end was reached. -/
  | list (positional : Bool) (items : List Node) (closed : Bool)
  /-- Keys with their values in order; `closed` says that the end was reached. -/
  | record (entries : List (Node × Node)) (closed : Bool)
  /-- The node that has a number among the named nodes of the document. -/
  | reference (number : Nat)
  /-- What should stand here is missing. -/
  | broken
  deriving Repr

/-- A whole text. -/
structure Whole where
  /-- Its value. -/
  root : Node
  /-- What references stand for; of several nodes with one number the first one counts. -/
  named : List (Nat × Node)
  /-- The value is followed by something else. -/
  trailing : Bool
  deriving Repr

/-! ### Untyped text -/

/-- Digits of a base below `bound`; there has to be one. -/
def digitsIn (base bound : Nat) (s : List Char) : Option Nat :=
  let ds := s.map hexDigit?
  if s.isEmpty || !(ds.all fun d => d.any (· < base)) then none
  else
    let n := ds.foldl (fun n d => base * n + d.getD 0) 0
    if n < bound then some n else none

/-- A zero in front of further digits, after an optional sign: no number in this notation. -/
def hasLeadingZero (s : List Char) : Bool :=
  let digits := match s with
    | '+' :: rest => rest
    | '-' :: rest => rest
    | cs => cs
  match digits with
  | '0' :: c :: rest => (c :: rest).all Char.isDigit
  | _ => false

/-- The natural number below `2 ^ 64` that untyped text stands for: decimal, or with a base mark. -/
def plainNatural (s : String) : Option Nat :=
  let unsigned := match s.toList with
    | '+' :: rest => rest
    | cs => cs
  let marked := match unsigned with
    | '0' :: 'x' :: rest => digitsIn 16 size64 rest
    | '0' :: 'o' :: rest => digitsIn 8 size64 rest
    | '0' :: 'b' :: rest => digitsIn 2 size64 rest
    | _ => none
  match marked with
  | some n => some n
  | none => if hasLeadingZero s.toList then none else digitsIn 10 size64 unsigned

/-- Zero with a minus sign: decimal, or with a base mark. -/
def isNegativeZero (s : String) : Bool :=
  match s.toList with
  | ['-', '0'] => true
  | '-' :: '0' :: mark :: ds =>
    ['x', 'o', 'b'].contains mark && !ds.isEmpty && ds.all (· == '0')
  | _ => false

/-- The flag that untyped text stands for. -/
def plainFlag (s : String) : Option Bool :=
  if ["true", "True", "TRUE"].contains s then some true
  else if ["false", "False", "FALSE"].contains s then some false
  else none

/-- Untyped text that stands for no value. -/
def isPlainNull (s : String) : Bool :=
  ["null", "Null", "NULL", "~"].contains s

/-- The nearest number to `n * 10 ^ e`; a number too large is infinite. The bounds beyond which a
power of ten need not be taken keep the arithmetic small. -/
def nearest (negative : Bool) (n : Nat) (e : Int) : Binary64 :=
  let digits := (Nat.toDigits 10 n).length
  if n = 0 || e + digits < -400 then Binary64.ofParts negative 0
  else if 400 < e then Binary64.infinity negative
  else Binary64.ofDecimal negative n e.toNat (-e).toNat

/-- A decimal exponent: digits after an optional sign. -/
def readExponent (s : List Char) : Option Int :=
  match s with
  | '-' :: rest => (digitsIn 10 (Nat.pow 10 s.length) rest).map fun n => -(n : Int)
  | '+' :: rest => (digitsIn 10 (Nat.pow 10 s.length) rest).map fun n => (n : Int)
  | cs => (digitsIn 10 (Nat.pow 10 s.length) cs).map fun n => (n : Int)

/-- A finite number written in decimal, with an optional sign, point and exponent. -/
def readDecimal (s : List Char) : Option Binary64 := do
  let (negative, s) := match s with
    | '-' :: rest => (true, rest)
    | '+' :: rest => (false, rest)
    | cs => (false, cs)
  let whole := s.takeWhile Char.isDigit
  let s := s.dropWhile Char.isDigit
  let (fraction, s) := match s with
    | '.' :: rest => (rest.takeWhile Char.isDigit, rest.dropWhile Char.isDigit)
    | cs => ([], cs)
  let digits := whole ++ fraction
  let e ← match s with
    | [] => some 0
    | 'e' :: rest => readExponent rest
    | 'E' :: rest => readExponent rest
    | _ => none
  if digits.isEmpty then none
  else
    let n := digits.foldl (fun n c => 10 * n + (digit? c).getD 0) 0
    let x := nearest negative n (e - fraction.length)
    if x.isFinite then return x else none

/-- The number that untyped text stands for. -/
def plainNumber (s : String) : Option Binary64 :=
  let positive := match s.toList with
    | '+' :: rest => rest
    | cs => cs
  if s.startsWith "++" || s.startsWith "+-" then none
  else if [".inf", ".Inf", ".INF"].contains (String.ofList positive) then
    some (Binary64.infinity false)
  else if ["-.inf", "-.Inf", "-.INF"].contains s then some (Binary64.infinity true)
  else if [".nan", ".NaN", ".NAN"].contains s then some Binary64.notANumber
  else readDecimal positive

/-! ### Scalars as fields take them -/

namespace Scalar

/-- What the tags of the common kinds of scalars begin with. -/
def commonTag : String := "tag:yaml.org,2002:"

/-- The scalar as text. -/
def text? : Scalar → Option String
  | .text s => some s
  | .plain s => some s
  | .tagged _ _ s => some s
  | _ => none

/-- Text whose type is left to the reader: text without quotes, and a literal block under the tag of
the kind that is wanted. -/
def untyped? (kind : String) : Scalar → Option String
  | .plain s => some s
  | .tagged _ .plain s => some s
  | .tagged (some tag) .literal s => if tag = commonTag ++ kind then some s else none
  | _ => none

/-- The scalar as a flag. -/
def flag? : Scalar → Option Bool
  | .flag b => some b
  | s => (s.untyped? "bool").bind plainFlag

/-- The scalar as a natural number below `bound`, at most `2 ^ 64`. -/
def natural? (bound : Nat) (s : Scalar) : Option Nat :=
  let n := match s with
    | .integer (.ofNat n) => some n
    | s => (s.untyped? "int").bind fun t => if isNegativeZero t then some 0 else plainNatural t
  n.filter (· < bound)

/-- The scalar as a number. -/
def number? : Scalar → Option Binary64
  | .integer (.ofNat n) => some (Binary64.ofNat n)
  | .integer (.negSucc n) => some (Binary64.ofRatio true (n + 1) 1)
  | .number x => some x
  | s => (s.untyped? "float").bind plainNumber

/-- The scalar as the name of one of several choices: its text, or a tag of the document's own in
front of nothing. -/
def choice? : Scalar → Option String
  | .tagged (some tag) style s =>
    match tag.toList with
    | '!' :: name =>
      if style = .plain && (s.isEmpty || isPlainNull s) then some (String.ofList name) else none
    | _ => some s
  | s => s.text?

/-- Whether the scalar gives a value where there may be none; nothing if it does neither. -/
def given? : Scalar → Option Bool
  | .null => some false
  | .plain s => some !(s.isEmpty || isPlainNull s)
  | .tagged tag .plain s =>
    if tag = some (commonTag ++ "null") then if isPlainNull s then some false else none
    else some true
  | _ => some true

/-- There is nothing at all where a value is expected. -/
def isAbsent : Scalar → Bool
  | .plain s => s.isEmpty
  | .tagged _ .plain s => s.isEmpty
  | _ => false

end Scalar

/-! ### Sizes -/

mutual

/-- The number of marks that a tree is written with: one for every scalar and reference, and one for
every end of a list or record that is there. -/
def Node.size : Node → Nat
  | .scalar _ => 1
  | .list _ items closed => itemsSize items + (if closed then 2 else 1)
  | .record entries closed => entriesSize entries + (if closed then 2 else 1)
  | .reference _ => 1
  | .broken => 0

/-- The number of marks of some items. -/
def itemsSize : List Node → Nat
  | [] => 0
  | n :: rest => n.size + itemsSize rest

/-- The number of marks of some entries. -/
def entriesSize : List (Node × Node) → Nat
  | [] => 0
  | (k, v) :: rest => k.size + v.size + entriesSize rest

end

end LoadBalancer.Document

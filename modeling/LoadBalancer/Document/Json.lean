import LoadBalancer.Document.Node

/-!
# Reading JSON

RFC 8259, as a tree that keeps what stands before a fault.

* `Json.readText` – a quoted text after its opening quote;
* `Json.readNumber` – a number; integers of up to 64 bits are kept apart from other numbers;
* `Json.readValue` – any value;
* `Json.read` – a whole text.

Numbers that are no such integers are made from at most 64 bits of leading digits, by one
multiplication with a power of ten or one division by it, each rounded.
-/

namespace LoadBalancer.Document.Json

open LoadBalancer.Text

/-- A character that may stand between two parts. -/
def isSpace (c : Char) : Bool :=
  c == ' ' || c == '\t' || c == '\n' || c == '\r'

/-- A text without the spaces in front. -/
def skip (s : List Char) : List Char :=
  s.dropWhile isSpace

/-! ### Texts -/

/-- Four hexadecimal digits. -/
def readUnit : List Char → Option (Nat × List Char)
  | a :: b :: c :: d :: rest => do
    return ((((← hexDigit? a) * 16 + (← hexDigit? b)) * 16 + (← hexDigit? c)) * 16 +
      (← hexDigit? d), rest)
  | _ => none

/-- The character that a letter after a backslash stands for. -/
def escaped? : Char → Option Char
  | '"' => some '"'
  | '\\' => some '\\'
  | '/' => some '/'
  | 'b' => some '\x08'
  | 'f' => some '\x0c'
  | 'n' => some '\n'
  | 'r' => some '\r'
  | 't' => some '\t'
  | _ => none

/-- The character of a code unit and the text after it, which may hold the second unit of a pair.
A unit without its partner gives no character. -/
def pairUnit (u : Nat) (rest : List Char) : Option Char × List Char :=
  if 0xDC00 ≤ u ∧ u ≤ 0xDFFF then (none, rest)
  else if 0xD800 ≤ u ∧ u ≤ 0xDBFF then
    match rest with
    | '\\' :: 'u' :: more =>
      match readUnit more with
      | some (v, after) =>
        if 0xDC00 ≤ v ∧ v ≤ 0xDFFF then
          (some (Char.ofNat (0x10000 + (u - 0xD800) * 1024 + (v - 0xDC00))), after)
        else (none, rest)
      | none => (none, rest)
    | _ => (none, rest)
  else (some (Char.ofNat u), rest)

/-- The characters up to the closing quote, with the text after it. `usable` is lost when a unit has
no partner. Every step takes a character, so `fuel` may be the length of the text. -/
def readChars : Nat → Bool → List Char → List Char → Option (Option (List Char) × List Char)
  | 0, _, _, _ => none
  | fuel + 1, usable, acc, s =>
    match s with
    | [] => none
    | '"' :: rest => some (if usable then some acc.reverse else none, rest)
    | '\\' :: 'u' :: rest =>
      match readUnit rest with
      | none => none
      | some (u, after) =>
        match pairUnit u after with
        | (some c, after) => readChars fuel usable (c :: acc) after
        | (none, after) => readChars fuel false acc after
    | '\\' :: e :: rest =>
      match escaped? e with
      | some c => readChars fuel usable (c :: acc) rest
      | none => none
    | c :: rest => if c.toNat < 0x20 || c == '\\' then none else readChars fuel usable (c :: acc) rest

/-- A text after its opening quote. The value is missing if it holds a unit without a partner. -/
def readText (s : List Char) : Option (Option String × List Char) :=
  (readChars (s.length + 1) true [] s).map fun p => (p.1.map String.ofList, p.2)

/-! ### Numbers -/

/-- Digits added to a number as long as it stays below `2 ^ 64`, with the count of digits that were
not added. -/
def takeDigits : Nat → List Char → Nat × Nat
  | n, [] => (n, 0)
  | n, c :: rest =>
    let next := 10 * n + (digit? c).getD 0
    if next < size64 then takeDigits next rest else (n, rest.length + 1)

/-- The largest power of ten that numbers are scaled by at once. -/
def maxPower : Nat := 308

/-- A power of ten, rounded. -/
def powerOfTen (e : Nat) : Binary64 := Binary64.ofNat (Nat.pow 10 e)

/-- A number divided by a power of ten, in steps no larger than `maxPower`. -/
def scaleDown (x : Binary64) (e : Nat) : Binary64 :=
  if e ≤ maxPower then x.div (powerOfTen e)
  else if x.isZero then x
  else scaleDown (x.div (powerOfTen maxPower)) (e - maxPower)
termination_by e
decreasing_by simp only [maxPower] at *; omega

/-- A number times a power of ten, unless it is too large. -/
def scale (n : Nat) (e : Int) : Option Binary64 :=
  let x := Binary64.ofNat n
  if e < 0 then some (scaleDown x (-e).toNat)
  else if x.isZero then some x
  else if e.toNat ≤ maxPower then
    let y := x.mul (powerOfTen e.toNat)
    if y.isFinite then some y else none
  else none

/-- The bound of written exponents. -/
def exponentBound : Nat := 2147483648

/-- The value of a number with a fraction or an exponent, or of an integer beyond 64 bits. -/
def decimal (negative : Bool) (whole fraction : List Char) (exponent : Option (Bool × List Char)) :
    Scalar :=
  let (n, dropped) := takeDigits 0 whole
  let (n, skipped) := takeDigits n fraction
  let shift : Int := dropped - (fraction.length - skipped : Nat)
  let signed (x : Option Binary64) : Scalar :=
    match x with
    | some x => .number (if negative then x.neg else x)
    | none => .unusable
  match exponent with
  | none => signed (scale n shift)
  | some (down, ds) =>
    let e := ds.foldl (fun e c => 10 * e + (digit? c).getD 0) 0
    if e < exponentBound then signed (scale n (if down then shift - e else shift + e))
    else if n = 0 || down then signed (some ⟨0⟩)
    else .unusable

/-- The value of digits without fraction and exponent. -/
def integer (negative : Bool) (whole : List Char) : Scalar :=
  let (n, dropped) := takeDigits 0 whole
  if dropped ≠ 0 then decimal negative whole [] none
  else if !negative then .integer n
  else if 0 < n ∧ n ≤ Binary64.signBit then .integer (-n)
  else .number (Binary64.ofNat n).neg

/-- The exponent after its letter, if there is one: downward or upward, and the digits. -/
def readExponentPart (s : List Char) : Option (Option (Bool × List Char) × List Char) :=
  match s with
  | c :: rest =>
    if c = 'e' || c = 'E' then
      let (down, rest) := match rest with
        | '-' :: more => (true, more)
        | '+' :: more => (false, more)
        | more => (false, more)
      let ds := rest.takeWhile Char.isDigit
      if ds.isEmpty then none else some (some (down, ds), rest.dropWhile Char.isDigit)
    else some (none, s)
  | [] => some (none, s)

/-- A number after its sign. -/
def readUnsigned (negative : Bool) (s : List Char) : Option (Scalar × List Char) := do
  let whole := s.takeWhile Char.isDigit
  let rest := s.dropWhile Char.isDigit
  if whole.isEmpty || (whole.head? = some '0' && 1 < whole.length) then none
  else
    match rest with
    | '.' :: more =>
      let fraction := more.takeWhile Char.isDigit
      if fraction.isEmpty then none
      else
        let (exponent, rest) ← readExponentPart (more.dropWhile Char.isDigit)
        return (decimal negative whole fraction exponent, rest)
    | rest =>
      let (exponent, rest) ← readExponentPart rest
      if exponent.isSome then return (decimal negative whole [] exponent, rest)
      else return (integer negative whole, rest)

/-- A number. -/
def readNumber (s : List Char) : Option (Scalar × List Char) :=
  match s with
  | '-' :: rest => readUnsigned true rest
  | cs => readUnsigned false cs

/-! ### Values -/

/-- A word with a fixed meaning. -/
def readWord (s : List Char) : Option (Scalar × List Char) :=
  match s with
  | 't' :: 'r' :: 'u' :: 'e' :: rest => some (.flag true, rest)
  | 'f' :: 'a' :: 'l' :: 's' :: 'e' :: rest => some (.flag false, rest)
  | 'n' :: 'u' :: 'l' :: 'l' :: rest => some (.null, rest)
  | _ => none

/-- A text after its opening quote, as a scalar. -/
def readTextScalar (s : List Char) : Option (Scalar × List Char) :=
  (readText s).map fun p => (match p.1 with | some t => .text t | none => .unusable, p.2)

/-- A value without parts. -/
def readScalar (s : List Char) : Option (Scalar × List Char) :=
  match s with
  | '"' :: rest => readTextScalar rest
  | c :: _ => if c == '-' || c.isDigit then readNumber s else readWord s
  | [] => none

/-- A key with its quotes and its colon. -/
def readKey (s : List Char) : Option (Scalar × List Char) :=
  match skip s with
  | '"' :: rest =>
    match readTextScalar rest with
    | some (key, rest) =>
      match skip rest with
      | ':' :: rest => some (key, rest)
      | _ => none
    | none => none
  | _ => none

mutual

/-- A value, with the text after it unless that broke off. Every value takes a character, so `fuel`
may be twice the length of the text. -/
def readValue : Nat → List Char → Node × Option (List Char)
  | 0, _ => (.broken, none)
  | fuel + 1, s =>
    match skip s with
    | '[' :: rest =>
      match skip rest with
      | ']' :: rest => (.list true [] true, some rest)
      | rest =>
        let (items, after) := readItems fuel rest
        (.list true items after.isSome, after)
    | '{' :: rest =>
      match skip rest with
      | '}' :: rest => (.record [] true, some rest)
      | rest =>
        let (entries, after) := readEntries fuel rest
        (.record entries after.isSome, after)
    | rest =>
      match readScalar rest with
      | some (v, rest) => (.scalar v, some rest)
      | none => (.broken, none)

/-- The items up to the closing bracket. -/
def readItems : Nat → List Char → List Node × Option (List Char)
  | 0, _ => ([], none)
  | fuel + 1, s =>
    match readValue fuel s with
    | (item, none) => ([item], none)
    | (item, some rest) =>
      match skip rest with
      | ']' :: rest => ([item], some rest)
      | ',' :: rest =>
        let (items, after) := readItems fuel rest
        (item :: items, after)
      | _ => ([item], none)

/-- The entries up to the closing brace. -/
def readEntries : Nat → List Char → List (Node × Node) × Option (List Char)
  | 0, _ => ([], none)
  | fuel + 1, s =>
    match readKey s with
    | none => ([], none)
    | some (key, rest) =>
      match readValue fuel rest with
      | (value, none) => ([(.scalar key, value)], none)
      | (value, some rest) =>
        match skip rest with
        | '}' :: rest => ([(.scalar key, value)], some rest)
        | ',' :: rest =>
          let (entries, after) := readEntries fuel rest
          ((.scalar key, value) :: entries, after)
        | _ => ([(.scalar key, value)], none)

end

/-- A whole text. -/
def read (s : String) : Whole :=
  let cs := s.toList
  match readValue (2 * cs.length + 2) cs with
  | (root, none) => ⟨root, [], false⟩
  | (root, some rest) => ⟨root, [], !(skip rest).isEmpty⟩

end LoadBalancer.Document.Json

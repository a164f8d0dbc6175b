import LoadBalancer.Text.Numeral

/-!
# Percent-encoding

Octets of a text written as `%` and two capital hexadecimal digits.

* `encode` – the characters of a set, and all beyond ASCII, written by their UTF-8 octets;
* `decode` – the octets that a text with percent triples stands for;
* `inControls`, `inFragment`, `inQuery`, `inSpecialQuery`, `inPath`, `inUserinfo` – the sets of the
  URL standard, for the ASCII characters.

`encode_eq_self` says that a text without characters of the set stays as it is.
-/

namespace LoadBalancer.Url.Percent

open LoadBalancer.Text

/-- Control characters. -/
def inControls (c : Char) : Bool :=
  c.toNat < 0x20 || c.toNat == 0x7F

/-- What a fragment does not show as it is. -/
def inFragment (c : Char) : Bool :=
  inControls c || [' ', '"', '<', '>', Char.ofNat 0x60].contains c

/-- What a query does not show as it is. -/
def inQuery (c : Char) : Bool :=
  inControls c || [' ', '"', '#', '<', '>'].contains c

/-- What the query of a special scheme does not show as it is. -/
def inSpecialQuery (c : Char) : Bool :=
  inQuery c || c == '\''

/-- What a path segment does not show as it is. -/
def inPath (c : Char) : Bool :=
  inFragment c || ['#', '?', Char.ofNat 0x7B, Char.ofNat 0x7D].contains c

/-- What a user name or a password does not show as it is. -/
def inUserinfo (c : Char) : Bool :=
  inPath c || ['/', ':', ';', '=', '@', '[', '\\', ']', '^', '|'].contains c

/-- A capital hexadecimal digit. -/
def hexDigit (n : Nat) : Char :=
  if n < 10 then Char.ofNat (48 + n) else Char.ofNat (55 + n)

/-- One octet as a percent triple. -/
def triple (o : UInt8) : List Char :=
  ['%', hexDigit (o.toNat / 16), hexDigit (o.toNat % 16)]

/-- A character as it is written when `set` is not shown as it is. -/
def encodeChar (set : Char → Bool) (c : Char) : List Char :=
  if set c || 0x7F < c.toNat then (String.singleton c).toUTF8.toList.flatMap triple else [c]

/-- A text as it is written when `set` is not shown as it is. -/
def encode (set : Char → Bool) (s : List Char) : List Char :=
  s.flatMap (encodeChar set)

/-- A text as it is written when `set` is not shown as it is. -/
def encodeText (set : Char → Bool) (s : List Char) : String :=
  String.ofList (encode set s)

/-- The octets that a text stands for; a percent sign without two hexadecimal digits stands for
itself. -/
def decode : List Char → List UInt8
  | '%' :: a :: b :: rest =>
    match hexDigit? a, hexDigit? b with
    | some x, some y => UInt8.ofNat (16 * x + y) :: decode rest
    | _, _ => '%'.toUInt8 :: decode (a :: b :: rest)
  | c :: rest => (String.singleton c).toUTF8.toList ++ decode rest
  | [] => []

/-! ### Laws -/

@[simp] theorem encode_nil (set : Char → Bool) : encode set [] = [] := rfl

@[simp] theorem encode_cons (set : Char → Bool) (c : Char) (s : List Char) :
    encode set (c :: s) = encodeChar set c ++ encode set s := rfl

theorem encode_append (set : Char → Bool) (s t : List Char) :
    encode set (s ++ t) = encode set s ++ encode set t := by
  simp [encode]

/-- A text that shows every character as it is stays as it is. -/
theorem encode_eq_self {set : Char → Bool} {s : List Char}
    (h : ∀ c ∈ s, set c = false ∧ c.toNat ≤ 0x7F) : encode set s = s := by
  induction s with
  | nil => rfl
  | cons c s ih =>
    have hc := h c (by simp)
    have hn : ¬ 0x7F < c.toNat := by omega
    rw [encode_cons, ih fun d hd => h d (by simp [hd])]
    simp [encodeChar, hc.1, hn]

end LoadBalancer.Url.Percent

import LoadBalancer.Number.Word

/-!
# Binary floating-point numbers of 64 bits

IEEE 754 `binary64`, by bit patterns and exact arithmetic on natural numbers.

* `Binary64` – a number by its bits;
* `Binary64.ofRatio` – the number nearest to a quotient, a tie going to the even neighbour;
* `Binary64.magnitude?` – the quotient that a finite number is, up to its sign;
* `Binary64.mul`, `Binary64.div` – correctly rounded product and quotient of finite numbers;
* `Binary64.text` – decimal digits that are exactly the number.
-/

namespace LoadBalancer

/-- A number of 64 bits: one for the sign, eleven for the exponent, 52 for the fraction. -/
structure Binary64 where
  bits : UInt64
  deriving DecidableEq, Repr

namespace Binary64

/-- The place of the sign among the bits. -/
def signBit : Nat := 9223372036854775808

/-- The number of values of the fraction. -/
def fractionSize : Nat := 4503599627370496

/-- The number of least positive numbers that make up one. -/
def unitsPerOne : Nat := Nat.pow 2 1074

/-- The number whose sign is set if `negative`, and whose other bits are `m`. -/
def ofParts (negative : Bool) (m : Nat) : Binary64 :=
  ⟨UInt64.ofNat (m + if negative then signBit else 0)⟩

/-- The bits of infinity, without the sign. -/
def infinityBits : Nat := 2047 * fractionSize

/-- Infinity. -/
def infinity (negative : Bool) : Binary64 := ofParts negative infinityBits

/-- A quiet number that is none. -/
def notANumber : Binary64 := ⟨0x7ff8000000000000⟩

/-- The sign bit is set. -/
def isNegative (x : Binary64) : Bool := signBit ≤ x.bits.toNat

/-- The bits without the sign. -/
def body (x : Binary64) : Nat := x.bits.toNat % signBit

/-- Neither infinity nor a number that is none. -/
def isFinite (x : Binary64) : Bool := x.body < infinityBits

/-- A zero of either sign. -/
def isZero (x : Binary64) : Bool := x.body == 0

/-- The same number with the other sign. -/
def neg (x : Binary64) : Binary64 := ofParts (!x.isNegative) x.body

/-! ### Rounding -/

/-- The whole number nearest to `n / d`, a tie going to the even one. -/
def roundDiv (n d : Nat) : Nat :=
  let q := n / d
  let r := n % d
  if 2 * r < d then q
  else if d < 2 * r then q + 1
  else q + q % 2

/-- The bits of the number nearest to `n / d`, without the sign, for `0 < d`. Numbers are multiples
of `2 ^ (e - 1074)`, where `e` is the least exponent that leaves 53 bits or fewer; a carry out of
the fraction moves on to the exponent by itself. -/
def roundBits (n d : Nat) : Nat :=
  if n = 0 then 0
  else
    let scaled := n * unitsPerOne
    let e := (scaled / d).log2 - 52
    min (roundDiv scaled (d * Nat.pow 2 e) + e * fractionSize) infinityBits

/-- The number nearest to `n / d`, for `0 < d`. -/
def ofRatio (negative : Bool) (n d : Nat) : Binary64 :=
  ofParts negative (roundBits n d)

/-- The number nearest to a natural number. -/
def ofNat (n : Nat) : Binary64 := ofRatio false n 1

/-- The number nearest to `n * 10 ^ (up - down)`. -/
def ofDecimal (negative : Bool) (n up down : Nat) : Binary64 :=
  ofRatio negative (n * Nat.pow 10 up) (Nat.pow 10 down)

/-! ### Values -/

/-- The multiple of `2 ^ -1074` that the bits of a finite number stand for. -/
def units (body : Nat) : Nat :=
  let e := body / fractionSize
  if e = 0 then body else (body % fractionSize + fractionSize) * Nat.pow 2 (e - 1)

/-- Numerator and denominator of a finite number, without the sign. -/
def magnitude? (x : Binary64) : Option (Nat × Nat) :=
  if x.isFinite then some (units x.body, unitsPerOne) else none

/-- The product of two finite numbers, rounded once. -/
def mul (x y : Binary64) : Binary64 :=
  match x.magnitude?, y.magnitude? with
  | some (a, b), some (c, d) => ofRatio (x.isNegative != y.isNegative) (a * c) (b * d)
  | _, _ => notANumber

/-- The quotient of two finite numbers, the second not zero, rounded once. -/
def div (x y : Binary64) : Binary64 :=
  match x.magnitude?, y.magnitude? with
  | some (a, b), some (c, d) => ofRatio (x.isNegative != y.isNegative) (a * d) (b * c)
  | _, _ => notANumber

/-! ### Written form -/

/-- A fraction in lowest terms with respect to two: common factors of two are taken out, at most
`fuel` of them. -/
def halve : Nat → Nat → Nat → Nat × Nat
  | 0, n, k => (n, k)
  | fuel + 1, n, k => if n % 2 = 0 ∧ 0 < k then halve fuel (n / 2) (k - 1) else (n, k)

/-- Decimal digits with an exponent that are exactly the number. -/
def text (x : Binary64) : String :=
  let sign := if x.isNegative then "-" else ""
  if x.body = infinityBits then sign ++ ".inf"
  else if infinityBits < x.body then ".nan"
  else
    let (n, k) := halve 1074 (units x.body) 1074
    sign ++ s!"{n * Nat.pow 5 k}e-{k}"

/-- The sixteen hexadecimal digits of the bits. -/
def hex (x : Binary64) : String :=
  String.ofList ((Nat.toDigits 16 (size64 + x.bits.toNat)).drop 1)

/-! ### Laws -/

/-- Rounding a multiple is exact. -/
theorem roundDiv_mul_right (q : Nat) {d : Nat} (h : 0 < d) : roundDiv (q * d) d = q := by
  simp [roundDiv, Nat.mul_div_cancel q h, h]

/-- A rounded quotient lies within half a unit. -/
theorem roundDiv_near (n : Nat) {d : Nat} (h : 0 < d) :
    2 * (roundDiv n d * d) ≤ 2 * n + d ∧ 2 * n ≤ 2 * (roundDiv n d * d) + d := by
  have hn := Nat.div_add_mod' n d
  have hr := Nat.mod_lt n h
  have hq : (n / d + 1) * d = n / d * d + d := Nat.succ_mul _ _
  simp only [roundDiv]
  split
  · omega
  · split
    · omega
    · rcases Nat.mod_two_eq_zero_or_one (n / d) with h0 | h0 <;> rw [h0]
      · simp only [Nat.add_zero]; omega
      · omega

end Binary64

end LoadBalancer

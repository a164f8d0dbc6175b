/-!
# Bounds of words, and sums

* `size16`, `size32`, `size64` – the numbers of values that words of these widths have;
* `sumOf` – the sum of natural numbers.
-/

namespace LoadBalancer

/-- The number of values of 16 bits. -/
def size16 : Nat := 65536

/-- The number of values of 32 bits. -/
def size32 : Nat := 4294967296

/-- The number of values of 64 bits. -/
def size64 : Nat := 18446744073709551616

/-- The sum of natural numbers. -/
def sumOf : List Nat → Nat
  | [] => 0
  | n :: rest => n + sumOf rest

/-! ### Laws -/

@[simp] theorem sumOf_nil : sumOf [] = 0 := rfl

@[simp] theorem sumOf_cons (n : Nat) (rest : List Nat) : sumOf (n :: rest) = n + sumOf rest := rfl

@[simp] theorem sumOf_append (xs ys : List Nat) : sumOf (xs ++ ys) = sumOf xs + sumOf ys := by
  induction xs with
  | nil => simp
  | cons x rest ih => simp [ih, Nat.add_assoc]

end LoadBalancer

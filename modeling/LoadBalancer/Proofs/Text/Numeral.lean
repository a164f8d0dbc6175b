import Mathlib
import LoadBalancer.Text.Numeral

/-!
# Laws of written numbers

What is written as a numeral is read as that number again.

* `readDigits_eq`, `readDigits_toDigits` – decimal digits under a bound;
* `foldl_hexDigit?_toDigits`, `length_toDigits_sixteen` – hexadecimal digits.
-/

namespace LoadBalancer.Text

/-! ### Decimal digits -/

theorem digit?_of_isDigit {c : Char} (h : c.isDigit = true) : digit? c = some (c.toNat - 48) := by
  unfold digit?
  rw [if_pos]
  simp only [Char.isDigit, Bool.and_eq_true, decide_eq_true_eq] at h
  exact ⟨h.1, h.2⟩

theorem isDigit_of_mem_toDigits {n : Nat} {c : Char} (h : c ∈ Nat.toDigits 10 n) :
    c.isDigit = true :=
  Nat.isDigit_of_mem_toDigits (by decide) (by decide) h

theorem notMem_toDigits {n : Nat} {c : Char} (hc : c.isDigit = false) : c ∉ Nat.toDigits 10 n := by
  intro hmem
  rw [isDigit_of_mem_toDigits hmem] at hc
  cases hc

/-- The value so far is not larger than the whole value. -/
theorem le_ofDigitChars (ds : List Char) (n : Nat) : n ≤ Nat.ofDigitChars 10 ds n := by
  rw [Nat.ofDigitChars_eq_ofDigitChars_zero]
  have hpow : 1 ≤ 10 ^ ds.length := Nat.one_le_pow _ _ (by decide)
  exact le_trans (Nat.le_mul_of_pos_left _ hpow) (Nat.le_add_right _ _)

/-- Digits are read as the number they stand for, if it is below the bound. -/
theorem readDigits_eq {bound : Nat} {ds : List Char} (hds : ∀ c ∈ ds, c.isDigit = true) {n : Nat}
    (h : Nat.ofDigitChars 10 ds n < bound) :
    readDigits bound n ds = .ok (Nat.ofDigitChars 10 ds n) := by
  induction ds generalizing n with
  | nil => rfl
  | cons c rest ih =>
      rw [Nat.ofDigitChars_cons] at h ⊢
      have hstep : 10 * n + (c.toNat - 48) < bound := lt_of_le_of_lt (le_ofDigitChars _ _) h
      simp only [readDigits, digit?_of_isDigit (hds c List.mem_cons_self), hstep, if_true]
      exact ih (fun d hd => hds d (List.mem_cons_of_mem _ hd)) h

theorem readDigits_toDigits {bound n : Nat} (h : n < bound) :
    readDigits bound 0 (Nat.toDigits 10 n) = .ok n := by
  have hvalue : Nat.ofDigitChars 10 (Nat.toDigits 10 n) 0 = n := Nat.ofDigitChars_ten_toDigits
  have hdigits : ∀ c ∈ Nat.toDigits 10 n, c.isDigit = true := fun c => isDigit_of_mem_toDigits
  have hread : readDigits bound 0 (Nat.toDigits 10 n) = .ok (Nat.ofDigitChars 10 _ 0) :=
    readDigits_eq hdigits (by rwa [hvalue])
  rwa [hvalue] at hread

/-! ### Hexadecimal digits -/

theorem hexDigit?_digitChar {d : Nat} (h : d < 16) : hexDigit? (Nat.digitChar d) = some d := by
  interval_cases d <;> rfl

theorem hexDigit?_isSome_of_mem_toDigits {n : Nat} {c : Char} (h : c ∈ Nat.toDigits 16 n) :
    (hexDigit? c).isSome = true := by
  induction n using Nat.strongRecOn with
  | ind n ih =>
    rw [Nat.toDigits_eq_if (by decide)] at h
    split at h
    · rename_i hlt
      rw [List.mem_singleton.mp h, hexDigit?_digitChar hlt]
      rfl
    · rename_i hle
      rcases List.mem_append.mp h with h | h
      · exact ih (n / 16) (by omega) h
      · rw [List.mem_singleton.mp h, hexDigit?_digitChar (Nat.mod_lt n (by decide))]
        rfl

/-- Hexadecimal digits that were written stand for the number. -/
theorem foldl_hexDigit?_toDigits (n : Nat) :
    ((Nat.toDigits 16 n).map hexDigit?).foldl (fun n d => 16 * n + d.getD 0) 0 = n := by
  induction n using Nat.strongRecOn with
  | ind n ih =>
    rw [Nat.toDigits_eq_if (by decide)]
    split
    · rename_i hlt
      simp [hexDigit?_digitChar hlt]
    · rename_i hle
      rw [List.map_append, List.foldl_append, ih (n / 16) (by omega), List.map_singleton,
        hexDigit?_digitChar (Nat.mod_lt n (by decide))]
      exact Nat.div_add_mod n 16

/-- A number of 16 bits has at most four hexadecimal digits. -/
theorem length_toDigits_sixteen {n : Nat} (h : n < size16) : (Nat.toDigits 16 n).length ≤ 4 :=
  (Nat.length_toDigits_le_iff (by decide) (by decide)).mpr h

end LoadBalancer.Text

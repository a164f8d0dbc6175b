import Mathlib
import LoadBalancer.Duration.Reader
import LoadBalancer.Duration.Writer
import LoadBalancer.Proofs.Text.Cut
import LoadBalancer.Proofs.Text.Numeral

/-!
# Durations are read as they are written

A written duration is a list of counts with a unit each. Every count fits into one word and so does its
worth, so that nothing overflows on the way from the first item to the last.

* `isLetter_of_mem_unitText`, `ofName_unitText` – the written name of a unit;
* `bound`, `lt_bound_of_mem_parts` – the counts of a duration are within their bounds;
* `addItem_of_lt` – one item within its bound is added;
* `readItems_written` – any written items are read as their sum;
* `read_text` – every duration.
-/

namespace LoadBalancer.Duration

open LoadBalancer.Text

/-! ### Names of units -/

/-- A letter of a name: it ends a number, and it is neither a blank nor a point. -/
def isLetter (c : Char) : Bool :=
  (digit? c).isNone && !isBlank c && isUnitChar c && c != '.'

theorem of_isLetter {c : Char} (h : isLetter c = true) :
    digit? c = none ∧ isBlank c = false ∧ isUnitChar c = true ∧ c ≠ '.' := by
  simpa [isLetter, and_assoc] using h

/-- The name of a unit consists of letters. -/
theorem isLetter_of_mem_unitText {count : Nat} {u : TimeUnit} {c : Char}
    (h : c ∈ (unitText count u).toList) : isLetter c = true := by
  have hall : (unitText count u).toList.all isLetter = true := by
    unfold unitText
    cases u <;> dsimp only <;> (try split) <;> rfl
  exact List.all_eq_true.mp hall c h

theorem unitText_ne_nil (count : Nat) (u : TimeUnit) : (unitText count u).toList ≠ [] := by
  unfold unitText
  cases u <;> dsimp only <;> (try split) <;> decide

/-- The name of a unit stands for the unit, in the singular as in the plural. -/
theorem ofName_unitText (count : Nat) (u : TimeUnit) :
    TimeUnit.ofName (unitText count u) = some u := by
  unfold unitText
  cases u <;> dsimp only <;> (try split) <;> decide

/-! ### The parts of an item -/

/-- Digits of a whole number are read up to what comes behind them. -/
theorem readWhole_append {ds : List Char} (hds : ∀ c ∈ ds, c.isDigit = true) {n : Nat}
    (h : Nat.ofDigitChars 10 ds n < wordBound) (t : List Char) :
    readWhole n (ds ++ t) = readWhole (Nat.ofDigitChars 10 ds n) t := by
  induction ds generalizing n with
  | nil => rfl
  | cons c rest ih =>
    rw [Nat.ofDigitChars_cons] at h ⊢
    have hstep : 10 * n + (c.toNat - 48) < wordBound := lt_of_le_of_lt (le_ofDigitChars _ _) h
    simp only [List.cons_append, readWhole, digit?_of_isDigit (hds c List.mem_cons_self), hstep,
      if_true]
    exact ih (fun d hd => hds d (List.mem_cons_of_mem _ hd)) h

/-- A number without a fraction, up to the name of a unit. -/
theorem readNumber_append {ds name : List Char} (hds : ∀ c ∈ ds, c.isDigit = true) {n : Nat}
    (h : Nat.ofDigitChars 10 ds n < wordBound) (hne : name ≠ [])
    (hname : ∀ c ∈ name, isLetter c = true) (t : List Char) :
    readNumber n (ds ++ (name ++ t)) = .ok (Nat.ofDigitChars 10 ds n, none, name ++ t) := by
  obtain ⟨c, rest, rfl⟩ := List.exists_cons_of_ne_nil hne
  obtain ⟨hdigit, hblank, hunit, hpoint⟩ := of_isLetter (hname c List.mem_cons_self)
  unfold readNumber
  rw [readWhole_append hds h, List.cons_append, readWhole, hdigit]
  simp only [hblank, hunit, Bool.true_or, if_true, Bool.false_eq_true, if_false, bind, Except.bind]
  split
  · rename_i heq
    exact absurd (List.cons.inj heq).1 hpoint
  · rfl

/-- The name of a unit is read up to the end, or up to a blank, which is left out. -/
theorem readUnitName_append {name : List Char}
    (hname : ∀ c ∈ name, isLetter c = true) (t : List Char) :
    readUnitName (name ++ t) = (readUnitName t).map fun p => (name ++ p.1, p.2) := by
  induction name with
  | nil =>
    rw [List.nil_append]
    cases readUnitName t <;> rfl
  | cons c rest ih =>
    obtain ⟨hdigit, hblank, hunit, -⟩ := of_isLetter (hname c List.mem_cons_self)
    rw [List.cons_append, readUnitName, hdigit, ih fun d hd => hname d (List.mem_cons_of_mem _ hd)]
    simp only [Option.isSome_none, hblank, hunit, Bool.false_eq_true, if_false, if_true]
    cases readUnitName t <;> rfl

/-! ### Bounds -/

/-- What counts of a unit are worth less than: a second for a shorter unit, and a word full of seconds
for any other. -/
def bound (u : TimeUnit) : Nat :=
  match u.scale with
  | .nanos _ => nanosPerSecond
  | .seconds _ => size64 * nanosPerSecond

theorem bound_ge (u : TimeUnit) : nanosPerSecond ≤ bound u := by
  cases u <;> decide

/-- What is left of a number after the given units have taken what they can. -/
def remainder (us : List TimeUnit) (n : Nat) : Nat :=
  us.foldl (fun n u => n % unitNanos u) n

theorem split_append (us vs : List TimeUnit) (n : Nat) :
    split (us ++ vs) n = split us n ++ split vs (remainder us n) := by
  induction us generalizing n with
  | nil => rfl
  | cons u us ih =>
    rw [List.cons_append, split, ih]
    rfl

/-- No part is worth more than the whole. -/
theorem le_of_mem_split {us : List TimeUnit} {n : Nat} {p : Nat × TimeUnit} (h : p ∈ split us n) :
    p.2 ∈ us ∧ p.1 * unitNanos p.2 ≤ n := by
  induction us generalizing n with
  | nil => cases h
  | cons u us ih =>
    rcases List.mem_cons.mp h with rfl | h
    · exact ⟨List.mem_cons_self, Nat.div_mul_le_self n (unitNanos u)⟩
    · obtain ⟨hmem, hle⟩ := ih h
      exact ⟨List.mem_cons_of_mem _ hmem, hle.trans (Nat.mod_le n (unitNanos u))⟩

/-- The parts of a duration are within their bounds. -/
theorem lt_bound_of_mem_parts {d : Duration} {p : Nat × TimeUnit} (h : p ∈ d.parts) :
    p.1 * unitNanos p.2 < bound p.2 := by
  have hparts : d.parts = split [.year, .month, .day, .hour, .minute, .second] d.nanos ++
      split [.millisecond, .microsecond, .nanosecond]
        (remainder [.year, .month, .day, .hour, .minute, .second] d.nanos) :=
    split_append [.year, .month, .day, .hour, .minute, .second]
      [.millisecond, .microsecond, .nanosecond] d.nanos
  have hrest : remainder [.year, .month, .day, .hour, .minute, .second] d.nanos < nanosPerSecond :=
    Nat.mod_lt _ (by decide)
  rw [hparts, List.mem_append] at h
  rcases h with h | h
  · obtain ⟨hmem, hle⟩ := le_of_mem_split h
    have hlong : ∀ u ∈ [TimeUnit.year, .month, .day, .hour, .minute, .second],
        bound u = size64 * nanosPerSecond := by decide
    rw [hlong p.2 hmem]
    exact lt_of_le_of_lt hle d.nanos_lt
  · obtain ⟨-, hle⟩ := le_of_mem_split h
    exact lt_of_lt_of_le (lt_of_le_of_lt hle hrest) (bound_ge p.2)

/-- A count that is within its bound is added, if the sum is a duration. -/
theorem addItem_of_lt {total count : Nat} {u : TimeUnit} (hfits : count * unitNanos u < bound u)
    (hsum : total + count * unitNanos u < size64 * nanosPerSecond) :
    addItem total ⟨count, none, u⟩ = .ok (total + count * unitNanos u) := by
  have hrest : total % nanosPerSecond < nanosPerSecond := Nat.mod_lt _ (by decide)
  unfold addItem
  unfold bound unitNanos at *
  cases hscale : u.scale with
  | nanos k =>
    simp only [hscale] at hfits hsum ⊢
    have hword : inWord (count * k) = .ok (count * k) :=
      if_pos (lt_trans hfits (by decide))
    have hcarry : inWord (total % nanosPerSecond + count * k) = .ok _ :=
      if_pos (lt_trans (Nat.add_lt_add hrest hfits) (by decide))
    simp [hword, hcarry, hsum, bind, Except.bind, pure, Except.pure]
  | seconds k =>
    simp only [hscale, ← Nat.mul_assoc] at hfits hsum ⊢
    have hword : inWord (count * k) = .ok (count * k) :=
      if_pos (Nat.lt_of_mul_lt_mul_right hfits)
    have hcarry : inWord (total % nanosPerSecond + 0) = .ok _ :=
      if_pos (lt_trans hrest (by decide))
    rw [Nat.add_zero] at hcarry
    simp [hword, hcarry, hsum, bind, Except.bind, pure, Except.pure]

/-! ### Written items -/

/-- A count with its unit, as it is written. -/
def written (p : Nat × TimeUnit) : List Char :=
  Nat.toDigits 10 p.1 ++ (unitText p.1 p.2).toList

/-- Reading begins with the first digit of an item. -/
theorem readFirst_written (p : Nat × TimeUnit) (t : List Char) :
    ∃ n ds, readFirst (written p ++ t) = .ok (some (n, ds ++ ((unitText p.1 p.2).toList ++ t))) ∧
      (∀ c ∈ ds, c.isDigit = true) ∧ Nat.ofDigitChars 10 ds n = p.1 := by
  obtain ⟨c, ds, hdigits⟩ := List.exists_cons_of_ne_nil (Nat.toDigits_ne_nil (n := p.1) (b := 10))
  have hall : ∀ d ∈ c :: ds, d.isDigit = true := by
    rw [← hdigits]
    exact fun d => isDigit_of_mem_toDigits
  have hvalue : Nat.ofDigitChars 10 (c :: ds) 0 = p.1 := by
    rw [← hdigits]
    exact Nat.ofDigitChars_ten_toDigits
  rw [Nat.ofDigitChars_cons, Nat.mul_zero, Nat.zero_add] at hvalue
  refine ⟨c.toNat - 48, ds, ?_, fun d hd => hall d (List.mem_cons_of_mem _ hd), hvalue⟩
  rw [written, hdigits, List.append_assoc, List.cons_append, readFirst,
    digit?_of_isDigit (hall c List.mem_cons_self)]

theorem count_lt {count : Nat} {u : TimeUnit} (h : count * unitNanos u < bound u) :
    count < wordBound := by
  unfold wordBound
  cases u <;> simp only [unitNanos, bound, TimeUnit.scale, nanosPerSecond, size64] at * <;> omega

/-- One item is read and added; then comes the first digit of the next one, or the end. -/
theorem readItems_item {p : Nat × TimeUnit} {total n : Nat} {ds t after : List Char}
    (hds : ∀ c ∈ ds, c.isDigit = true) (hvalue : Nat.ofDigitChars 10 ds n = p.1)
    (hfits : p.1 * unitNanos p.2 < bound p.2)
    (hsum : total + p.1 * unitNanos p.2 < size64 * nanosPerSecond)
    (htail : readUnitName t = .ok ([], after)) (fuel : Nat) :
    readItems (fuel + 1) total n (ds ++ ((unitText p.1 p.2).toList ++ t)) =
      (readFirst after).bind fun
        | none => .ok (total + p.1 * unitNanos p.2)
        | some (n, rest) => readItems fuel (total + p.1 * unitNanos p.2) n rest := by
  have hletters : ∀ c ∈ (unitText p.1 p.2).toList, isLetter c = true :=
    fun c => isLetter_of_mem_unitText
  have hnumber := readNumber_append hds (hvalue ▸ count_lt hfits) (unitText_ne_nil p.1 p.2) hletters t
  have hname := readUnitName_append hletters t
  rw [htail] at hname
  rw [readItems]
  simp only [hnumber, hname, Except.map, bind, Except.bind, List.append_nil, String.ofList_toList,
    ofName_unitText, hvalue, addItem_of_lt hfits hsum]
  cases readFirst after with
  | error e => rfl
  | ok first =>
    cases first with
    | none => rfl
    | some next => rfl

/-- **Written items are read as what they are worth together**, on top of what was read before. -/
theorem readItems_written {p : Nat × TimeUnit} {ps : List (Nat × TimeUnit)} {total n fuel : Nat}
    {rest : List Char} (hfits : ∀ q ∈ p :: ps, q.1 * unitNanos q.2 < bound q.2)
    (hsum : total + worth (p :: ps) < size64 * nanosPerSecond)
    (hfirst : readFirst (joinWith ' ' ((p :: ps).map written)) = .ok (some (n, rest)))
    (hfuel : ps.length < fuel) :
    readItems fuel total n rest = .ok (total + worth (p :: ps)) := by
  induction ps generalizing p total n fuel rest with
  | nil =>
    obtain ⟨fuel, rfl⟩ := Nat.exists_eq_add_one_of_ne_zero (Nat.ne_of_gt hfuel)
    obtain ⟨m, ds, hread, hds, hvalue⟩ := readFirst_written p []
    rw [show joinWith ' ' ([p].map written) = written p ++ [] from (List.append_nil _).symm,
      hread] at hfirst
    obtain ⟨rfl, rfl⟩ := Prod.mk.inj (Option.some.inj (Except.ok.inj hfirst))
    have hworth : worth [p] = p.1 * unitNanos p.2 := by simp [worth]
    rw [hworth] at hsum ⊢
    rw [readItems_item hds hvalue (hfits p List.mem_cons_self) hsum rfl]
    rfl
  | cons q qs ih =>
    obtain ⟨fuel, rfl⟩ := Nat.exists_eq_add_one_of_ne_zero (Nat.ne_of_gt (Nat.zero_lt_of_lt hfuel))
    obtain ⟨m, ds, hread, hds, hvalue⟩ :=
      readFirst_written p (' ' :: joinWith ' ' ((q :: qs).map written))
    have hjoin : joinWith ' ' ((p :: q :: qs).map written) =
        written p ++ ' ' :: joinWith ' ' ((q :: qs).map written) :=
      joinWith_cons (List.cons_ne_nil _ _)
    rw [hjoin, hread] at hfirst
    obtain ⟨rfl, rfl⟩ := Prod.mk.inj (Option.some.inj (Except.ok.inj hfirst))
    have hworth : worth (p :: q :: qs) = p.1 * unitNanos p.2 + worth (q :: qs) := rfl
    rw [hworth, ← Nat.add_assoc] at hsum ⊢
    have hblank : readUnitName (' ' :: joinWith ' ' ((q :: qs).map written)) =
        .ok ([], joinWith ' ' ((q :: qs).map written)) := rfl
    rw [readItems_item hds hvalue (hfits p List.mem_cons_self)
      (lt_of_le_of_lt (Nat.le_add_right _ _) hsum) hblank]
    -- behind the blank begins the next item
    obtain ⟨t, ht, -⟩ := exists_joinWith_cons ' ' (written q) (qs.map written)
    obtain ⟨m', ds', hnext, -, -⟩ := readFirst_written q t
    rw [← ht] at hnext
    rw [List.map_cons, hnext]
    exact ih (fun r hr => hfits r (List.mem_cons_of_mem _ hr)) hsum hnext (Nat.lt_of_succ_lt_succ hfuel)

/-! ### Durations -/

/-- Parts that are zero do not count. -/
theorem worth_filter (ps : List (Nat × TimeUnit)) : worth (ps.filter (0 < ·.1)) = worth ps := by
  induction ps with
  | nil => rfl
  | cons p ps ih =>
    unfold worth at *
    by_cases hp : 0 < p.1
    · rw [List.filter_cons_of_pos (by simpa using hp), List.map_cons, sumOf_cons, ih, List.map_cons,
        sumOf_cons]
    · have hzero : p.1 = 0 := by omega
      rw [List.filter_cons_of_neg (by simpa using hp), ih, List.map_cons, sumOf_cons, hzero,
        Nat.zero_mul, Nat.zero_add]

/-- The text of a duration that is not zero. -/
theorem toList_text {d : Duration} (h : d.nanos ≠ 0) :
    d.text.toList = joinWith ' ' ((d.parts.filter (0 < ·.1)).map written) := by
  unfold text isZero
  rw [if_neg (by simpa using h), String.toList_intercalate, List.map_map]
  rw [show " ".toList = [' '] from rfl, intercalate_eq_joinWith]
  congr 1
  refine List.map_congr_left fun p _ => ?_
  simp [written, Nat.toList_repr]

/-- **Every duration is read as it was written.** -/
theorem read_text (d : Duration) : read d.text = .ok d := by
  by_cases hzero : d.nanos = 0
  · obtain rfl : d = zero := Duration.ext hzero
    rfl
  · have hworth : worth (d.parts.filter (0 < ·.1)) = d.nanos := by
      rw [worth_filter, sum_parts]
    have hfits : ∀ q ∈ d.parts.filter (0 < ·.1), q.1 * unitNanos q.2 < bound q.2 :=
      fun q hq => lt_bound_of_mem_parts (List.mem_filter.mp hq).1
    have htext := toList_text hzero
    cases hparts : d.parts.filter (0 < ·.1) with
    | nil =>
      rw [hparts] at hworth
      exact absurd hworth.symm hzero
    | cons p ps =>
      rw [hparts] at hworth hfits htext
      obtain ⟨t, ht, hlength⟩ := exists_joinWith_cons ' ' (written p) (ps.map written)
      obtain ⟨n, ds, hread, -, -⟩ := readFirst_written p t
      have hfuel : ps.length < (ds ++ ((unitText p.1 p.2).toList ++ t)).length + 1 := by
        rw [List.length_map] at hlength
        simp only [List.length_append]
        omega
      have hsum : 0 + worth (p :: ps) < size64 * nanosPerSecond := by
        rw [hworth, Nat.zero_add]
        exact d.nanos_lt
      have hitems := readItems_written hfits hsum (by rw [List.map_cons, ht]; exact hread) hfuel
      have hplain : d.text ≠ "0" := by
        intro heq
        obtain ⟨c, hc⟩ := List.exists_mem_of_ne_nil _ (unitText_ne_nil p.1 p.2)
        have hmem : c ∈ d.text.toList := by
          rw [htext, List.map_cons, ht, written]
          simp [hc]
        rw [heq] at hmem
        have hletter := isLetter_of_mem_unitText hc
        rw [List.mem_singleton.mp hmem] at hletter
        cases hletter
      unfold read
      rw [if_neg hplain, htext, List.map_cons, ht, hread]
      simp only [bind, Except.bind, hitems, Nat.zero_add, hworth, ofNanos?_nanos]
      rfl

end LoadBalancer.Duration

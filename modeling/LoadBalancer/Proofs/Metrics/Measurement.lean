import Mathlib
import LoadBalancer.Metrics.Names
import LoadBalancer.Metrics.Sink
import LoadBalancer.Proofs.Table

/-!
# Measurements as a log

What a sink has been told is a list of measurements. Everything that can be read back of a sink in memory
is a sum, or a collection, over that list.

* `Measurement`, `Sink.measure` – a counter that is increased or a time that is observed, and a sink that
  is told of several;
* `Measurement.adds`, `Measurement.times` – what a measurement adds to a total, and to the observations of
  a timer, under a filter;
* `Tally.select_put_perm`, `Tally.select_perm` – one series is split off from what a filter selects;
* `Tally.Gains`, `Sink.gains_measure` – **what can be read after measurements**: the totals and the
  observations before, and those that the measurements add;
* `Sink.Tells` – a sink comes out of another by measurements, of which those of some kind are given;
  `Sink.Tells.gains` reads them back.
-/

namespace LoadBalancer

/-- A counter that is increased, or a time that is observed. -/
inductive Measurement where
  | count (name : String) (tags : Tags) (n : Nat)
  | time (name : String) (tags : Tags) (nanos : Nat)
  deriving DecidableEq, Repr

namespace Measurement

/-- What is measured. -/
def name : Measurement → String
  | count name _ _ => name
  | time name _ _ => name

/-- What it adds to the total of the counters of a name with all tags of a filter. -/
def adds (other : String) (filter : Tags) : Measurement → Nat
  | count name tags n => if name = other && Sink.passes filter (Labels.ofList tags) then n else 0
  | time _ _ _ => 0

/-- What it adds to the observations of the timers of a name with all tags of a filter. -/
def times (other : String) (filter : Tags) : Measurement → List Nat
  | count _ _ _ => []
  | time name tags nanos =>
    if name = other && Sink.passes filter (Labels.ofList tags) then [nanos] else []

theorem adds_of_ne {m : Measurement} {other : String} (h : m.name ≠ other) (filter : Tags) :
    m.adds other filter = 0 := by
  cases m with
  | count name tags n =>
      have hne : name ≠ other := h
      simp [adds, hne]
  | time name tags nanos => rfl

theorem times_of_ne {m : Measurement} {other : String} (h : m.name ≠ other) (filter : Tags) :
    m.times other filter = [] := by
  cases m with
  | count name tags n => rfl
  | time name tags nanos =>
      have hne : name ≠ other := h
      simp [times, hne]

/-- What several measurements add to a total. -/
def sumAdds (other : String) (filter : Tags) (ms : List Measurement) : Nat :=
  sumOf (ms.map (adds other filter))

/-- What several measurements add to the observations of a timer. -/
def allTimes (other : String) (filter : Tags) (ms : List Measurement) : List Nat :=
  ms.flatMap (times other filter)

section Lists

variable {other : String} {filter : Tags}

theorem sumAdds_nil : sumAdds other filter [] = 0 := rfl

theorem sumAdds_cons (m : Measurement) (ms : List Measurement) :
    sumAdds other filter (m :: ms) = m.adds other filter + sumAdds other filter ms := by
  rw [sumAdds, List.map_cons, sumOf_cons]
  rfl

theorem allTimes_nil : allTimes other filter [] = [] := rfl

theorem allTimes_cons (m : Measurement) (ms : List Measurement) :
    allTimes other filter (m :: ms) = m.times other filter ++ allTimes other filter ms := rfl

theorem sumAdds_append (xs ys : List Measurement) :
    sumAdds other filter (xs ++ ys) = sumAdds other filter xs + sumAdds other filter ys := by
  rw [sumAdds, List.map_append, sumOf_append]
  rfl

theorem allTimes_append (xs ys : List Measurement) :
    allTimes other filter (xs ++ ys) = allTimes other filter xs ++ allTimes other filter ys :=
  List.flatMap_append

/-- Measurements of other names add nothing. -/
theorem sumAdds_filter {p : Measurement → Bool} (h : ∀ m, m.name = other → p m = true)
    (ms : List Measurement) : sumAdds other filter (ms.filter p) = sumAdds other filter ms := by
  induction ms with
  | nil => rfl
  | cons m rest ih =>
      by_cases hp : p m = true
      · rw [List.filter_cons_of_pos hp, sumAdds_cons, sumAdds_cons, ih]
      · have hne : m.name ≠ other := fun heq => hp (h m heq)
        rw [List.filter_cons_of_neg hp, ih, sumAdds_cons, adds_of_ne hne, Nat.zero_add]

theorem allTimes_filter {p : Measurement → Bool} (h : ∀ m, m.name = other → p m = true)
    (ms : List Measurement) : allTimes other filter (ms.filter p) = allTimes other filter ms := by
  induction ms with
  | nil => rfl
  | cons m rest ih =>
      by_cases hp : p m = true
      · rw [List.filter_cons_of_pos hp, allTimes_cons, allTimes_cons, ih]
      · have hne : m.name ≠ other := fun heq => hp (h m heq)
        rw [List.filter_cons_of_neg hp, ih, allTimes_cons, times_of_ne hne, List.nil_append]

end Lists

/-- It says something about the outcome of a selection. -/
def isOutcome (m : Measurement) : Bool :=
  m.name ∈ [Metric.selections, Metric.failedSelections, Metric.selectionDuration]

theorem isOutcome_of_counted {m : Measurement}
    (h : m.name ∈ [Metric.selections, Metric.failedSelections]) : m.isOutcome = true := by
  simp only [List.mem_cons, List.not_mem_nil, or_false] at h
  rcases h with h | h <;> simp [isOutcome, h]

theorem isOutcome_of_timed {m : Measurement} (h : m.name = Metric.selectionDuration) :
    m.isOutcome = true := by
  simp [isOutcome, h]

end Measurement

/-! ### Series that pass a filter -/

namespace Tally

section Select

variable {κ : Type} [DecidableEq κ]

/-- After `put` a filter selects the new value, if it passes the series, and of the other series what it
selected before. -/
theorem select_put_perm {α : Type} (t : Table (Series κ) α) (s : Series κ) (a : α) (name : String)
    (passes : κ → Bool) :
    (select (t.put s a) name passes).Perm
      ((if s.name = name && passes s.part then [a] else []) ++ select (t.erase s) name passes) := by
  refine ((Table.putEntry_perm a t.nodup).filterMap _).trans ?_
  by_cases h : (s.name = name && passes s.part) = true
  · simp only [List.filterMap_cons, if_pos h]
    exact List.Perm.refl _
  · simp only [List.filterMap_cons, if_neg h]
    exact List.Perm.refl _

/-- What a filter selects of one series can be split off. -/
theorem select_perm {α : Type} (t : Table (Series κ) α) (s : Series κ) (name : String)
    (passes : κ → Bool) :
    (select t name passes).Perm
      ((if s.name = name && passes s.part then (t.get? s).toList else []) ++
        select (t.erase s) name passes) := by
  cases hget : t.get? s with
  | none => simp [Table.erase_of_get?_eq_none hget]
  | some a =>
      have h := select_put_perm t s a name passes
      rwa [Table.put_eq_self hget] at h

/-- A counter that is increased adds to exactly the totals that its series passes for. -/
theorem total_count (t : Tally κ) (s : Series κ) (n : Nat) (name : String) (passes : κ → Bool) :
    (t.count s n).total name passes =
      t.total name passes + if s.name = name && passes s.part then n else 0 := by
  have hnew := (select_put_perm t.counters s ((t.counters.get? s).getD 0 + n) name passes).sum_nat
  have hold := (select_perm t.counters s name passes).sum_nat
  rw [total, total, sumOf_eq_sum, sumOf_eq_sum, hold]
  refine hnew.trans ?_
  by_cases h : (s.name = name && passes s.part) = true
  · rw [if_pos h, if_pos h, if_pos h]
    cases t.counters.get? s <;> simp <;> omega
  · rw [if_neg h, if_neg h, if_neg h, Nat.add_zero]

/-- A timer that observes a time adds it to exactly the observations that its series passes for. -/
theorem observations_time (t : Tally κ) (s : Series κ) (nanos : Nat) (name : String)
    (passes : κ → Bool) :
    ((t.time s nanos).observations name passes).Perm
      ((if s.name = name && passes s.part then [nanos] else []) ++ t.observations name passes) := by
  have hnew :=
    (select_put_perm t.timers s (nanos :: (t.timers.get? s).getD []) name passes).flatten
  have hold := (select_perm t.timers s name passes).flatten
  refine hnew.trans (.trans ?_ (hold.symm.append_left _))
  by_cases h : (s.name = name && passes s.part) = true
  · rw [if_pos h, if_pos h, if_pos h]
    cases t.timers.get? s <;> simp
  · rw [if_neg h, if_neg h, if_neg h]
    exact List.Perm.refl _

end Select

/-- What can be read of a tally after measurements. -/
structure Gains (t : Tally Labels) (ms : List Measurement) (t' : Tally Labels) : Prop where
  total : ∀ name filter, t'.total name (Sink.passes filter) =
    t.total name (Sink.passes filter) + Measurement.sumAdds name filter ms
  observations : ∀ name filter, (t'.observations name (Sink.passes filter)).Perm
    (Measurement.allTimes name filter ms ++ t.observations name (Sink.passes filter))

theorem Gains.refl (t : Tally Labels) : Gains t [] t where
  total := fun _ _ => rfl
  observations := fun _ _ => List.Perm.refl _

/-- The order in which times were observed is not kept. -/
theorem Gains.trans {t t' t'' : Tally Labels} {xs ys : List Measurement} (h : Gains t xs t')
    (h' : Gains t' ys t'') : Gains t (xs ++ ys) t'' where
  total := by
    intro name filter
    rw [h'.total, h.total, Measurement.sumAdds_append, Nat.add_assoc]
  observations := by
    intro name filter
    have hlast := (h'.observations name filter).trans
      ((h.observations name filter).append_left (Measurement.allTimes name filter ys))
    refine hlast.trans ?_
    rw [Measurement.allTimes_append, List.append_assoc]
    exact List.perm_append_comm_assoc _ _ _

theorem Gains.count (t : Tally Labels) (name : String) (tags : Tags) (n : Nat) :
    Gains t [.count name tags n] (t.count ⟨name, Labels.ofList tags⟩ n) where
  total := by
    intro other filter
    rw [total_count, Measurement.sumAdds_cons, Measurement.sumAdds_nil, Nat.add_zero]
    rfl
  observations := fun _ _ => List.Perm.refl _

theorem Gains.time (t : Tally Labels) (name : String) (tags : Tags) (nanos : Nat) :
    Gains t [.time name tags nanos] (t.time ⟨name, Labels.ofList tags⟩ nanos) where
  total := fun _ _ => rfl
  observations := by
    intro other filter
    rw [Measurement.allTimes_cons, Measurement.allTimes_nil, List.append_nil]
    exact t.observations_time ⟨name, Labels.ofList tags⟩ nanos other (Sink.passes filter)

end Tally

/-! ### Sinks -/

namespace Sink

/-- A sink is told of a measurement. -/
def make (s : Sink) : Measurement → Sink
  | .count name tags n => s.count name tags n
  | .time name tags nanos => s.time name tags nanos

/-- A sink is told of several measurements. -/
def measure (s : Sink) (ms : List Measurement) : Sink := ms.foldl make s

theorem measure_append (s : Sink) (xs ys : List Measurement) :
    s.measure (xs ++ ys) = (s.measure xs).measure ys := List.foldl_append

/-- **What a sink in memory has been told can be read back**, by induction on the measurements. -/
theorem gains_measure (t : Tally Labels) (ms : List Measurement) :
    ∃ t', (memory t).measure ms = memory t' ∧ t.Gains ms t' := by
  induction ms generalizing t with
  | nil => exact ⟨t, rfl, .refl t⟩
  | cons m rest ih =>
      cases m with
      | count name tags n =>
          obtain ⟨t', hsink, hgains⟩ := ih (t.count ⟨name, Labels.ofList tags⟩ n)
          exact ⟨t', hsink, (Tally.Gains.count t name tags n).trans hgains⟩
      | time name tags nanos =>
          obtain ⟨t', hsink, hgains⟩ := ih (t.time ⟨name, Labels.ofList tags⟩ nanos)
          exact ⟨t', hsink, (Tally.Gains.time t name tags nanos).trans hgains⟩

/-- The totals are words of 64 bits. -/
theorem total_measure (t : Tally Labels) (ms : List Measurement) (name : String) (filter : Tags) :
    ((memory t).measure ms).total name filter =
      ((memory t).total name filter + Measurement.sumAdds name filter ms) % size64 := by
  obtain ⟨t', hsink, hgains⟩ := gains_measure t ms
  rw [hsink, total, total, hgains.total, Nat.mod_add_mod]

theorem timings_measure (t : Tally Labels) (ms : List Measurement) (name : String) (filter : Tags) :
    (((memory t).measure ms).timings name filter).Perm
      (Measurement.allTimes name filter ms ++ (memory t).timings name filter) := by
  obtain ⟨t', hsink, hgains⟩ := gains_measure t ms
  rw [hsink]
  exact hgains.observations name filter

/-! ### Measurements of a kind -/

/-- The second sink comes out of the first by measurements; those of some kind are `told`, in order. -/
def Tells (kind : Measurement → Bool) (told : List Measurement) (s s' : Sink) : Prop :=
  ∃ ms, s' = s.measure ms ∧ ms.filter kind = told

namespace Tells

variable {kind : Measurement → Bool} {xs ys : List Measurement} {s s' s'' : Sink}

theorem refl (s : Sink) : Tells kind [] s s := ⟨[], rfl, rfl⟩

theorem of_eq (h : s' = s) : Tells kind [] s s' := by
  rw [h]
  exact refl s

theorem trans (h : Tells kind xs s s') (h' : Tells kind ys s' s'') : Tells kind (xs ++ ys) s s'' := by
  obtain ⟨ms, rfl, rfl⟩ := h
  obtain ⟨ms', rfl, rfl⟩ := h'
  exact ⟨ms ++ ms', (measure_append s ms ms').symm, List.filter_append ..⟩

/-- Nothing of the kind comes after. -/
theorem then_nothing (h : Tells kind xs s s') (h' : Tells kind [] s' s'') : Tells kind xs s s'' := by
  have hboth := h.trans h'
  rwa [List.append_nil] at hboth

theorem measure (s : Sink) (ms : List Measurement) : Tells kind (ms.filter kind) s (s.measure ms) :=
  ⟨ms, rfl, rfl⟩

/-- If everything is of the kind, the measurements are those that were told. -/
theorem eq_measure (h : Tells (fun _ => true) xs s s') : s' = s.measure xs := by
  obtain ⟨ms, rfl, rfl⟩ := h
  rw [List.filter_true]

end Tells

/-- What is told about outcomes can be read back, whatever else was measured. -/
theorem Tells.gains {told : List Measurement} {t : Tally Labels} {s : Sink}
    (h : Tells Measurement.isOutcome told (memory t) s) :
    ∃ t', s = memory t' ∧
      (∀ name ∈ [Metric.selections, Metric.failedSelections], ∀ filter,
        t'.total name (passes filter) =
          t.total name (passes filter) + Measurement.sumAdds name filter told) ∧
      ∀ filter, (t'.observations Metric.selectionDuration (passes filter)).Perm
        (Measurement.allTimes Metric.selectionDuration filter told ++
          t.observations Metric.selectionDuration (passes filter)) := by
  obtain ⟨ms, rfl, rfl⟩ := h
  obtain ⟨t', hsink, hgains⟩ := gains_measure t ms
  refine ⟨t', hsink, ?_, ?_⟩
  · intro name hname filter
    rw [hgains.total, Measurement.sumAdds_filter]
    rintro m rfl
    exact Measurement.isOutcome_of_counted hname
  · intro filter
    rw [Measurement.allTimes_filter fun m => Measurement.isOutcome_of_timed]
    exact hgains.observations _ filter

section Outcomes

variable {told : List Measurement} {t : Tally Labels} {s : Sink}

theorem Tells.total (h : Tells Measurement.isOutcome told (memory t) s) {name : String}
    (hname : name ∈ [Metric.selections, Metric.failedSelections]) (filter : Tags) :
    s.total name filter =
      ((memory t).total name filter + Measurement.sumAdds name filter told) % size64 := by
  obtain ⟨t', rfl, htotal, -⟩ := h.gains
  rw [Sink.total, Sink.total, htotal name hname, Nat.mod_add_mod]

theorem Tells.length_timings (h : Tells Measurement.isOutcome told (memory t) s) (filter : Tags) :
    (s.timings Metric.selectionDuration filter).length =
      ((memory t).timings Metric.selectionDuration filter).length +
        (Measurement.allTimes Metric.selectionDuration filter told).length := by
  obtain ⟨t', rfl, -, htimes⟩ := h.gains
  have hlength := (htimes filter).length_eq
  rw [List.length_append, Nat.add_comm] at hlength
  exact hlength

end Outcomes

end Sink

end LoadBalancer

import LoadBalancer.Labels
import LoadBalancer.Number.Word
import LoadBalancer.Table

/-!
# Tallies

Counts and times, summed up by series: a name with what else tells measurements apart.

* `Series` – the name of a measurement with its distinguishing part;
* `Tally` – totals of counters, and the observations of timers, per series;
* `Tally.total`, `Tally.observations` – all series of a name that pass a filter, taken together.
-/

namespace LoadBalancer

/-- What tells measurements apart, as it was given: names with texts, in order. -/
abbrev Tags := List (String × String)

/-- The name of a measurement, with the part that tells it from others of that name. -/
structure Series (κ : Type) where
  name : String
  part : κ
  deriving DecidableEq, Repr

/-- Counts and times by series. Times are in nanoseconds. -/
structure Tally (κ : Type) where
  counters : Table (Series κ) Nat
  timers : Table (Series κ) (List Nat)

namespace Tally

variable {κ : Type}

/-- Nothing has been measured. -/
def empty : Tally κ := ⟨.empty, .empty⟩

instance : Inhabited (Tally κ) := ⟨empty⟩

/-- The tally with a counter increased. -/
def count [DecidableEq κ] (t : Tally κ) (s : Series κ) (n : Nat) : Tally κ :=
  { t with counters := t.counters.put s ((t.counters.get? s).getD 0 + n) }

/-- The tally with one more observation of a timer. -/
def time [DecidableEq κ] (t : Tally κ) (s : Series κ) (nanos : Nat) : Tally κ :=
  { t with timers := t.timers.put s (nanos :: (t.timers.get? s).getD []) }

/-- The values of all series of a name that pass a filter. -/
def select {α : Type} (t : Table (Series κ) α) (name : String) (passes : κ → Bool) : List α :=
  t.entries.filterMap fun e => if e.1.name = name && passes e.1.part then some e.2 else none

/-- The total of all counters of a name that pass a filter. -/
def total (t : Tally κ) (name : String) (passes : κ → Bool) : Nat :=
  sumOf (select t.counters name passes)

/-- The observations of all timers of a name that pass a filter. -/
def observations (t : Tally κ) (name : String) (passes : κ → Bool) : List Nat :=
  (select t.timers name passes).flatten

end Tally

end LoadBalancer

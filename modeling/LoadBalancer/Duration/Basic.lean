import LoadBalancer.Number.Word

/-!
# Durations

Lengths of time in whole nanoseconds, up to `2 ^ 64` seconds.

* `Duration` – the length, with its bound;
* `Duration.seconds`, `Duration.subsec` – whole seconds, and the nanoseconds beyond them;
* `Duration.milliseconds` – the length in milliseconds, a started one counting in full.
-/

namespace LoadBalancer

/-- The number of nanoseconds in a second. -/
def nanosPerSecond : Nat := 1000000000

/-- A length of time. -/
structure Duration where
  nanos : Nat
  nanos_lt : nanos < size64 * nanosPerSecond
  deriving DecidableEq, Repr

namespace Duration

/-- No time at all. -/
def zero : Duration := ⟨0, by decide⟩

instance : Inhabited Duration := ⟨zero⟩

/-- The length of `n` nanoseconds, unless it is beyond the bound. -/
def ofNanos? (n : Nat) : Option Duration :=
  if h : n < size64 * nanosPerSecond then some ⟨n, h⟩ else none

/-- Whole seconds. -/
def seconds (d : Duration) : Nat := d.nanos / nanosPerSecond

/-- Nanoseconds beyond the whole seconds. -/
def subsec (d : Duration) : Nat := d.nanos % nanosPerSecond

/-- No time at all. -/
def isZero (d : Duration) : Bool := d.nanos == 0

/-- The length in milliseconds, a started one counting in full. -/
def milliseconds (d : Duration) : Nat := (d.nanos + 999999) / 1000000

/-! ### Laws -/

theorem seconds_lt (d : Duration) : d.seconds < size64 :=
  (Nat.div_lt_iff_lt_mul (by decide)).2 d.nanos_lt

theorem subsec_lt (d : Duration) : d.subsec < nanosPerSecond :=
  Nat.mod_lt _ (by decide)

theorem nanos_eq (d : Duration) : d.seconds * nanosPerSecond + d.subsec = d.nanos :=
  Nat.div_add_mod' d.nanos nanosPerSecond

@[ext] theorem ext {d e : Duration} (h : d.nanos = e.nanos) : d = e := by
  cases d; cases e; simp_all

theorem ofNanos?_nanos (d : Duration) : ofNanos? d.nanos = some d :=
  dif_pos d.nanos_lt

end Duration

end LoadBalancer

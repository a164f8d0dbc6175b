import LoadBalancer.Duration.Unit
import LoadBalancer.Duration.Basic

/-!
# Writing durations

* `Duration.parts` – a duration as counts of units, from years down to nanoseconds;
* `Duration.text` – the parts that are not zero, with blanks between them;
* `Duration.decimalText` – one number in the largest unit that fits, for diagnostics.

`sum_parts` says that the parts are worth the duration.
-/

namespace LoadBalancer.Duration

/-- The name behind a count. The three longest units have a plural. -/
def unitText (count : Nat) : TimeUnit → String
  | .year => if 1 < count then "years" else "year"
  | .month => if 1 < count then "months" else "month"
  | .week => "w"
  | .day => if 1 < count then "days" else "day"
  | .hour => "h"
  | .minute => "m"
  | .second => "s"
  | .millisecond => "ms"
  | .microsecond => "us"
  | .nanosecond => "ns"

/-- The nanoseconds of a unit. -/
def unitNanos (u : TimeUnit) : Nat :=
  match u.scale with
  | .nanos n => n
  | .seconds n => n * nanosPerSecond

/-- The units that a duration is written in, the longest first. -/
def writtenUnits : List TimeUnit :=
  [.year, .month, .day, .hour, .minute, .second, .millisecond, .microsecond, .nanosecond]

/-- A number of nanoseconds as counts of the given units, each taking what it can. -/
def split : List TimeUnit → Nat → List (Nat × TimeUnit)
  | [], _ => []
  | u :: us, n => (n / unitNanos u, u) :: split us (n % unitNanos u)

/-- A duration as counts of units. -/
def parts (d : Duration) : List (Nat × TimeUnit) :=
  split writtenUnits d.nanos

/-- The written form. -/
def text (d : Duration) : String :=
  if d.isZero then "0s"
  else
    " ".intercalate ((d.parts.filter (0 < ·.1)).map fun p => s!"{p.1}" ++ unitText p.1 p.2)

/-- A number with a fraction of `width` digits, without trailing zeros. -/
def fractionText (whole fraction width : Nat) : String :=
  if fraction = 0 then s!"{whole}"
  else
    let digits := Nat.toDigits 10 (Nat.pow 10 width + fraction) |>.drop 1
    s!"{whole}." ++ String.ofList (digits.reverse.dropWhile (· == '0')).reverse

/-- The written form with one unit: seconds, or the largest shorter unit that is not below one. -/
def decimalText (d : Duration) : String :=
  if nanosPerSecond ≤ d.nanos then
    fractionText (d.nanos / nanosPerSecond) (d.nanos % nanosPerSecond) 9 ++ "s"
  else if 1000000 ≤ d.nanos then
    fractionText (d.nanos / 1000000) (d.nanos % 1000000) 6 ++ "ms"
  else if 1000 ≤ d.nanos then
    fractionText (d.nanos / 1000) (d.nanos % 1000) 3 ++ "µs"
  else s!"{d.nanos}ns"

/-! ### Laws -/

/-- The worth of counts of units, in nanoseconds. -/
def worth (ps : List (Nat × TimeUnit)) : Nat :=
  sumOf (ps.map fun p => p.1 * unitNanos p.2)

/-- Counts of units down to the shortest are worth the number that was split. -/
theorem worth_split (us : List TimeUnit) (n : Nat) :
    worth (split (us ++ [.nanosecond]) n) = n := by
  induction us generalizing n with
  | nil => simp [split, worth, unitNanos, TimeUnit.scale]
  | cons u us ih =>
    have h := ih (n % unitNanos u)
    simp only [worth, List.cons_append, split, List.map_cons, sumOf_cons] at h ⊢
    rw [h, Nat.mul_comm]
    exact Nat.div_add_mod n (unitNanos u)

/-- The parts of a duration are worth the duration. -/
theorem sum_parts (d : Duration) : worth d.parts = d.nanos :=
  worth_split [.year, .month, .day, .hour, .minute, .second, .millisecond, .microsecond] d.nanos

end LoadBalancer.Duration

/-!
# Units of time

* `TimeUnit` – the ten units that durations are written in;
* `TimeUnit.ofName` – the unit that a name stands for; names are case-sensitive;
* `TimeUnit.scale` – the worth of a unit, as seconds or as nanoseconds.
-/

namespace LoadBalancer

/-- A unit of time. -/
inductive TimeUnit where
  | nanosecond
  | microsecond
  | millisecond
  | second
  | minute
  | hour
  | day
  | week
  | month
  | year
  deriving DecidableEq, Repr

namespace TimeUnit

/-- The names of a unit. -/
def names : TimeUnit → List String
  | .nanosecond => ["nanos", "nsec", "ns"]
  | .microsecond => ["usec", "us", "µs"]
  | .millisecond => ["millis", "msec", "ms"]
  | .second => ["seconds", "second", "secs", "sec", "s"]
  | .minute => ["minutes", "minute", "mins", "min", "m"]
  | .hour => ["hours", "hour", "hrs", "hr", "h"]
  | .day => ["days", "day", "d"]
  | .week => ["weeks", "week", "wks", "wk", "w"]
  | .month => ["months", "month", "M"]
  | .year => ["years", "year", "yrs", "yr", "y"]

/-- All units, the shortest first. -/
def all : List TimeUnit :=
  [.nanosecond, .microsecond, .millisecond, .second, .minute, .hour, .day, .week, .month, .year]

/-- The unit that a name stands for. -/
def ofName (s : String) : Option TimeUnit :=
  all.find? fun u => u.names.contains s

/-- The worth of a unit: nanoseconds below a second, seconds from there on. -/
inductive Scale where
  | nanos (n : Nat)
  | seconds (n : Nat)
  deriving DecidableEq, Repr

/-- The worth of a unit. A month is a twelfth of a year, and a year has 365.25 days. -/
def scale : TimeUnit → Scale
  | .nanosecond => .nanos 1
  | .microsecond => .nanos 1000
  | .millisecond => .nanos 1000000
  | .second => .seconds 1
  | .minute => .seconds 60
  | .hour => .seconds 3600
  | .day => .seconds 86400
  | .week => .seconds 604800
  | .month => .seconds 2630016
  | .year => .seconds 31557600

/-- The worth of a unit that a fraction is taken of: nanoseconds up to a minute, seconds from an
hour on. The shortest unit has no fractions. -/
def fractionScale : TimeUnit → Option Scale
  | .nanosecond => none
  | .microsecond => some (.nanos 1000)
  | .millisecond => some (.nanos 1000000)
  | .second => some (.nanos 1000000000)
  | .minute => some (.nanos 60000000000)
  | u => some u.scale

end TimeUnit

end LoadBalancer

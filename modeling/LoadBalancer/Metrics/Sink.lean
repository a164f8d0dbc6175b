import LoadBalancer.Metrics.Exposition

/-!
# Sinks of measurements

Where measurements go.

* `Sink` – kept in memory, recorded for a collector, or discarded;
* `Sink.count`, `Sink.time` – a measurement is made;
* `Sink.total`, `Sink.timings`, `Sink.exposition` – what can be read back.

In memory, the order of tags does not matter, and of two texts for one name the last counts.
-/

namespace LoadBalancer

/-- Where measurements go. -/
inductive Sink where
  /-- They are summed up, and can be read back. -/
  | memory (tally : Tally Labels)
  /-- They are kept for a collector, with their tags in order. -/
  | recorder (tally : Tally Tags)
  /-- They are forgotten. -/
  | discard

namespace Sink

/-- A counter is increased. -/
def count (s : Sink) (name : String) (tags : Tags) (n : Nat) : Sink :=
  match s with
  | memory t => memory (t.count ⟨name, Labels.ofList tags⟩ n)
  | recorder t => recorder (t.count ⟨name, tags⟩ n)
  | discard => discard

/-- A time is observed. -/
def time (s : Sink) (name : String) (tags : Tags) (nanos : Nat) : Sink :=
  match s with
  | memory t => memory (t.time ⟨name, Labels.ofList tags⟩ nanos)
  | recorder t => recorder (t.time ⟨name, tags⟩ nanos)
  | discard => discard

/-- Every tag of a filter is among the labels. -/
def passes (filter : Tags) (l : Labels) : Bool :=
  filter.all fun e => l.get? e.1 == some e.2

/-- The total of the counters of a name with all tags of a filter, if it can be read back. It is a
word of 64 bits. -/
def total (s : Sink) (name : String) (filter : Tags) : Nat :=
  match s with
  | memory t => t.total name (passes filter) % size64
  | _ => 0

/-- The observations of the timers of a name with all tags of a filter, if they can be read back. -/
def timings (s : Sink) (name : String) (filter : Tags) : List Nat :=
  match s with
  | memory t => t.observations name (passes filter)
  | _ => []

/-- What is in memory is forgotten. -/
def clear : Sink → Sink
  | memory _ => memory .empty
  | s => s

/-- The lines that a collector reads. -/
def exposition : Sink → List String
  | recorder t => Exposition.lines t
  | _ => []

end Sink

end LoadBalancer

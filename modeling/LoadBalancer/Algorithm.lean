import LoadBalancer.Error
import LoadBalancer.Text.Blank
import LoadBalancer.Text.Fold

/-!
# Algorithms

The names under which the ways of choosing an instance are configured.

* `Algorithm` – the ten algorithms, and `Algorithm.all`, which lists them in rank order;
* `Algorithm.key`, `Algorithm.name` – the short and the long name;
* `Algorithm.read` – the algorithm of a name, in either form, up to ASCII case and outer blanks;
* `Algorithm.base` – the algorithm that a weighted variant is built on.
-/

namespace LoadBalancer

open LoadBalancer.Text

/-- A way of choosing an instance. -/
inductive Algorithm where
  | random
  | roundRobin
  | weightedRandom
  | weightedRoundRobin
  | destinationHash
  | sourceHash
  | leastConnections
  | leastTime
  | weightedLeastConnections
  | weightedLeastTime
  deriving DecidableEq, Repr

namespace Algorithm

instance : Inhabited Algorithm := ⟨.roundRobin⟩

/-- All algorithms, in rank order. -/
def all : List Algorithm :=
  [.random, .roundRobin, .weightedRandom, .weightedRoundRobin, .destinationHash, .sourceHash,
   .leastConnections, .leastTime, .weightedLeastConnections, .weightedLeastTime]

/-- The position among all algorithms. -/
def rank (a : Algorithm) : Nat := all.idxOf a

/-- The short name. -/
def key : Algorithm → String
  | .random => "R"
  | .roundRobin => "RR"
  | .weightedRandom => "WR"
  | .weightedRoundRobin => "WRR"
  | .destinationHash => "DH"
  | .sourceHash => "SH"
  | .leastConnections => "LC"
  | .leastTime => "LT"
  | .weightedLeastConnections => "WLC"
  | .weightedLeastTime => "WLT"

/-- The long name. -/
def name : Algorithm → String
  | .random => "random"
  | .roundRobin => "round_robin"
  | .weightedRandom => "weighted_random"
  | .weightedRoundRobin => "weighted_round_robin"
  | .destinationHash => "destination_hash"
  | .sourceHash => "source_hash"
  | .leastConnections => "least_connections"
  | .leastTime => "least_time"
  | .weightedLeastConnections => "weighted_least_connections"
  | .weightedLeastTime => "weighted_least_time"

/-- The algorithm that a weighted variant is built on; any other is its own base. -/
def base : Algorithm → Algorithm
  | .weightedRandom => .random
  | .weightedRoundRobin => .roundRobin
  | .weightedLeastConnections => .leastConnections
  | .weightedLeastTime => .leastTime
  | a => a

/-- A weighted variant. -/
def isWeighted (a : Algorithm) : Bool := a.base != a

/-- A name means the algorithm: it is one of its two names, up to ASCII case. -/
def isCalled (a : Algorithm) (s : String) : Bool :=
  sameFolded a.key s || sameFolded a.name s

/-- The algorithm of a name. -/
def read (s : String) : Except Error Algorithm :=
  match all.find? (·.isCalled (trim s)) with
  | some a => .ok a
  | none => .error (.unknownAlgorithm (trim s))

/-! ### Laws -/

theorem mem_all (a : Algorithm) : a ∈ all := by
  cases a <;> decide

theorem base_base (a : Algorithm) : a.base.base = a.base := by
  cases a <;> rfl

end Algorithm

end LoadBalancer

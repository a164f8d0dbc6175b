import LoadBalancer.Algorithm
import LoadBalancer.Digest.Sha256
import LoadBalancer.Failure
import LoadBalancer.Registry.Action
import LoadBalancer.Request
import LoadBalancer.Table

/-!
# Choosers

Who picks an instance out of a pool, and by which rule.

* `PickRule` – the rules; `hashIndex` and `leastLoaded` are the indices that two of them yield;
* `Strategy` – a rule under a name; a weighted strategy has the rule of its base;
* `Chooser` – a strategy at work. Two choosers of one strategy keep their own cursors, and the
  serial number tells them apart;
* `Choosers` – the chooser of every algorithm.
-/

namespace LoadBalancer

/-- The end of a request that its hash is taken of. -/
inductive HashKey where
  | source
  | destination
  deriving DecidableEq, Repr

/-- What a strategy from outside does when it is asked: actions on the registry, and its answer, which
need not be one of the candidates. -/
structure Advice where
  actions : List RegistryAction
  answer : Except Failure Instance

/-- How an instance is picked out of a pool. -/
inductive PickRule where
  /-- Any instance. -/
  | random
  /-- The instances in turn. -/
  | cyclic
  /-- An instance that depends on one end of the request alone. -/
  | hashed (key : HashKey)
  /-- The first of the instances with the fewest open connections. -/
  | leastLoaded
  /-- No instance at all. -/
  | never
  /-- As a script lays down. -/
  | scripted
  /-- By a strategy from outside, which gets to see how often it was asked before, the request, the
  candidates and the registry. -/
  | outside (advise : Nat → Request → List Status → Registry → Advice)

namespace PickRule

/-- The rule of an algorithm. Without latencies, time is measured by load, and weights are not
applied yet. -/
def ofAlgorithm (a : Algorithm) : PickRule :=
  match a with
  | .random => random
  | .roundRobin => cyclic
  | .weightedRandom => random
  | .weightedRoundRobin => cyclic
  | .destinationHash => hashed .destination
  | .sourceHash => hashed .source
  | .leastConnections => leastLoaded
  | .leastTime => leastLoaded
  | .weightedLeastConnections => leastLoaded
  | .weightedLeastTime => leastLoaded

/-- A weighted algorithm has the rule of its base. -/
theorem ofAlgorithm_base (a : Algorithm) : ofAlgorithm a.base = ofAlgorithm a := by
  cases a <;> rfl

end PickRule

/-! ### Picks -/

/-- The text that a request is hashed by; requests without it share the empty one. -/
def Request.hashText (r : Request) : HashKey → String
  | .source => r.source?.getD ""
  | .destination => r.destination?.getD ""

/-- The index that a text is hashed to. -/
def hashIndex (s : String) (n : Nat) : Nat :=
  Digest.leadingWord s % n

/-- Index and load of the first of the least loaded instances; positions are counted from `i`. -/
def leastFrom (i : Nat) : List Status → Option (Nat × Nat)
  | [] => none
  | s :: rest =>
    match leastFrom (i + 1) rest with
    | some (j, load) => if s.connections ≤ load then some (i, s.connections) else some (j, load)
    | none => some (i, s.connections)

/-- The index of the first of the instances with the fewest open connections. -/
def leastLoaded (pool : List Status) : Option Nat :=
  (leastFrom 0 pool).map Prod.fst

/-! ### Choosers -/

/-- A rule under a name. -/
structure Strategy where
  name : String
  rule : PickRule

namespace Strategy

/-- The strategy of an algorithm. -/
def ofAlgorithm (a : Algorithm) : Strategy := ⟨a.name, .ofAlgorithm a⟩

/-- The strategy with the name of one algorithm that picks like another. -/
def layered (a base : Algorithm) : Strategy := ⟨a.name, .ofAlgorithm base⟩

/-- The strategy that never picks an instance. -/
def noop : Strategy := ⟨"noop", .never⟩

/-- The strategy that follows a script. -/
def scripted : Strategy := ⟨"scripted", .scripted⟩

end Strategy

/-- A strategy at work. -/
structure Chooser where
  serial : Nat
  strategy : Strategy

namespace Chooser

/-- The name in logs. -/
def name (c : Chooser) : String := c.strategy.name

/-- The rule by which it picks. -/
def rule (c : Chooser) : PickRule := c.strategy.rule

end Chooser

/-- The chooser of every algorithm, and the one for algorithms that have none. -/
structure Choosers where
  byAlgorithm : Table Algorithm Chooser
  fallback : Option Chooser
  /-- The number of choosers so far. -/
  made : Nat

namespace Choosers

/-- No chooser. -/
def empty : Choosers := ⟨.empty, none, 0⟩

/-- The choosers with a new one for an algorithm, in the place of any other. -/
def install (c : Choosers) (a : Algorithm) (s : Strategy) : Choosers :=
  { c with byAlgorithm := c.byAlgorithm.put a ⟨c.made, s⟩, made := c.made + 1 }

/-- A chooser for every algorithm, with the strategy of that algorithm. -/
def withDefaults : Choosers :=
  Algorithm.all.foldl (fun c a => c.install a (.ofAlgorithm a)) empty

/-- The choosers with a new one for algorithms that have none. -/
def withFallback (c : Choosers) (s : Strategy) : Choosers :=
  { c with fallback := some ⟨c.made, s⟩, made := c.made + 1 }

/-- A chooser is registered for an algorithm that has none yet. -/
def register (c : Choosers) (a : Algorithm) (s : Strategy) : Except Error Choosers :=
  if c.byAlgorithm.contains a then .error (.duplicateAlgorithm a.key) else .ok (c.install a s)

/-- A chooser is registered for an algorithm that is given by name. -/
def registerNamed (c : Choosers) (name : String) (s : Strategy) : Except Error Choosers := do
  c.register (← Algorithm.read name) s

/-- Choosers are registered in turn; each answer says whether that was possible. -/
def registerAll (c : Choosers) : List (String × Strategy) → List (Except Error Unit) × Choosers
  | [] => ([], c)
  | (name, s) :: rest =>
    match c.registerNamed name s with
    | .ok c =>
      let (answers, c) := registerAll c rest
      (.ok () :: answers, c)
    | .error e =>
      let (answers, c) := registerAll c rest
      (.error e :: answers, c)

/-- The chooser of an algorithm. -/
def resolve (c : Choosers) (a : Algorithm) : Except Error Chooser :=
  match (c.byAlgorithm.get? a).or c.fallback with
  | some chooser => .ok chooser
  | none => .error (.unknownAlgorithm a.key)

/-- The algorithms that have a chooser, in rank order. -/
def algorithms (c : Choosers) : List Algorithm :=
  Algorithm.all.filter c.byAlgorithm.contains

/-! ### Laws -/

/-- With a fallback, every algorithm has a chooser. -/
theorem resolve_isOk_of_fallback {c : Choosers} (h : c.fallback.isSome = true) (a : Algorithm) :
    ∃ chooser, c.resolve a = .ok chooser := by
  obtain ⟨f, hf⟩ := Option.isSome_iff_exists.1 h
  cases hg : c.byAlgorithm.get? a with
  | some chooser => exact ⟨chooser, by simp [resolve, hg]⟩
  | none => exact ⟨f, by simp [resolve, hg, hf]⟩

end Choosers

end LoadBalancer

import LoadBalancer.Attempts
import LoadBalancer.Chooser
import LoadBalancer.Discovery
import LoadBalancer.Metrics.Names
import LoadBalancer.Metrics.Sink
import LoadBalancer.Registry.Action
import LoadBalancer.Rule
import LoadBalancer.Settings.Policy

/-!
# The state of a balancer

* `Balancer` – everything that one selection leaves for the next;
* `Ambient` – what the world decides: random numbers, and how long things take;
* `Balancer.connect`, `Balancer.disconnect` – connections, with the measurement of one that was to be
  closed and was not open;
* `Balancer.pick` – the index that a chooser picks;
* `Balancer.sleep` – time passes.
-/

namespace LoadBalancer

/-- What the world decides, as endless rows of numbers. -/
structure Ambient where
  /-- Random numbers. -/
  rolls : Nat → Nat
  /-- How long the dispatches of selections take, in nanoseconds. -/
  lapses : Nat → Nat

/-- One pick of a script: what happens to the registry, and the index that is picked. -/
structure ScriptedPick where
  index : Option Nat
  actions : List RegistryAction
  deriving Repr

namespace ScriptedPick

/-- The pick after the end of a script. -/
def first : ScriptedPick := ⟨some 0, []⟩

end ScriptedPick

/-- Everything that one selection leaves for the next. -/
structure Balancer where
  registry : Registry
  discovery : Discovery
  rules : RuleBook
  choosers : Choosers
  /-- How often a chooser has picked for a service in turn. -/
  cursors : Table (Nat × String) Nat
  sink : Sink
  /-- The registry has its own measurement counted. -/
  reportsUnderflow : Bool
  /-- The picks that are left of a script. -/
  script : List ScriptedPick
  /-- The pools that scripted picks were made from, the newest first. -/
  seen : List (List Status)
  /-- The time in milliseconds. -/
  clock : Nat
  ambient : Ambient
  /-- The number of random numbers that were used. -/
  rolled : Nat
  /-- The number of dispatches that were timed. -/
  lapsed : Nat
  /-- The number of times that strategies from outside were asked. -/
  asked : Nat

namespace Balancer

/-- A balancer in a world, without instances, rules and measurements. -/
def new (ambient : Ambient) : Balancer where
  registry := .empty
  discovery := .empty
  rules := .empty
  choosers := .withDefaults
  cursors := .empty
  sink := .memory .empty
  reportsUnderflow := true
  script := []
  seen := []
  clock := 0
  ambient
  rolled := 0
  lapsed := 0
  asked := 0

/-- A counter is increased. -/
def count (b : Balancer) (name : String) (tags : Tags) (n : Nat) : Balancer :=
  { b with sink := b.sink.count name tags n }

/-- A time is observed. -/
def time (b : Balancer) (name : String) (tags : Tags) (nanos : Nat) : Balancer :=
  { b with sink := b.sink.time name tags nanos }

/-- The longest pause in milliseconds: thirty years of 365 days. -/
def longestPause : Nat := 946080000000

/-- Time passes, in started milliseconds. -/
def sleep (b : Balancer) (d : Duration) : Balancer :=
  { b with clock := b.clock + min d.milliseconds longestPause }

/-! ### Connections -/

/-- Connections of some instances were to be closed and were not open. -/
def countUnderflows (b : Balancer) (ids : List String) : Balancer :=
  if b.reportsUnderflow then
    ids.foldl (fun b id => b.count Metric.counterUnderflow [("instance", id)] 1) b
  else b

/-- A connection is opened; the answer is the number of open ones. -/
def connect (b : Balancer) (record : Instance) : Nat × Balancer :=
  let (n, registry) := b.registry.connect record
  (n, { b with registry })

/-- A connection is closed; the answer is the number of those still open. -/
def disconnect (b : Balancer) (id : String) : Nat × Balancer :=
  match b.registry.disconnect id with
  | (some n, registry) => (n, { b with registry })
  | (none, registry) => (0, { b with registry }.countUnderflows [id])

/-- The balancer after actions on its registry. -/
def act (b : Balancer) (actions : List RegistryAction) : Balancer :=
  let (registry, missed) := RegistryAction.runAll b.registry actions
  { b with registry }.countUnderflows missed

/-! ### Picks -/

/-- How often a chooser has picked for a service in turn. -/
def cursor (b : Balancer) (serial : Nat) (service : String) : Nat :=
  (b.cursors.get? (serial, service)).getD 0

/-- The next random number below `n`. -/
def roll (b : Balancer) (n : Nat) : Nat × Balancer :=
  (b.ambient.rolls b.rolled % n, { b with rolled := b.rolled + 1 })

/-- The next index below `n` in turn. -/
def turn (b : Balancer) (serial : Nat) (service : String) (n : Nat) : Nat × Balancer :=
  let k := b.cursor serial service
  (k % n, { b with cursors := b.cursors.put (serial, service) (k + 1) })

/-- The next pick of the script, after what it does to the registry. -/
def follow (b : Balancer) (pool : List Status) : Option Nat × Balancer :=
  let (p, rest) := match b.script with
    | p :: rest => (p, rest)
    | [] => (ScriptedPick.first, [])
  (p.index, { b with script := rest, seen := pool :: b.seen }.act p.actions)

/-- The answer of a strategy from outside, after what it does to the registry. -/
def consult (b : Balancer) (advise : Nat → Request → List Status → Registry → Advice)
    (request : Request) (candidates : List Status) : Except Failure Instance × Balancer :=
  let advice := advise b.asked request candidates b.registry
  (advice.answer, { b with asked := b.asked + 1 }.act advice.actions)

/-- The index that a chooser picks out of a pool, which is not empty. -/
def pick (chooser : Chooser) (service : String) (request : Request) (pool : List Status)
    (b : Balancer) : Option Nat × Balancer :=
  match chooser.rule with
  | .random =>
    let (i, b) := b.roll pool.length
    (some i, b)
  | .cyclic =>
    let (i, b) := b.turn chooser.serial service pool.length
    (some i, b)
  | .hashed key => (some (hashIndex (request.hashText key) pool.length), b)
  | .leastLoaded => (leastLoaded pool, b)
  | .never => (none, b)
  | .scripted => b.follow pool
  | .outside _ => (none, b)

end Balancer

end LoadBalancer

import LoadBalancer.Session.Basic

/-!
# Operations of a session

The operations on the parts of a balancer, as steps of a session.

* `Session.observe`, `statusOf`, `connect`, `disconnect`, `mark`, `markInTurn`, `evict` – the
  registry;
* `Session.add`, `remove`, `replace` – the service list;
* `Session.matching` – the rules that apply to a request;
* `Session.count`, `time`, `clearMetrics` – measurements;
* `Session.follow` – the script of scripted picks.
-/

namespace LoadBalancer.Session

/-! ### The registry -/

/-- A step on the registry. -/
def onRegistry {α : Type} (s : Session) (f : Registry → α × Registry) : α × Session :=
  let (a, registry) := f s.balancer.registry
  (a, { s with balancer := { s.balancer with registry } })

/-- Instances are seen under a service. -/
def observe (s : Session) (service : String) (records : List Instance) : Session :=
  (s.onRegistry fun r => ((), r.observe service records)).2

/-- The status of an instance, which becomes known by that. -/
def statusOf (s : Session) (record : Instance) : Status × Session :=
  s.onRegistry (·.statusOf record)

/-- Connections are opened; the answer is the number of open ones after the last. -/
def connect (s : Session) (record : Instance) : (times : Nat) → Nat × Session
  | 0 => (s.balancer.registry.connections record.id, s)
  | times + 1 => connect { s with balancer := (s.balancer.connect record).2 } record times

/-- A connection is closed; the answer is the number of those still open. -/
def disconnect (s : Session) (id : String) : Nat × Session :=
  s.close id

/-- A probe has found out about the health of an instance; the answer is the health before. -/
def mark (s : Session) (id : String) (health : Health) : Option Health × Session :=
  s.onRegistry (·.mark id health)

/-- An instance is found alive and dead in turn; the answer is the health before the last time. -/
def markInTurn (s : Session) (id : String) (alive : Bool) (last : Option Health) :
    (times : Nat) → Option Health × Session
  | 0 => (last, s)
  | times + 1 =>
    let (before, s) := s.mark id (Health.ofVerdict (some alive))
    markInTurn s id (!alive) before times

/-- An instance without open connections is forgotten; the answer says whether it was. -/
def evict (s : Session) (id : String) : Bool × Session :=
  s.onRegistry (·.evict id)

/-! ### The service list -/

/-- A step on the service list. -/
def onDiscovery {α : Type} (s : Session) (f : Discovery → α × Discovery) : α × Session :=
  let (a, discovery) := f s.balancer.discovery
  (a, { s with balancer := { s.balancer with discovery } })

/-- An instance is added to its service, or replaces the one with its id. -/
def add (s : Session) (record : Instance) : Session :=
  (s.onDiscovery fun d => ((), d.add record)).2

/-- An instance is removed; the answer says whether it was there. -/
def remove (s : Session) (service id : String) : Bool × Session :=
  s.onDiscovery (·.remove service id)

/-- The list of a service is replaced. -/
def replace (s : Session) (service : String) (records : List Instance) : Session :=
  (s.onDiscovery fun d => ((), d.replace service records)).2

/-! ### Rules, measurements and scripts -/

/-- The names of the rules of a set that apply to a request. -/
def matching (s : Session) (request : Request) (set : String) : List String × Session :=
  s.onRegistry (s.balancer.rules.matching request set)

/-- A counter is increased. -/
def count (s : Session) (name : String) (tags : Tags) (n : Nat) : Session :=
  { s with balancer := s.balancer.count name tags n }

/-- A time is observed. -/
def time (s : Session) (name : String) (tags : Tags) (nanos : Nat) : Session :=
  { s with balancer := s.balancer.time name tags nanos }

/-- The measurements in memory are forgotten. -/
def clearMetrics (s : Session) : Session :=
  { s with balancer := { s.balancer with sink := s.balancer.sink.clear } }

/-- Scripted picks follow another script. -/
def follow (s : Session) (script : List ScriptedPick) : Session :=
  { s with balancer := { s.balancer with script } }

end LoadBalancer.Session

import LoadBalancer.Channel
import LoadBalancer.Health
import LoadBalancer.Instance
import LoadBalancer.Table

/-!
# The registry of load and health

What is known about instances while they serve requests: open connections, health, and the services
under which they were seen.

* `Entry` – what is known about one instance;
* `Registry` – all entries, and the ids of instances that were seen under each service;
* `Registry.observe`, `connect`, `disconnect`, `mark`, `evict` – the operations;
* `Registry.statusOf` – the status of an instance, which becomes known by that.

An instance that is forgotten is taken out of the list of the service under which it became known.
Other lists may keep its id, which counts for nothing until the instance becomes known again.
-/

namespace LoadBalancer

/-- What is known about an instance. -/
structure Entry where
  /-- The latest record of it. -/
  record : Instance
  /-- The service under which it became known. -/
  service : String
  /-- The number of open connections. -/
  connections : Nat
  /-- The number of connections that were ever opened. -/
  total : Nat
  health : Health
  deriving DecidableEq, Repr

namespace Entry

/-- An instance that has just become known. -/
def fresh (service : String) (record : Instance) : Entry :=
  ⟨record, service, 0, 0, .unknown⟩

end Entry

/-- The load and health of an instance at some moment. -/
structure Status where
  record : Instance
  connections : Nat
  health : Health
  deriving DecidableEq, Repr

namespace Status

/-- The id of the instance. -/
def id (s : Status) : String := s.record.id

/-- The instance may get requests. -/
def isReachable (lenient : Bool) (s : Status) : Bool := s.health.isReachable lenient

end Status

/-- The load and health of an entry. -/
def Entry.status (e : Entry) : Status := ⟨e.record, e.connections, e.health⟩

/-- The health of an instance has changed. -/
structure HealthChange where
  id : String
  service : String
  old : Health
  new : Health
  deriving DecidableEq, Repr

/-- What is known about instances. -/
structure Registry where
  entries : Table String Entry
  /-- The ids that were seen under a service, in the order in which they came. -/
  members : Table String (List String)
  changes : Channel HealthChange

namespace Registry

/-- The number of health changes that are kept for readers. -/
def keptChanges : Nat := 1024

/-- Nothing is known. -/
def empty : Registry := ⟨.empty, .empty, .new keptChanges⟩

/-! ### Reading -/

/-- What is known about an instance. -/
def known? (r : Registry) (id : String) : Option Entry := r.entries.get? id

/-- The number of open connections. -/
def connections (r : Registry) (id : String) : Nat :=
  match r.known? id with
  | some e => e.connections
  | none => 0

/-- The instance is known and may get requests. -/
def isAlive (r : Registry) (lenient : Bool) (id : String) : Bool :=
  match r.known? id with
  | some e => e.health.isReachable lenient
  | none => false

/-- The ids that were seen under a service. -/
def membersOf (r : Registry) (service : String) : List String :=
  (r.members.get? service).getD []

/-- The entries of a service. -/
def entriesOf (r : Registry) (service : String) : List Entry :=
  (r.membersOf service).filterMap r.known?

/-- The status of every known instance of a service. -/
def all (r : Registry) (service : String) : List Status :=
  (r.entriesOf service).map Entry.status

/-- The status of every instance of a service that may get requests. -/
def reachable (r : Registry) (lenient : Bool) (service : String) : List Status :=
  (r.all service).filter (Status.isReachable lenient)

/-! ### Operations -/

/-- The registry with an id in the list of a service. -/
def addMember (r : Registry) (service id : String) : Registry :=
  let ids := r.membersOf service
  { r with members := r.members.put service (if id ∈ ids then ids else ids ++ [id]) }

/-- An instance is seen under a service: it becomes known, or its record is brought up to date. -/
def observeOne (service : String) (r : Registry) (record : Instance) : Registry :=
  let entry := match r.known? record.id with
    | some e => { e with record }
    | none => Entry.fresh service record
  { r with entries := r.entries.put record.id entry }.addMember service record.id

/-- Instances are seen under a service. -/
def observe (r : Registry) (service : String) (records : List Instance) : Registry :=
  records.foldl (observeOne service) r

/-- The registry with an instance known, under its own service if it has to become known. -/
def ensure (r : Registry) (record : Instance) : Registry :=
  match r.known? record.id with
  | some _ => r
  | none => observeOne record.service r record

/-- The status of an instance, which becomes known by that. The record is the one that was seen
last. -/
def statusOf (r : Registry) (record : Instance) : Status × Registry :=
  let r := r.ensure record
  match r.known? record.id with
  | some e => (e.status, r)
  | none => (⟨record, 0, .unknown⟩, r)

/-- The statuses of several instances, in turn. -/
def statusesOf (r : Registry) : List Instance → List Status × Registry
  | [] => ([], r)
  | record :: rest =>
    let (s, r) := r.statusOf record
    let (ss, r) := statusesOf r rest
    (s :: ss, r)

/-- A connection is opened; the answer is the number of open ones. -/
def connect (r : Registry) (record : Instance) : Nat × Registry :=
  let r := r.ensure record
  match r.known? record.id with
  | some e =>
    let e := { e with connections := e.connections + 1, total := e.total + 1 }
    (e.connections, { r with entries := r.entries.put record.id e })
  | none => (0, r)

/-- A connection is closed; the answer is the number of those still open, or nothing if there was
none to close. -/
def disconnect (r : Registry) (id : String) : Option Nat × Registry :=
  match r.known? id with
  | some e =>
    if e.connections = 0 then (none, r)
    else
      let e := { e with connections := e.connections - 1 }
      (some e.connections, { r with entries := r.entries.put id e })
  | none => (none, r)

/-- A probe has found out about the health of an instance; the answer is the health before. A change
is announced. -/
def mark (r : Registry) (id : String) (health : Health) : Option Health × Registry :=
  match r.known? id with
  | some e =>
    let changes :=
      if e.health = health then r.changes else r.changes.send ⟨id, e.service, e.health, health⟩
    (some e.health, { r with entries := r.entries.put id { e with health }, changes })
  | none => (none, r)

/-- The registry without an id in the list of a service, and without the list if it is empty then. -/
def removeMember (r : Registry) (service id : String) : Registry :=
  match r.members.get? service with
  | some ids =>
    let ids := ids.filter (· ≠ id)
    { r with members := if ids.isEmpty then r.members.erase service else r.members.put service ids }
  | none => r

/-- An instance without open connections is forgotten; the answer says whether it was. -/
def evict (r : Registry) (id : String) : Bool × Registry :=
  match r.known? id with
  | some e =>
    if e.connections = 0 then
      (true, { r with entries := r.entries.erase id }.removeMember e.service id)
    else (false, r)
  | none => (false, r)

/-! ### Laws -/

theorem known?_observeOne_of_ne (r : Registry) (service : String) {record : Instance} {id : String}
    (h : record.id ≠ id) : (observeOne service r record).known? id = r.known? id := by
  simp [observeOne, addMember, known?, Table.get?_put, h]

/-- A refused eviction changes nothing. -/
theorem evict_eq_self {r : Registry} {id : String} (h : (r.evict id).1 = false) :
    (r.evict id).2 = r := by
  unfold evict at *
  split
  · split <;> simp_all
  · rfl

/-- What may get requests is part of what is known. -/
theorem reachable_sublist (r : Registry) (lenient : Bool) (service : String) :
    (r.reachable lenient service).Sublist (r.all service) :=
  List.filter_sublist

end Registry

end LoadBalancer

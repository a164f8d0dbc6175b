import LoadBalancer.Number.Word
import LoadBalancer.Registry.Basic

/-!
# Reports on the registry

* `Registry.stats` – counts over all instances;
* `Registry.snapshot` – what is known about every instance of a service.
-/

namespace LoadBalancer

/-- Counts over all instances. -/
structure RegistryStats where
  services : Nat
  instances : Nat
  healthy : Nat
  unhealthy : Nat
  unknown : Nat
  connections : Nat
  deriving DecidableEq, Repr

/-- What a snapshot shows of an instance. -/
structure InstanceReport where
  id : String
  address : String
  connections : Nat
  total : Nat
  health : Health
  /-- A connection has been opened since the instance became known. -/
  hasConnected : Bool
  deriving DecidableEq, Repr

/-- What a snapshot shows of an entry. -/
def Entry.report (e : Entry) : InstanceReport :=
  ⟨e.record.id, e.record.authority, e.connections, e.total, e.health, 0 < e.total⟩

namespace Registry

/-- The number of instances with a health. -/
def countHealth (r : Registry) (h : Health) : Nat :=
  r.entries.values.countP (·.health = h)

/-- Counts over all instances. -/
def stats (r : Registry) : RegistryStats :=
  { services := r.members.size
    instances := r.entries.size
    healthy := r.countHealth .healthy
    unhealthy := r.countHealth .unhealthy
    unknown := r.countHealth .unknown
    connections := sumOf (r.entries.values.map Entry.connections) }

/-- What is known about every instance of a service. -/
def snapshot (r : Registry) (service : String) : List InstanceReport :=
  (r.entriesOf service).map Entry.report

/-- Every instance is counted under one health. -/
theorem instances_eq_sum (r : Registry) :
    r.stats.instances = r.stats.healthy + r.stats.unhealthy + r.stats.unknown := by
  simp only [stats, countHealth, Table.size, Table.values]
  induction r.entries.entries with
  | nil => rfl
  | cons e rest ih =>
    simp only [List.length_cons, List.map_cons, List.countP_cons, ih]
    cases e.2.health <;> simp <;> omega

end Registry

end LoadBalancer

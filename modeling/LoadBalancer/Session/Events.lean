import LoadBalancer.Session.Basic

/-!
# What has happened in a session

* `Session.subscribe`, `Session.healthChanges` – changes of health, for a named reader;
* `Session.watch`, `Session.serviceChanges` – changes of the service list, for a named reader;
* `Session.slept` – the time that has passed;
* `Session.seen` – the pools that scripted picks were made from.
-/

namespace LoadBalancer.Session

/-- A reader of health changes joins. -/
def subscribe (s : Session) (name : String) : Session :=
  { s with healthReaders := s.healthReaders.put name s.balancer.registry.changes.subscribe }

/-- The health changes that a reader has not seen. -/
def healthChanges (s : Session) (name : String) : Batch HealthChange × Session :=
  match s.healthReaders.get? name with
  | some r =>
    let (batch, r) := s.balancer.registry.changes.read r
    (batch, { s with healthReaders := s.healthReaders.put name r })
  | none => (⟨0, []⟩, s)

/-- A reader of changes of the service list joins. -/
def watch (s : Session) (name : String) : Session :=
  { s with serviceReaders := s.serviceReaders.put name s.balancer.discovery.changes.subscribe }

/-- The changes of the service list that a reader has not seen. -/
def serviceChanges (s : Session) (name : String) : Batch ServiceChange × Session :=
  match s.serviceReaders.get? name with
  | some r =>
    let (batch, r) := s.balancer.discovery.changes.read r
    (batch, { s with serviceReaders := s.serviceReaders.put name r })
  | none => (⟨0, []⟩, s)

/-- The milliseconds that have passed since they were last asked for. -/
def slept (s : Session) : Nat × Session :=
  (s.balancer.clock - s.askedAt, { s with askedAt := s.balancer.clock })

/-- The pools that scripted picks were made from since they were last asked for. -/
def seen (s : Session) : List (List Status) × Session :=
  (s.balancer.seen.reverse, { s with balancer := { s.balancer with seen := [] } })

end LoadBalancer.Session

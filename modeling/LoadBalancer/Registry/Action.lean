import LoadBalancer.Registry.Basic

/-!
# Actions on the registry

* `RegistryAction` – an operation on the registry with its arguments;
* `RegistryAction.run`, `RegistryAction.runAll` – the registry after one or several of them, and the
  ids whose connections were to be closed and were not open.
-/

namespace LoadBalancer

/-- An operation on the registry. -/
inductive RegistryAction where
  | observe (service : String) (records : List Instance)
  | status (record : Instance)
  | connect (record : Instance)
  | disconnect (id : String)
  | mark (id : String) (health : Health)
  | evict (id : String)
  deriving Repr

namespace RegistryAction

/-- The registry after an operation, and the ids whose connection was to be closed in vain. -/
def run (r : Registry) : RegistryAction → Registry × List String
  | observe service records => (r.observe service records, [])
  | status record => ((r.statusOf record).2, [])
  | connect record => ((r.connect record).2, [])
  | disconnect id =>
    match r.disconnect id with
    | (some _, r) => (r, [])
    | (none, r) => (r, [id])
  | mark id health => ((r.mark id health).2, [])
  | evict id => ((r.evict id).2, [])

/-- The registry after operations in turn, and the ids whose connections were to be closed in
vain. -/
def runAll (r : Registry) : List RegistryAction → Registry × List String
  | [] => (r, [])
  | a :: rest =>
    let (r, missed) := run r a
    let (r, later) := runAll r rest
    (r, missed ++ later)

end RegistryAction

end LoadBalancer

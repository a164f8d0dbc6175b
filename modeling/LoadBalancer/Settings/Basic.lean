import LoadBalancer.Settings.Policy
import LoadBalancer.Settings.Reporting

/-!
# Settings

* `Route` – a service with the policy of choosing among its instances;
* `Settings` – routes, and what is reported;
* `Settings.faults`, `Settings.validate` – what makes settings unusable;
* `Settings.ofNode`, `Settings.toNode` – settings from a document and as one.
-/

namespace LoadBalancer

open LoadBalancer.Text LoadBalancer.Document

/-- A service with the policy of choosing among its instances. -/
structure Route where
  id : String
  service : String
  policy : Policy
  deriving DecidableEq, Repr

namespace Route

/-- The fields of a route, in order. -/
def fields : List (RecordField Route) :=
  [.needed "id" readText fun v r => { r with id := v },
   .needed "service_id" readText fun v r => { r with service := v },
   .optional "selection" [] Policy.ofNode fun v r => { r with policy := v }]

/-- A route from a document. -/
def ofNode : Reading Route :=
  readRecord fields ⟨"", "", .default⟩

/-- The route as a document. -/
def toNode (r : Route) : Node :=
  .record
    [(.scalar (.text "id"), .scalar (.text r.id)),
     (.scalar (.text "service_id"), .scalar (.text r.service)),
     (.scalar (.text "selection"), r.policy.toNode)]
    true

end Route

/-- All settings of a balancer. -/
structure Settings where
  routes : List Route
  reporting : Reporting
  deriving DecidableEq, Repr

namespace Settings

/-- The settings when nothing is said about them. -/
def default : Settings := ⟨[], .default⟩

instance : Inhabited Settings := ⟨default⟩

/-- The route with an id; the first one counts. -/
def route? (s : Settings) (id : String) : Option Route :=
  s.routes.find? (·.id == id)

/-! ### Validity -/

/-- What makes settings unusable. -/
inductive Fault where
  | blankId (index : Nat)
  | repeatedId (id : String)
  | blankService (id : String)
  | policy (id : String) (fault : Policy.Fault)
  deriving DecidableEq, Repr

/-- The wording of a fault. -/
def Fault.message : Fault → String
  | .blankId i => s!"Route {i} has empty id"
  | .repeatedId id => s!"Duplicate route id found: {id}"
  | .blankService id => s!"Route '{id}' has empty service_id"
  | .policy id f => s!"Route '{id}': {f.message}"

/-- The fault of an id, after the ids of earlier routes. -/
def idFaults (earlier : List String) (index : Nat) (id : String) : List Fault :=
  if isBlankText id then [.blankId index]
  else if earlier.contains id then [.repeatedId id]
  else []

/-- The faults of one route. -/
def routeFaults (earlier : List String) (index : Nat) (r : Route) : List Fault :=
  idFaults earlier index r.id ++
  (if isBlankText r.service then [.blankService r.id] else []) ++
  r.policy.faults.map (.policy r.id)

/-- The faults of routes that follow others with the ids `earlier`. -/
def faultsFrom (earlier : List String) (index : Nat) : List Route → List Fault
  | [] => []
  | r :: rest => routeFaults earlier index r ++ faultsFrom (r.id :: earlier) (index + 1) rest

/-- All faults, in the order of the routes. -/
def faults (s : Settings) : List Fault :=
  faultsFrom [] 0 s.routes

/-- No error if the settings can be used. -/
def validate (s : Settings) : Except Error Unit :=
  Policy.checkNone (s.faults.map Fault.message)

/-! ### Documents -/

/-- The fields of settings, in order. -/
def fields : List (RecordField Settings) :=
  [.optional "routes" [] (readList Route.ofNode) fun v s => { s with routes := v },
   .optional "observability" [] Reporting.ofNode fun v s => { s with reporting := v }]

/-- Settings from a document. -/
def ofNode : Reading Settings :=
  readRecord fields default

/-- The settings as a document. -/
def toNode (s : Settings) : Node :=
  .record
    [(.scalar (.text "routes"), .list false (s.routes.map Route.toNode) true),
     (.scalar (.text "observability"), s.reporting.toNode)]
    true

/-! ### Laws -/

/-- Settings are valid exactly if they have no fault. -/
theorem validate_eq_ok {s : Settings} : s.validate = .ok () ↔ s.faults = [] := by
  simp [validate, Policy.checkNone_eq_ok]

end Settings

end LoadBalancer

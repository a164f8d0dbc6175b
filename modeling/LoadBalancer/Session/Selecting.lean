import LoadBalancer.Session.Basic

/-!
# Selecting in a session

* `Session.route`, `Session.routeMany` – an instance for a request by a named route, once or several
  times;
* `Session.select` – an instance of a given service;
* `Session.choose` – one of some candidates, without a connection.
-/

namespace LoadBalancer

/-- An instance that was chosen, and the number of open connections to it. -/
structure Chosen where
  id : String
  connections : Nat
  deriving DecidableEq, Repr

namespace Session

variable [Url.DomainNames]

/-- The number of open connections to a chosen instance, which is then held or closed. -/
def settle (s : Session) (name : Option String) (record : Instance) : Chosen × Session :=
  (⟨record.id, s.balancer.registry.connections record.id⟩, s.keep name record)

/-- A written request. -/
def request? (text : RequestText) : Except Refusal Request :=
  (Request.read text).mapError .request

/-- A route and a request; a route that is missing counts before a request that is malformed. -/
def prepare (s : Session) (route : String) (text : RequestText) :
    Except Refusal (BoundRoute × Request) := do
  return (← s.route? route, ← request? text)

/-! ### With a connection -/

/-- An instance for a request by a route; the target of the request is part of the answer. -/
def route (s : Session) (route : String) (text : RequestText) (name : Option String) :
    Except Refusal (Except Failure Chosen × Url) × Session :=
  match s.prepare route text with
  | .error e => (.error e, s)
  | .ok (bound, request) =>
    match s.balancer.route request bound with
    | (.ok record, request, balancer) =>
      let (chosen, s) := { s with balancer }.settle name record
      (.ok (.ok chosen, request.target), s)
    | (.error f, request, balancer) => (.ok (.error f, request.target), { s with balancer })

/-- An instance of a service for a request by a route. -/
def select (s : Session) (route service : String) (text : RequestText) (name : Option String) :
    Except Refusal Chosen × Session :=
  match s.prepare route text with
  | .error e => (.error e, s)
  | .ok (bound, request) =>
    match s.balancer.select service request bound with
    | (.ok record, balancer) =>
      let (chosen, s) := { s with balancer }.settle name record
      (.ok chosen, s)
    | (.error f, balancer) => (.error (.failure f), { s with balancer })

/-- The same request is routed `n` more times, `i` times having gone before. Selections are held under
names that `name` makes of their positions, or closed. -/
def routeTimes (bound : BoundRoute) (request : Request) (name : Nat → Option String) :
    (n i : Nat) → Session → List (Except Failure Instance) × Session
  | 0, _, s => ([], s)
  | n + 1, i, s =>
    let (result, _, balancer) := s.balancer.route request bound
    let s := { s with balancer }
    let s := match result with
      | .ok record => s.keep (name i) record
      | .error _ => s
    let (results, s) := routeTimes bound request name n (i + 1) s
    (result :: results, s)

/-- A request is routed several times. -/
def routeMany (s : Session) (route : String) (text : RequestText) (times : Nat)
    (name : Nat → Option String) : Except Refusal (List (Except Failure Instance)) × Session :=
  match s.prepare route text with
  | .error e => (.error e, s)
  | .ok (bound, request) =>
    let (results, s) := routeTimes bound request name times 0 s
    (.ok results, s)

/-! ### Without a connection -/

/-- The chooser of a named algorithm; the script has one of its own. -/
def chooser? (s : Session) : Option String → Except Error Chooser
  | some name => do s.balancer.choosers.resolve (← Algorithm.read name)
  | none => .ok ⟨s.balancer.choosers.made, .scripted⟩

/-- Instances as candidates that nothing is known about. -/
def unseen (records : List Instance) : List Status :=
  records.map fun r => ⟨r, 0, .unknown⟩

/-- One of some candidates is chosen several times. -/
def choose (s : Session) (chooser : Chooser) (service : String) (policy : Policy)
    (request : Request) (records : List Instance) :
    (times : Nat) → List (Except Failure Instance) × Session
  | 0 => ([], s)
  | times + 1 =>
    let (result, balancer) :=
      s.balancer.choose chooser service policy request (unseen records)
    let (results, s) := choose { s with balancer } chooser service policy request records times
    (result :: results, s)

end Session

end LoadBalancer

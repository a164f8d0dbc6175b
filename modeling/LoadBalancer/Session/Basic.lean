import LoadBalancer.Balancer.Routing

/-!
# Sessions

A balancer in use: routes by name, selections that are held under names, and readers of
announcements.

* `Session` – the balancer with all of these;
* `Setup` – how a session begins;
* `Session.bind` – a route gets a name;
* `Session.hold`, `release`, `parts`, `exchange` – what becomes of an open connection.

A selection that is not held is closed at the end of the step. One that takes the place of another
under its name is opened before the other is closed.
-/

namespace LoadBalancer

/-- An open connection that is held. -/
structure Held where
  id : String
  /-- The instance, if it was selected and not merely connected to. -/
  record : Option Instance
  deriving DecidableEq, Repr

/-- A balancer in use. -/
structure Session where
  balancer : Balancer
  routes : Table String BoundRoute
  held : Table String Held
  healthReaders : Table String Reader
  serviceReaders : Table String Reader
  /-- The time until which sleep has been asked for. -/
  askedAt : Nat

/-- Why a step has no result. -/
inductive Refusal where
  /-- Nothing is held under the name. -/
  | noSelection
  /-- No route has the name. -/
  | noRoute
  /-- The request is malformed. -/
  | request (fault : RequestFault)
  /-- No instance can be chosen. -/
  | failure (failure : Failure)
  /-- There is no chooser. -/
  | error (error : Error)
  deriving DecidableEq, Repr

/-! ### The beginning -/

/-- How a session begins. -/
structure Setup where
  sink : Sink
  reportsUnderflow : Bool
  choosers : Choosers
  /-- Strategies to be registered under names of algorithms. -/
  registrations : List (String × Strategy)
  rules : RuleBook
  records : List Instance
  /-- The services whose list cannot be had. -/
  failing : List String

namespace Setup

/-- The session of a setup, and which of the registrations were possible. -/
def start (s : Setup) (ambient : Ambient) : List (Except Error Unit) × Session :=
  let (answers, choosers) := s.choosers.registerAll s.registrations
  let discovery := { s.records.foldl Discovery.add Discovery.empty with failing := s.failing }
  let balancer := { Balancer.new ambient with
    sink := s.sink, reportsUnderflow := s.reportsUnderflow, choosers, rules := s.rules, discovery }
  (answers, ⟨balancer, .empty, .empty, .empty, .empty, 0⟩)

end Setup

namespace Session

/-! ### Routes -/

/-- A policy is bound under a name. An error leaves what has the name. -/
def bind (s : Session) (name : String) (policy : Policy) : Except Error BoundRoute × Session :=
  match s.balancer.bind policy with
  | .ok route => (.ok route, { s with routes := s.routes.put name route })
  | .error e => (.error e, s)

/-- The route of a name. -/
def route? (s : Session) (name : String) : Except Refusal BoundRoute :=
  match s.routes.get? name with
  | some r => .ok r
  | none => .error .noRoute

/-! ### Connections -/

/-- A connection is closed; the answer is the number of those still open. -/
def close (s : Session) (id : String) : Nat × Session :=
  let (n, balancer) := s.balancer.disconnect id
  (n, { s with balancer })

/-- A connection is held under a name. -/
def hold (s : Session) (name : String) (h : Held) : Session :=
  let s := match s.held.get? name with
    | some old => (s.close old.id).2
    | none => s
  { s with held := s.held.put name h }

/-- A new selection is held under a name, or closed if it has none. -/
def keep (s : Session) (name : Option String) (record : Instance) : Session :=
  match name with
  | some name => s.hold name ⟨record.id, some record⟩
  | none => (s.close record.id).2

/-- What is held under a name. -/
def held? (s : Session) (name : String) : Except Refusal Held :=
  match s.held.get? name with
  | some h => .ok h
  | none => .error .noSelection

/-- What is held under a name, with the instance, if it was selected. -/
def selection? (s : Session) (name : String) : Except Refusal (Held × Instance) :=
  match s.held.get? name with
  | some ⟨id, some record⟩ => .ok (⟨id, some record⟩, record)
  | _ => .error .noSelection

/-- The session without what is held under a name; its connection is left alone. -/
def forget (s : Session) (name : String) : Session :=
  { s with held := s.held.erase name }

/-- A held connection is closed; the answer is the number of those still open. -/
def release (s : Session) (name : String) : Except Refusal Nat × Session :=
  match s.held? name with
  | .ok h =>
    let (n, s) := (s.forget name).close h.id
    (.ok n, s)
  | .error e => (.error e, s)

/-- The instance of a held selection; from now on only its connection is held. -/
def parts (s : Session) (name : String) : Except Refusal Instance × Session :=
  match s.selection? name with
  | .ok (h, record) => (.ok record, { s with held := s.held.put name { h with record := none } })
  | .error e => (.error e, s)

/-- A connection to an instance is opened and held. -/
def openConnection (s : Session) (name : String) (record : Instance) : Session :=
  let (_, balancer) := s.balancer.connect record
  { s with balancer }.hold name ⟨record.id, none⟩

/-- How an exchange over a held selection ends. -/
inductive Ending where
  /-- It succeeds or fails. -/
  | finished
  /-- It takes longer than a limit. -/
  | timedOut
  /-- It is given up before it begins. -/
  | abandoned
  deriving DecidableEq, Repr

/-- The milliseconds after which an exchange is given up. -/
def exchangeLimit : Nat := 10

/-- The milliseconds that an exchange takes. -/
def Ending.duration : Ending → Nat
  | .timedOut => exchangeLimit
  | _ => 0

/-- An exchange over a held selection, whose connection is closed at the end; the answer is the number
of open connections while it lasted. -/
def exchange (s : Session) (name : String) (ending : Ending) : Except Refusal Nat × Session :=
  match s.selection? name with
  | .ok (h, _) =>
    let during := s.balancer.registry.connections h.id
    let balancer := { s.balancer with clock := s.balancer.clock + ending.duration }
    (.ok during, (({ s with balancer }.forget name).close h.id).2)
  | .error e => (.error e, s)

end Session

end LoadBalancer

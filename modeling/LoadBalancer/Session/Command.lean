import LoadBalancer.Diagnostics
import LoadBalancer.Session.Step

/-!
# Commands to a session

What clients get to know of a session: every step has an answer, and so has every question, which
leaves the session alone.

* `Reply` – an answer;
* `SessionStep.answer` – the answer to a step;
* `SessionQuery`, `SessionQuery.answer` – a question about a session, and its answer;
* `SessionCommand` – a step or a question; `SessionCommand.run` – the session after it;
* `SessionCommand.transcript` – commands in turn, with their answers.
-/

namespace LoadBalancer

variable [Url.DomainNames]

/-- What a client is told. -/
inductive Reply where
  | done
  | flag (answer : Bool)
  | number (n : Nat)
  | numbers (ns : List Nat)
  | texts (ts : List String)
  | bound (result : Except Error BoundRoute)
  | routed (result : Except Refusal (Except Failure Chosen × Url))
  | selected (result : Except Refusal Chosen)
  | routedOften (results : Except Refusal (List (Except Failure Instance)))
  | chosen (results : Except Error (List (Except Failure Instance)))
  | closed (connections : Except Refusal Nat)
  | selection (record : Except Refusal Instance)
  | held (h : Except Refusal Held)
  | diagnostics (t : Except Refusal String)
  | chooser (c : Except Error Chooser)
  | algorithms (as : List Algorithm)
  | records (rs : List Instance)
  | status (s : Status)
  | statuses (ss : List Status)
  | pools (ps : List (List Status))
  | reports (rs : List InstanceReport)
  | stats (s : RegistryStats)
  | health (before : Option Health)
  | healthChanges (batch : Batch HealthChange)
  | serviceChanges (batch : Batch ServiceChange)

/-! ### Steps -/

/-- The answer to a step. -/
def SessionStep.answer (s : Session) : SessionStep → Reply
  | .bind name policy => .bound (s.bind name policy).1
  | .route bound text name => .routed (s.route bound text name).1
  | .routeMany bound text times name => .routedOften (s.routeMany bound text times name).1
  | .select bound service text name => .selected (s.select bound service text name).1
  | .choose algorithm service policy request records times =>
    .chosen ((s.chooser? algorithm).map fun chooser =>
      (s.choose chooser service policy request records times).1)
  | .release name => .closed (s.release name).1
  | .parts name => .selection (s.parts name).1
  | .exchange name ending => .closed (s.exchange name ending).1
  | .status record => .status (s.statusOf record).1
  | .connect record times => .number (s.connect record times).1
  | .disconnect id => .number (s.disconnect id).1
  | .mark id health => .health (s.mark id health).1
  | .markInTurn id times => .health (s.markInTurn id true none times).1
  | .evict id => .flag (s.evict id).1
  | .remove service id => .flag (s.remove service id).1
  | .matching request set => .texts (s.matching request set).1
  | .healthChanges name => .healthChanges (s.healthChanges name).1
  | .serviceChanges name => .serviceChanges (s.serviceChanges name).1
  | .slept => .number s.slept.1
  | .seen => .pools s.seen.1
  | _ => .done

/-! ### Questions -/

/-- A part of a session that has a text for developers. -/
inductive SessionPart where
  | registry
  | choosers
  | balancer
  | route (name : String)
  deriving DecidableEq, Repr

/-- A question about a session. -/
inductive SessionQuery where
  | isAlive (lenient : Bool) (id : String)
  | connections (id : String)
  | all (service : String)
  | reachable (lenient : Bool) (service : String)
  | snapshot (service : String)
  | stats
  | list (service : String)
  | algorithms
  | hasFallback
  /-- The chooser of a named algorithm. -/
  | resolve (algorithm : String)
  | rules (set : String)
  | held (name : String)
  | diagnostics (part : SessionPart)
  /-- The total of the counters of a name with all tags of a filter. -/
  | total (name : String) (filter : Tags)
  /-- The observations of the timers of a name with all tags of a filter. -/
  | timings (name : String) (filter : Tags)
  | exposition
  deriving DecidableEq, Repr

/-- The text of a part. -/
def SessionPart.text (s : Session) : SessionPart → Except Refusal String
  | .registry => .ok s.balancer.registry.diagnostics
  | .choosers => .ok s.balancer.choosers.diagnostics
  | .balancer => .ok s.balancer.diagnostics
  | .route name => (s.route? name).map BoundRoute.diagnostics

namespace SessionQuery

/-- The answer to a question. -/
def answer (s : Session) : SessionQuery → Reply
  | isAlive lenient id => .flag (s.balancer.registry.isAlive lenient id)
  | connections id => .number (s.balancer.registry.connections id)
  | all service => .statuses (s.balancer.registry.all service)
  | reachable lenient service => .statuses (s.balancer.registry.reachable lenient service)
  | snapshot service => .reports (s.balancer.registry.snapshot service)
  | stats => .stats s.balancer.registry.stats
  | list service => .records (s.balancer.discovery.list service)
  | algorithms => .algorithms s.balancer.choosers.algorithms
  | hasFallback => .flag s.balancer.choosers.fallback.isSome
  | resolve algorithm => .chooser ((Algorithm.read algorithm).bind s.balancer.choosers.resolve)
  | rules set => .texts ((s.balancer.rules.rules set).map Rule.diagnostics)
  | held name => .held (s.held? name)
  | diagnostics part => .diagnostics (part.text s)
  | total name filter => .number (s.balancer.sink.total name filter)
  | timings name filter => .numbers (s.balancer.sink.timings name filter)
  | exposition => .texts s.balancer.sink.exposition

/-- The question reads measurements. -/
def readsMetrics : SessionQuery → Bool
  | total _ _ => true
  | timings _ _ => true
  | exposition => true
  | _ => false

end SessionQuery

/-! ### Commands -/

/-- A step or a question. -/
inductive SessionCommand where
  | step (t : SessionStep)
  | ask (q : SessionQuery)

namespace SessionCommand

/-- The session after a command. -/
def run (s : Session) : SessionCommand → Session
  | step t => t.run s
  | ask _ => s

/-- The answer to a command. -/
def answer (s : Session) : SessionCommand → Reply
  | step t => t.answer s
  | ask q => q.answer s

/-- Commands in turn, with their answers. -/
def transcript (s : Session) : List SessionCommand → List (SessionCommand × Reply)
  | [] => []
  | c :: rest => (c, c.answer s) :: transcript (c.run s) rest

/-- The measurements in memory are forgotten. -/
def clearsMetrics : SessionCommand → Bool
  | step .clearMetrics => true
  | _ => false

/-- The command is about measurements that were made. -/
def isAboutMetrics : SessionCommand → Bool
  | ask q => q.readsMetrics
  | c => c.clearsMetrics

end SessionCommand

end LoadBalancer

import LoadBalancer.Session.Events
import LoadBalancer.Session.Operation
import LoadBalancer.Session.Selecting

/-!
# Steps of a session

Everything that clients may do with a session, one after the other. Operations that only read leave
the session alone, and are no steps.

* `SessionStep` – an operation on a session with its arguments;
* `SessionStep.run`, `SessionStep.runAll` – the session after one or several of them;
* `Session.Reachable` – the sessions that come up in use.
-/

namespace LoadBalancer

/-- An operation on a session. -/
inductive SessionStep where
  /-- A policy is bound under a name. -/
  | bind (name : String) (policy : Policy)
  /-- An instance for a request by a named route, to be held under a name. -/
  | route (route : String) (text : RequestText) (name : Option String)
  | routeMany (route : String) (text : RequestText) (times : Nat) (name : Nat → Option String)
  /-- An instance of a service for a request by a named route, to be held under a name. -/
  | select (route service : String) (text : RequestText) (name : Option String)
  /-- One of some candidates is chosen several times, by the chooser of a named algorithm. -/
  | choose (algorithm : Option String) (service : String) (policy : Policy) (request : Request)
      (records : List Instance) (times : Nat)
  | openConnection (name : String) (record : Instance)
  | release (name : String)
  | parts (name : String)
  | exchange (name : String) (ending : Session.Ending)
  | observe (service : String) (records : List Instance)
  | status (record : Instance)
  /-- Connections are opened that nothing holds. -/
  | connect (record : Instance) (times : Nat)
  /-- A connection is closed that nothing holds. -/
  | disconnect (id : String)
  | mark (id : String) (health : Health)
  | markInTurn (id : String) (times : Nat)
  | evict (id : String)
  | add (record : Instance)
  | remove (service id : String)
  | replace (service : String) (records : List Instance)
  /-- The rules of a set are asked about a request. -/
  | matching (request : Request) (set : String)
  | count (name : String) (tags : Tags) (n : Nat)
  | time (name : String) (tags : Tags) (nanos : Nat)
  | clearMetrics
  | follow (script : List ScriptedPick)
  | subscribe (name : String)
  | healthChanges (name : String)
  | watch (name : String)
  | serviceChanges (name : String)
  | slept
  | seen

namespace SessionStep

variable [Url.DomainNames]

/-- The session after an operation. -/
def run (s : Session) : SessionStep → Session
  | .bind name policy => (s.bind name policy).2
  | .route bound text name => (s.route bound text name).2
  | .routeMany bound text times name => (s.routeMany bound text times name).2
  | .select bound service text name => (s.select bound service text name).2
  | .choose algorithm service policy request records times =>
    match s.chooser? algorithm with
    | .ok chooser => (s.choose chooser service policy request records times).2
    | .error _ => s
  | .openConnection name record => s.openConnection name record
  | .release name => (s.release name).2
  | .parts name => (s.parts name).2
  | .exchange name ending => (s.exchange name ending).2
  | .observe service records => s.observe service records
  | .status record => (s.statusOf record).2
  | .connect record times => (s.connect record times).2
  | .disconnect id => (s.disconnect id).2
  | .mark id health => (s.mark id health).2
  | .markInTurn id times => (s.markInTurn id true none times).2
  | .evict id => (s.evict id).2
  | .add record => s.add record
  | .remove service id => (s.remove service id).2
  | .replace service records => s.replace service records
  | .matching request set => (s.matching request set).2
  | .count name tags n => s.count name tags n
  | .time name tags nanos => s.time name tags nanos
  | .clearMetrics => s.clearMetrics
  | .follow script => s.follow script
  | .subscribe name => s.subscribe name
  | .healthChanges name => (s.healthChanges name).2
  | .watch name => s.watch name
  | .serviceChanges name => (s.serviceChanges name).2
  | .slept => s.slept.2
  | .seen => s.seen.2

/-- The session after operations in turn. -/
def runAll (s : Session) : List SessionStep → Session
  | [] => s
  | t :: rest => runAll (run s t) rest

end SessionStep

/-- The sessions that come up in use: after any setup, and any operations in turn. -/
def Session.Reachable [Url.DomainNames] (s : Session) : Prop :=
  ∃ (setup : Setup) (ambient : Ambient) (steps : List SessionStep),
    s = SessionStep.runAll (setup.start ambient).2 steps

end LoadBalancer

import LoadBalancer.Balancer.Basic
import LoadBalancer.Failure

/-!
# Selection

One instance of a service for one request.

* `BoundRoute`, `Balancer.bind` – a policy with its chooser, found once;
* `Balancer.chooseIn`, `Balancer.choose` – one of some candidates, in any surroundings and by a chooser;
* `Balancer.candidates` – the instances of a service that may serve a request;
* `Balancer.select` – an instance, with a connection to it.

Every selection is timed and counted once, whatever its outcome.
-/

namespace LoadBalancer

/-- A policy with its chooser. -/
structure BoundRoute where
  policy : Policy
  chooser : Chooser

namespace BoundRoute

/-- The algorithm that was configured. -/
def algorithm (r : BoundRoute) : Algorithm := r.policy.algorithm

end BoundRoute

namespace Balancer

/-- A valid policy with the chooser of its algorithm. -/
def bind (b : Balancer) (policy : Policy) : Except Error BoundRoute := do
  policy.validate
  return ⟨policy, ← b.choosers.resolve policy.algorithm⟩

/-! ### Choosing -/

/-- The number of attempts that a policy allows; there is always one. -/
def tries (policy : Policy) : Nat :=
  max 1 policy.maxTries.toNat

/-- One of some candidates, in as many attempts as a policy allows. It is counted when all of them have
failed. -/
def chooseIn {σ : Type} (env : Surroundings σ) (service : String) (policy : Policy)
    (candidates : List Status) (s : σ) : Except Failure Instance × σ :=
  match attempt env ⟨service, policy.lenient, candidates⟩ (tries policy) s with
  | (.chosen record, s) => (.ok record, s)
  | (.noCandidate, s) => (.error (.noCandidates service), s)
  | (.exhausted n, s) =>
    (.error (.retriesExhausted service (tries policy) n),
      env.count Metric.maxTries [("algorithm", policy.algorithm.name), ("service", service)] 1 s)

/-- What the attempts of a chooser act on. -/
def surroundings (chooser : Chooser) (service : String) (policy : Policy) (request : Request) :
    Surroundings Balancer where
  registry := Balancer.registry
  pick := pick chooser service request
  pause := fun b => b.sleep policy.backoff
  count := fun name tags n b => b.count name tags n

/-- One of some candidates, by the attempts of a chooser. -/
def chooseByAttempts (b : Balancer) (chooser : Chooser) (service : String) (policy : Policy)
    (request : Request) (candidates : List Status) : Except Failure Instance × Balancer :=
  chooseIn (surroundings chooser service policy request) service policy candidates b

/-- One of some candidates. -/
def choose (b : Balancer) (chooser : Chooser) (service : String) (policy : Policy)
    (request : Request) (candidates : List Status) : Except Failure Instance × Balancer :=
  match chooser.rule with
  | .never => (.error (.noCandidates service), b)
  | .outside advise => b.consult advise request candidates
  | _ => b.chooseByAttempts chooser service policy request candidates

/-! ### Candidates -/

/-- The instances that a rule among some names marks. -/
def markedBy (names : List String) (key : String) (records : List Instance) : List Instance :=
  records.filter fun r => names.any (r.isCandidate key)

/-- Which instances are candidates, for the names of the rules that apply. -/
def eligible (policy : Policy) (names : List String) (records : List Instance) : List Instance :=
  if names.isEmpty then if policy.fallbackToAll then records else []
  else markedBy names policy.candidateKey records

/-- The instances of a service; none if its list cannot be had. -/
def listed (b : Balancer) (service : String) : List Instance :=
  match b.discovery.lookUp service with
  | .ok records => records
  | .error _ => []

/-- The instances of a service that may serve a request. -/
def candidates (b : Balancer) (service : String) (request : Request) (policy : Policy) :
    Except Failure (List Instance) × Balancer :=
  let records := b.listed service
  if records.isEmpty then
    (.error (.noInstances service), b.count Metric.noInstances [("service", service)] 1)
  else
    let (names, registry) :=
      b.rules.matching request policy.ruleSet (b.registry.observe service records)
    let b := { b with registry }
    let found := eligible policy names records
    if found.isEmpty then
      (.error (.noCandidates service), b.count Metric.noCandidates [("service", service)] 1)
    else (.ok found, b)

/-! ### Selecting -/

/-- One of the instances that may serve a request, chosen by the chooser of a route. -/
def dispatch (b : Balancer) (service : String) (request : Request) (route : BoundRoute)
    (records : List Instance) : Except Failure Instance × Balancer :=
  let (statuses, registry) := b.registry.statusesOf records
  { b with registry }.choose route.chooser service route.policy request statuses

/-- The time that a dispatch has taken. -/
def lapse (b : Balancer) : Nat × Balancer :=
  (b.ambient.lapses b.lapsed, { b with lapsed := b.lapsed + 1 })

/-- Candidates, one of them if there are any, and the time that choosing it took. Without candidates
no time counts. -/
def decide (b : Balancer) (service : String) (request : Request) (route : BoundRoute) :
    Except Failure Instance × Nat × Balancer :=
  match b.candidates service request route.policy with
  | (.error f, b) => (.error f, 0, b)
  | (.ok records, b) =>
    let (result, b) := b.dispatch service request route records
    let (nanos, b) := b.lapse
    (result, nanos, b)

/-- The word for an outcome in measurements. -/
def outcomeWord : Except Failure Instance → String
  | .ok _ => "success"
  | .error f => f.reason

/-- A selection has failed. -/
def countFailure (b : Balancer) (f : Failure) (a : Algorithm) : Balancer :=
  b.count Metric.failedSelections
    [("reason", f.reason), ("algorithm", a.name), ("service", f.service)] 1

/-- A selection has succeeded. -/
def countSuccess (b : Balancer) (service : String) (a : Algorithm) : Balancer :=
  b.count Metric.selections [("algorithm", a.name), ("service", service)] 1

/-- An instance of a service for a request, with one more connection to it. -/
def select (b : Balancer) (service : String) (request : Request) (route : BoundRoute) :
    Except Failure Instance × Balancer :=
  let (result, nanos, b) := b.decide service request route
  let b := b.time Metric.selectionDuration
    [("algorithm", route.algorithm.name), ("service", service), ("outcome", outcomeWord result)]
    nanos
  match result with
  | .ok record => (.ok record, (b.connect record).2.countSuccess service route.algorithm)
  | .error f => (.error f, b.countFailure f route.algorithm)

end Balancer

end LoadBalancer

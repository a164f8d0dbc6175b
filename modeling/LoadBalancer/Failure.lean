import LoadBalancer.Error

/-!
# Failed selections

Why a request has not been given an instance. These are expected outcomes, and become an `Error`
where the request is answered.

* `Failure` – the reason, with the service;
* `Failure.message`, `Failure.reason` – its wording, and its short name in measurements;
* `Failure.toError` – the error that answers the request.
-/

namespace LoadBalancer

/-- Why a request has not been given an instance of a service. -/
inductive Failure where
  /-- The service has no instances. -/
  | noInstances (service : String)
  /-- None of the instances may serve this request. -/
  | noCandidates (service : String)
  /-- None of the candidates was live in any of the attempts. -/
  | retriesExhausted (service : String) (attempts candidates : Nat)
  /-- The chosen instance has an address that makes no URL. -/
  | invalidTarget (service record : String)
  deriving DecidableEq, Repr

namespace Failure

/-- The wording of a failure. -/
def message : Failure → String
  | .noInstances s => s!"no instances registered for service '{s}'"
  | .noCandidates s => s!"no candidate instances for service '{s}'"
  | .retriesExhausted s attempts candidates =>
    s!"no live instance of service '{s}' after {attempts} tries ({candidates} candidates)"
  | .invalidTarget s id => s!"instance '{id}' of service '{s}' has an invalid address"

/-- The short name of a failure. -/
def reason : Failure → String
  | .noInstances _ => "no-instances"
  | .noCandidates _ => "no-candidates"
  | .retriesExhausted _ _ _ => "retries-exhausted"
  | .invalidTarget _ _ => "invalid-target"

/-- The service that a failure is about. -/
def service : Failure → String
  | .noInstances s => s
  | .noCandidates s => s
  | .retriesExhausted s _ _ => s
  | .invalidTarget s _ => s

/-- The error that answers the request. -/
def toError (f : Failure) : Error :=
  .unavailable f.service f.message

/-- The HTTP status that answers the request. -/
def status (f : Failure) : Nat :=
  f.toError.status

/-- Every failed selection is answered as a service that is unavailable. -/
theorem status_eq (f : Failure) : f.status = 503 := rfl

end Failure

end LoadBalancer

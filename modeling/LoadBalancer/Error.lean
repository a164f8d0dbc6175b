/-!
# Errors

What can go wrong outside of choosing an instance for one request.

* `Error` – the cause;
* `Error.message`, `Error.status`, `Error.category` – its wording, its HTTP status, its name in logs;
* `Error.isConfiguration` – it stops a route from being set up.
-/

namespace LoadBalancer

/-- A cause of failure. -/
inductive Error where
  /-- Settings are missing, malformed or inconsistent. -/
  | configuration (message : String)
  /-- An algorithm has been given two choosers. -/
  | duplicateAlgorithm (algorithm : String)
  /-- There is no algorithm of this name, or no chooser for it. -/
  | unknownAlgorithm (algorithm : String)
  /-- The list of instances cannot be had. -/
  | discovery (message : String)
  /-- No instance can serve a request. -/
  | unavailable (service reason : String)
  /-- Anything else. -/
  | internal (message : String)
  deriving DecidableEq, Repr

namespace Error

/-- The wording of an error. -/
def message : Error → String
  | .configuration m => "Configuration error: " ++ m
  | .duplicateAlgorithm a => "Duplicate load balancing algorithm registered: " ++ a
  | .unknownAlgorithm a => "No such load balancing operator: " ++ a
  | .discovery m => "Service discovery error: " ++ m
  | .unavailable s r => "Service unavailable: " ++ s ++ " - " ++ r
  | .internal m => "Internal error: " ++ m

/-- The HTTP status that answers a request which ends in the error. -/
def status : Error → Nat
  | .unavailable _ _ => 503
  | .discovery _ => 502
  | _ => 500

/-- The error stops a route from being set up, rather than a single request. -/
def isConfiguration : Error → Bool
  | .configuration _ => true
  | .duplicateAlgorithm _ => true
  | .unknownAlgorithm _ => true
  | _ => false

/-- The name of the kind of error in logs and measurements. -/
def category : Error → String
  | .configuration _ => "configuration_error"
  | .duplicateAlgorithm _ => "duplicate_algorithm"
  | .unknownAlgorithm _ => "unknown_algorithm"
  | .discovery _ => "service_discovery_error"
  | .unavailable _ _ => "service_unavailable"
  | .internal _ => "internal_error"

/-- Errors of configuration are answered as faults of the server. -/
theorem status_of_isConfiguration {e : Error} (h : e.isConfiguration = true) : e.status = 500 := by
  cases e <;> simp_all [isConfiguration, status]

end Error

end LoadBalancer

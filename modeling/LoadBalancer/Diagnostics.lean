import LoadBalancer.Balancer.Selection
import LoadBalancer.Registry.Report
import LoadBalancer.Text.Quoted

/-!
# Diagnostic texts

Parts of a balancer as developers get to see them: the name of the part, and its fields between
braces.

* `Diagnostics.record` – a name with fields;
* `Registry.diagnostics`, `Choosers.diagnostics`, `Balancer.diagnostics`, `BoundRoute.diagnostics`,
  `Rule.diagnostics` – the texts.
-/

namespace LoadBalancer

open LoadBalancer.Text

namespace Diagnostics

/-- A name with fields. -/
def record (name : String) (fields : List (String × String)) : String :=
  name ++ " \x7b " ++ ", ".intercalate (fields.map fun f => f.1 ++ ": " ++ f.2) ++ " \x7d"

/-- Values between brackets. -/
def list (values : List String) : String :=
  "[" ++ ", ".intercalate values ++ "]"

/-- A value that may be missing. -/
def optional : Option String → String
  | some v => "Some(" ++ v ++ ")"
  | none => "None"

/-- A flag. -/
def flag (b : Bool) : String := if b then "true" else "false"

end Diagnostics

/-- The name of an algorithm in diagnostics. -/
def Algorithm.label : Algorithm → String
  | .random => "Random"
  | .roundRobin => "RoundRobin"
  | .weightedRandom => "WeightedRandom"
  | .weightedRoundRobin => "WeightedRoundRobin"
  | .destinationHash => "DestinationHash"
  | .sourceHash => "SourceHash"
  | .leastConnections => "LeastConnections"
  | .leastTime => "LeastTime"
  | .weightedLeastConnections => "WeightedLeastConnections"
  | .weightedLeastTime => "WeightedLeastTime"

/-- The fields of a policy. -/
def Policy.diagnostics (p : Policy) : String :=
  Diagnostics.record "SelectionConfig"
    [("algorithm", p.algorithm.label),
     ("max_choose_tries", toString p.maxTries.toNat),
     ("fallback_all_to_candidates", Diagnostics.flag p.fallbackToAll),
     ("null_ping_to_reachable", Diagnostics.flag p.lenient),
     ("candidate_metadata_prefix", quote p.candidateKey),
     ("rule_set", quote p.ruleSet),
     ("weight_metadata_key", quote p.weightKey),
     ("retry_backoff", p.backoff.decimalText)]

/-- How many services and instances are known. -/
def Registry.diagnostics (r : Registry) : String :=
  Diagnostics.record "InstanceHealthRegistry"
    [("services", toString r.members.size), ("instances", toString r.entries.size)]

/-- The fields of counts. -/
def RegistryStats.diagnostics (s : RegistryStats) : String :=
  Diagnostics.record "RegistryStats"
    [("total_services", toString s.services),
     ("total_instances", toString s.instances),
     ("healthy_instances", toString s.healthy),
     ("unhealthy_instances", toString s.unhealthy),
     ("unknown_instances", toString s.unknown),
     ("active_connections", toString s.connections)]

/-- Which algorithms have a chooser, and the name of the fallback. -/
def Choosers.diagnostics (c : Choosers) : String :=
  Diagnostics.record "ChooserRegistry"
    [("algorithms", Diagnostics.list (c.algorithms.map Algorithm.label)),
     ("fallback", Diagnostics.optional (c.fallback.map fun f => quote f.name))]

/-- The choosers, and counts over the registry. -/
def Balancer.diagnostics (b : Balancer) : String :=
  Diagnostics.record "SelectionCoordinator"
    [("choosers", b.choosers.diagnostics), ("registry", b.registry.stats.diagnostics)]

/-- The policy, and the name of the chooser. -/
def BoundRoute.diagnostics (r : BoundRoute) : String :=
  Diagnostics.record "BoundRoute"
    [("config", r.policy.diagnostics), ("chooser", quote r.chooser.name)]

/-- The name of a rule. -/
def Rule.diagnostics (r : Rule) : String :=
  Diagnostics.record "CandidateRule" [("name", quote r.name)]

end LoadBalancer

import LoadBalancer.Algorithm
import LoadBalancer.Document.Fields
import LoadBalancer.Duration.Reader
import LoadBalancer.Duration.Writer

/-!
# Selection policies

How a route chooses an instance.

* `Policy` – algorithm, bounds and names that selection goes by;
* `Policy.faults`, `Policy.validate` – what makes a policy unusable;
* `Policy.ofNode`, `Policy.toNode` – a policy from a document and as one.
-/

namespace LoadBalancer

open LoadBalancer.Text LoadBalancer.Document

/-- How a route chooses an instance. -/
structure Policy where
  algorithm : Algorithm
  /-- The number of attempts before selection gives up. -/
  maxTries : UInt32
  /-- Without a matching rule every instance is a candidate. -/
  fallbackToAll : Bool
  /-- Instances that were never probed may get requests. -/
  lenient : Bool
  /-- The names of metadata that mark candidates begin with this. -/
  candidateKey : String
  /-- The rules that requests are matched against. -/
  ruleSet : String
  /-- The name of metadata that holds weights. -/
  weightKey : String
  /-- The pause between two attempts. -/
  backoff : Duration
  deriving DecidableEq, Repr

namespace Policy

/-- The policy of a route that says nothing about it. -/
def default : Policy :=
  ⟨.roundRobin, 10, false, true, "canary", "", "weight", Duration.zero⟩

instance : Inhabited Policy := ⟨default⟩

/-! ### Validity -/

/-- What makes a policy unusable. -/
inductive Fault where
  | noTries
  | noCandidateKey
  | noWeightKey
  deriving DecidableEq, Repr

/-- The wording of a fault. -/
def Fault.message : Fault → String
  | .noTries => "max_choose_tries must be at least 1"
  | .noCandidateKey => "candidate_metadata_prefix cannot be empty"
  | .noWeightKey => "weight_metadata_key cannot be empty"

/-- All faults of a policy. -/
def faults (p : Policy) : List Fault :=
  (if p.maxTries = 0 then [.noTries] else []) ++
  (if isBlankText p.candidateKey then [.noCandidateKey] else []) ++
  (if isBlankText p.weightKey then [.noWeightKey] else [])

/-- No error if there are no complaints, and one error that lists them otherwise. -/
def checkNone (complaints : List String) : Except Error Unit :=
  if complaints.isEmpty then .ok ()
  else .error (.configuration
    ("Configuration validation failed:\n  - " ++ "\n  - ".intercalate complaints))

/-- No error if the policy can be used. -/
def validate (p : Policy) : Except Error Unit :=
  checkNone (p.faults.map fun f => "selection: " ++ f.message)

/-! ### Documents -/

/-- An algorithm, by one of its names. -/
def readAlgorithm : Reading Algorithm := fun n => do
  match Algorithm.read (← readText n) with
  | .ok a => return a
  | .error e => throw (.refused e.message)

/-- A duration in its written form. -/
def readDuration : Reading Duration := fun n => do
  match Duration.read (← readText n) with
  | .ok d => return d
  | .error _ => throw .unsuitable

/-- The fields of a policy, in order. -/
def fields : List (RecordField Policy) :=
  [.optional "algorithm" [] readAlgorithm fun v p => { p with algorithm := v },
   .optional "max_choose_tries" ["maxChooseTries"] (readNatural size32)
     fun v p => { p with maxTries := UInt32.ofNat v },
   .optional "fallback_all_to_candidates" ["fallbackAllToCandidates"] readFlag
     fun v p => { p with fallbackToAll := v },
   .optional "null_ping_to_reachable" ["nullPingToReachable"] readFlag
     fun v p => { p with lenient := v },
   .optional "candidate_metadata_prefix" ["candidateMetadataPrefix"] readText
     fun v p => { p with candidateKey := v },
   .optional "rule_set" ["ruleSet"] readText fun v p => { p with ruleSet := v },
   .optional "weight_metadata_key" ["weightMetadataKey"] readText
     fun v p => { p with weightKey := v },
   .optional "retry_backoff" ["retryBackoff"] readDuration fun v p => { p with backoff := v }]

/-- A policy from a document; fields that are not there are as in the default. -/
def ofNode : Reading Policy :=
  readRecord fields default

/-- An entry of a record. -/
def entry (name : String) (value : Scalar) : Node × Node :=
  (.scalar (.text name), .scalar value)

/-- The policy as a document. -/
def toNode (p : Policy) : Node :=
  .record
    [entry "algorithm" (.text p.algorithm.key),
     entry "max_choose_tries" (.integer p.maxTries.toNat),
     entry "fallback_all_to_candidates" (.flag p.fallbackToAll),
     entry "null_ping_to_reachable" (.flag p.lenient),
     entry "candidate_metadata_prefix" (.text p.candidateKey),
     entry "rule_set" (.text p.ruleSet),
     entry "weight_metadata_key" (.text p.weightKey),
     entry "retry_backoff" (.text p.backoff.text)]
    true

/-! ### Laws -/

theorem faults_eq_nil {p : Policy} :
    p.faults = [] ↔
      p.maxTries ≠ 0 ∧ isBlankText p.candidateKey = false ∧ isBlankText p.weightKey = false := by
  unfold faults
  by_cases h : p.maxTries = 0 <;> cases hc : isBlankText p.candidateKey <;>
    cases hw : isBlankText p.weightKey <;> simp [h]

theorem checkNone_eq_ok {complaints : List String} :
    checkNone complaints = .ok () ↔ complaints = [] := by
  cases complaints <;> simp [checkNone]

/-- A policy is valid exactly if it has no fault. -/
theorem validate_eq_ok {p : Policy} : p.validate = .ok () ↔ p.faults = [] := by
  simp [validate, checkNone_eq_ok]

end Policy

end LoadBalancer

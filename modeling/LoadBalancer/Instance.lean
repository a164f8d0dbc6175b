import LoadBalancer.Document.Fields
import LoadBalancer.Labels
import LoadBalancer.Text.Blank
import LoadBalancer.Text.Fold

/-!
# Instances

A backend of a service, as the service list has it.

* `Instance` – identity, address and metadata;
* `Instance.url` – the address as a URL without a path;
* `Instance.weight` – the weight that the metadata give it;
* `Instance.isCandidate` – the metadata mark it for a rule;
* `Instance.ofNode` – an instance from a document.
-/

namespace LoadBalancer

open LoadBalancer.Text LoadBalancer.Document

/-- A backend of a service. -/
structure Instance where
  /-- The name that no other instance has. -/
  id : String
  /-- The service that it belongs to. -/
  service : String
  host : String
  port : UInt16
  /-- It expects an encrypted connection. -/
  secure : Bool
  metadata : Labels
  deriving DecidableEq, Repr

namespace Instance

/-- An instance without encryption and metadata. -/
def plain (id service host : String) (port : UInt16) : Instance :=
  ⟨id, service, host, port, false, Labels.empty⟩

/-- The instance with one more entry of metadata. -/
def withMetadata (i : Instance) (name text : String) : Instance :=
  { i with metadata := i.metadata.set name text }

/-- The scheme of requests to it. -/
def scheme (i : Instance) : String :=
  if i.secure then "https" else "http"

/-- Host and port. -/
def authority (i : Instance) : String :=
  i.host ++ ":" ++ toString i.port.toNat

/-- The address as a URL without a path. -/
def url (i : Instance) : String :=
  i.scheme ++ "://" ++ i.authority

/-- The instance in logs. -/
def text (i : Instance) : String :=
  i.id ++ "(" ++ i.authority ++ ")"

/-- The bound of weights. -/
def weightBound : Nat := size32

/-- The weight under a name of the metadata: a positive number, and one if there is none. -/
def weight (i : Instance) (name : String) : Nat :=
  match i.metadata.get? name with
  | none => 1
  | some s =>
    match readUnsigned weightBound (trim s) with
    | .ok n => if n = 0 then 1 else n
    | .error _ => 1

/-- Some entry of the metadata marks the instance for a rule: its name begins with `start`, and its
text is the rule, both up to ASCII case. -/
def isCandidate (i : Instance) (start rule : String) : Bool :=
  i.metadata.any fun name text => startsFolded start name && sameFolded (trim text) (trim rule)

/-! ### Documents -/

/-- The fields of an instance, in order. -/
def fields : List (RecordField Instance) :=
  [.needed "id" readText fun v i => { i with id := v },
   .needed "service_id" readText fun v i => { i with service := v },
   .needed "host" readText fun v i => { i with host := v },
   .needed "port" (readNatural size16) fun v i => { i with port := UInt16.ofNat v },
   .optional "secure" [] readFlag fun v i => { i with secure := v },
   .optional "metadata" [] readLabels fun v i => { i with metadata := v }]

/-- An instance from a document. -/
def ofNode : Reading Instance :=
  readRecord fields (plain "" "" "" 0)

/-! ### Laws -/

theorem weight_pos (i : Instance) (name : String) : 0 < i.weight name := by
  unfold weight
  repeat' split
  all_goals omega

end Instance

end LoadBalancer

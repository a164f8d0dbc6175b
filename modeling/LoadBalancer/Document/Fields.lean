import LoadBalancer.Document.Node
import LoadBalancer.Labels

/-!
# Values from document trees

* `Fault` – why a tree does not give the wanted value;
* `Decoding` – a computation that may follow references, as many as the document allows;
* `Reading` – a way to take a value from a tree;
* `readText`, `readFlag`, `readNatural`, `readNumber`, `readList`, `readLabels` – values of one kind;
* `RecordField`, `readRecord` – a record with named fields, each at most once, in any order; fields of
  other names are passed over;
* `Reading.take`, `Reading.takeAll` – a value from a tree without references, and one that is all of
  a text.

Faults come in the order of the text: the first one counts.
-/

namespace LoadBalancer.Document

/-- Why a tree does not give the wanted value. -/
inductive Fault where
  /-- The text breaks off, or does not end where the value ends. -/
  | malformed
  /-- There is a value of another kind, a field twice, or a field that is missing. -/
  | unsuitable
  /-- A value is of the right kind, and refused for a reason. -/
  | refused (reason : String)
  deriving DecidableEq, Repr

/-- What is said about a fault beyond that there is one. -/
def Fault.message : Fault → String
  | .refused reason => reason
  | _ => ""

/-- A value, or the fault that there is none. -/
def orUnsuitable {α : Type} : Option α → Except Fault α
  | some a => .ok a
  | none => .error .unsuitable

/-! ### References -/

/-- What references stand for, and how many more of them may be followed. -/
structure Links where
  named : List (Nat × Node)
  left : Nat

/-- A computation that may follow references. -/
abbrev Decoding (α : Type) := StateT Links (Except Fault) α

/-- A way to take a value from a tree. -/
abbrev Reading (α : Type) := Node → Decoding α

/-- The node that a node stands for: a reference leads to its node, if one more may be followed. -/
def follow : Node → Decoding Node
  | .reference number => do
    let links ← get
    match links.left with
    | 0 => throw .unsuitable
    | left + 1 =>
      set { links with left }
      orUnsuitable ((links.named.find? (·.1 == number)).map (·.2))
  | n => return n

/-- A value from a tree without references. -/
def Reading.take {α : Type} (r : Reading α) (n : Node) : Except Fault α :=
  (r n).run' ⟨[], 0⟩

/-- The number of references that may be followed for each mark of a document. -/
def referencesPerMark : Nat := 100

/-- A value that is all of a text. -/
def Reading.takeAll {α : Type} (r : Reading α) (d : Whole) : Except Fault α := do
  let a ← (r d.root).run' ⟨d.named, referencesPerMark * d.root.size⟩
  if d.trailing then throw .malformed
  return a

/-! ### Values that are passed over -/

mutual

/-- Nothing is missing in a tree. -/
def Node.isWhole : Node → Bool
  | .scalar _ => true
  | .list _ items closed => closed && itemsWhole items
  | .record entries closed => closed && entriesWhole entries
  | .reference _ => true
  | .broken => false

/-- Nothing is missing in some items. -/
def itemsWhole : List Node → Bool
  | [] => true
  | n :: rest => n.isWhole && itemsWhole rest

/-- Nothing is missing in some entries. -/
def entriesWhole : List (Node × Node) → Bool
  | [] => true
  | (k, v) :: rest => k.isWhole && v.isWhole && entriesWhole rest

end

/-- A value of any kind, which is not used. References in it are not followed. -/
def readAnything : Reading Unit := fun n =>
  if n.isWhole then return () else throw .malformed

/-- The end of a list or record was reached. -/
def checkClosed (closed : Bool) : Except Fault Unit :=
  if closed then .ok () else .error .malformed

/-! ### Values without parts -/

/-- A scalar, taken by `f`. -/
def readScalar {α : Type} (f : Scalar → Option α) : Reading α := fun n => do
  match ← follow n with
  | .scalar s => orUnsuitable (f s)
  | .broken => throw .malformed
  | _ => throw .unsuitable

/-- A text. -/
def readText : Reading String := readScalar Scalar.text?

/-- A flag. -/
def readFlag : Reading Bool := readScalar Scalar.flag?

/-- A natural number below `bound`. -/
def readNatural (bound : Nat) : Reading Nat := readScalar (Scalar.natural? bound)

/-- A number. -/
def readNumber : Reading Binary64 := readScalar Scalar.number?

/-- A value, or none. -/
def readOptional {α : Type} (value : Reading α) : Reading (Option α) := fun n => do
  let n ← follow n
  match n with
  | .scalar s => if ← orUnsuitable s.given? then some <$> value n else return none
  | n => some <$> value n

/-! ### Lists and maps -/

/-- A list of values of one kind. -/
def readList {α : Type} (item : Reading α) : Reading (List α) := fun n => do
  match ← follow n with
  | .list _ items closed =>
    let values ← items.mapM item
    checkClosed closed
    return values
  | .scalar s => if s.isAbsent then return [] else throw .unsuitable
  | .broken => throw .malformed
  | _ => throw .unsuitable

/-- A map from texts to texts; the last text of a name counts. -/
def readLabels : Reading Labels := fun n => do
  match ← follow n with
  | .record entries closed =>
    let pairs ← entries.mapM fun e => do return (← readText e.1, ← readText e.2)
    checkClosed closed
    return Labels.ofList pairs
  | .scalar s => if s.isAbsent then return Labels.empty else throw .unsuitable
  | .broken => throw .malformed
  | _ => throw .unsuitable

/-! ### Records -/

/-- A field of a record that is drafted as a `σ`. -/
structure RecordField (σ : Type) where
  name : String
  /-- Other names that mean this field. -/
  aliases : List String
  /-- The record has no value without it. -/
  required : Bool
  /-- The draft with the value of the field put in. -/
  read : Node → σ → Decoding σ

namespace RecordField

/-- A field that has a value anyway. -/
def optional {σ α : Type} (name : String) (aliases : List String) (value : Reading α)
    (put : α → σ → σ) : RecordField σ :=
  ⟨name, aliases, false, fun n s => return put (← value n) s⟩

/-- A field that has to be there. -/
def needed {σ α : Type} (name : String) (value : Reading α) (put : α → σ → σ) : RecordField σ :=
  ⟨name, [], true, fun n s => return put (← value n) s⟩

/-- The field has this name, or is meant by it. -/
def isCalled {σ : Type} (f : RecordField σ) (name : String) : Bool :=
  f.name == name || f.aliases.contains name

end RecordField

/-- Entries put into a draft, with the names of the fields that came before. -/
def readEntries {σ : Type} (fields : List (RecordField σ)) :
    List String → σ → List (Node × Node) → Decoding (List String × σ)
  | seen, draft, [] => return (seen, draft)
  | seen, draft, (key, value) :: rest => do
    let name ← readText key
    match fields.find? (·.isCalled name) with
    | none =>
      readAnything value
      readEntries fields seen draft rest
    | some f =>
      if seen.contains f.name then throw .unsuitable
      readEntries fields (f.name :: seen) (← f.read value draft) rest

/-- Items put into a draft in the order of the fields. -/
def readItems {σ : Type} : List (RecordField σ) → σ → List Node → Decoding σ
  | fields, draft, [] => if fields.any (·.required) then throw .unsuitable else return draft
  | [], _, _ :: _ => throw .unsuitable
  | f :: fields, draft, n :: rest => do readItems fields (← f.read n draft) rest

/-- The record with these fields; fields that are not there are as in `draft`. -/
def readRecord {σ : Type} (fields : List (RecordField σ)) (draft : σ) : Reading σ := fun n => do
  match ← follow n with
  | .record entries closed =>
    let (seen, value) ← readEntries fields [] draft entries
    checkClosed closed
    if fields.any fun f => f.required && !seen.contains f.name then throw .unsuitable
    return value
  | .list positional items closed =>
    if !positional then throw .unsuitable
    let value ← readItems fields draft items
    checkClosed closed
    return value
  | .scalar s =>
    if s.isAbsent && !fields.any (·.required) then return draft else throw .unsuitable
  | .broken => throw .malformed
  | .reference _ => throw .unsuitable

end LoadBalancer.Document

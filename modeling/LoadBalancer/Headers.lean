import LoadBalancer.Table
import LoadBalancer.Text.Fold

/-!
# Headers of requests

* `Headers` – names with values, in the order in which they were added;
* `Headers.add?` – one more header, if name and value are well-formed;
* `Headers.text?` – the first value of a name, as text.

Names are compared up to ASCII case, and values are sequences of bytes, kept here as the text whose
UTF-8 form they are.
-/

namespace LoadBalancer

open LoadBalancer.Text

/-- Names in small letters with their values. -/
structure Headers where
  entries : List (String × String)
  deriving DecidableEq, Repr

namespace Headers

/-- No header. -/
def empty : Headers := ⟨[]⟩

/-- A character of a name. -/
def isNameChar (c : Char) : Bool :=
  c.isAlphanum || "!#$%&'*+-.^_|~".toList.contains c || c == Char.ofNat 0x60

/-- The small form of a name, if it is one. -/
def name? (s : String) : Option String :=
  if !s.isEmpty && s.toList.all isNameChar then some (lowerText s) else none

/-- A character whose bytes may stand in a value: no control character but the tab. -/
def isValueChar (c : Char) : Bool :=
  c == '\t' || (0x20 ≤ c.toNat && c.toNat != 0x7F)

/-- A character of a value that is text. -/
def isTextChar (c : Char) : Bool :=
  c == '\t' || (0x20 ≤ c.toNat && c.toNat < 0x7F)

/-- The headers with one more, if name and value are well-formed. -/
def add? (h : Headers) (name value : String) : Option Headers := do
  let name ← name? name
  if value.toList.all isValueChar then return ⟨h.entries ++ [(name, value)]⟩ else none

/-- The first value of a name. -/
def get? (h : Headers) (name : String) : Option String := do
  let name ← name? name
  Table.find name h.entries

/-- The first value of a name, if it is text. -/
def text? (h : Headers) (name : String) : Option String :=
  (h.get? name).filter fun v => v.toList.all isTextChar

end Headers

end LoadBalancer

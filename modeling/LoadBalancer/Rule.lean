import LoadBalancer.Registry.Basic
import LoadBalancer.Request

/-!
# Rules

Which of the named rules of a set apply to a request.

* `Condition`, `Rule` – when a rule applies, and its name;
* `RuleBook` – rules in sets, each set in order;
* `RuleBook.matching` – the names of the rules of a set that apply to a request.

A condition is a function of the request, with one exception that has the registry at hand. Therefore the
registry goes along.
-/

namespace LoadBalancer

open LoadBalancer.Text

/-- When a rule applies: a property of the request. A condition that has got hold of the registry as well
could do anything with it; of all that, there is `evict` only. How selections end, and what they leave
behind, is said of rules that read nothing but the request. -/
inductive Condition where
  /-- A header has a value, up to ASCII case. -/
  | header (name value : String)
  | always
  /-- The path of the target begins with a text. -/
  | pathStart (start : String)
  /-- An earlier stage has noted a value. -/
  | noted (name value : String)
  /-- An instance of the registry is forgotten, which is no property of the request. -/
  | evict (id : String)
  /-- The request has some other property. -/
  | custom (property : Request → Bool)

namespace Condition

/-- The condition holds for a request. -/
def holds (request : Request) (registry : Registry) : Condition → Bool × Registry
  | header name value =>
    ((request.headers.text? (lowerText name)).any (sameFolded · value), registry)
  | always => (true, registry)
  | pathStart start => (start.toList.isPrefixOf request.target.pathText.toList, registry)
  | noted name value => (request.attributes.get? name == some value, registry)
  | evict id => registry.evict id
  | custom property => (property request, registry)

end Condition

/-- A named condition. -/
structure Rule where
  name : String
  condition : Condition

/-- The names of the rules that apply to a request, in order, and the registry after they were all
asked. -/
def Rule.matching (request : Request) : List Rule → Registry → List String × Registry
  | [], registry => ([], registry)
  | rule :: rest, registry =>
    let (holds, registry) := rule.condition.holds request registry
    let (names, registry) := matching request rest registry
    (if holds then rule.name :: names else names, registry)

/-- Rules with the sets they belong to, in order. -/
structure RuleBook where
  entries : List (String × Rule)

namespace RuleBook

/-- No rule. -/
def empty : RuleBook := ⟨[]⟩

/-- The book with one more rule at the end of a set. -/
def add (b : RuleBook) (set : String) (rule : Rule) : RuleBook :=
  ⟨b.entries ++ [(set, rule)]⟩

/-- The rules of a set, in order. -/
def rules (b : RuleBook) (set : String) : List Rule :=
  b.entries.filterMap fun e => if e.1 = set then some e.2 else none

/-- The names of the rules of a set that apply to a request, and the registry after they were all
asked. -/
def matching (b : RuleBook) (request : Request) (set : String) (registry : Registry) :
    List String × Registry :=
  Rule.matching request (b.rules set) registry

/-! ### Laws -/

/-- A new rule comes last in its set, and no other set changes. -/
theorem rules_add (b : RuleBook) (set other : String) (rule : Rule) :
    (b.add set rule).rules other =
      if set = other then b.rules other ++ [rule] else b.rules other := by
  by_cases h : set = other <;> simp [add, rules, h]

end RuleBook

end LoadBalancer

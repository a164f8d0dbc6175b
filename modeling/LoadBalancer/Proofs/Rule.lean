import LoadBalancer.Proofs.Registry.Operation
import LoadBalancer.Rule

/-!
# Rules that read the request

A condition is a function of the request, unless it has an instance forgotten. To ask rules with such
conditions is to look at the request: which of them apply does not hang on the registry, and the registry
stays as it is.

* `Condition.ReadsRequest`, `RuleBook.ReadsRequest` – the property, of a condition and of the rules of a set;
* `Condition.applies`, `Rule.applying` – whether such a condition holds, and the names of the rules that
  apply;
* `RuleBook.matching_of_readsRequest` – **asking the rules of a set** is no more than that;
* `Condition.evicted?`, `RuleBook.evicted` – the instances that other conditions may forget;
* `Condition.readsRequest_iff` – a condition is one or the other.
-/

namespace LoadBalancer

/-- A registry in which an instance can be forgotten. -/
theorem Registry.exists_evict (id : String) : ∃ r : Registry, (r.evict id).1 = true := by
  let record := Instance.plain id "" "" 0
  have hknown : (observeOne "" .empty record).known? id = some (Entry.refresh "" record none) := by
    rw [known?_observeOne, if_pos (show record.id = id from rfl)]
    rfl
  refine ⟨_, (evict_iff _ id).mpr ⟨?_, connections_of_known? hknown⟩⟩
  rw [hknown]
  exact Option.some_ne_none _

namespace Condition

/-- The condition is a function of the request. -/
def ReadsRequest (c : Condition) : Prop :=
  ∃ property : Request → Bool, ∀ request registry, c.holds request registry = (property request, registry)

/-- The condition holds for a request, whatever the registry says. -/
def applies (request : Request) (c : Condition) : Bool :=
  (c.holds request .empty).1

/-- The instance that asking a condition may forget. -/
def evicted? : Condition → Option String
  | evict id => some id
  | _ => none

theorem holds_of_readsRequest {c : Condition} (h : c.ReadsRequest) (request : Request) (r : Registry) :
    c.holds request r = (c.applies request, r) := by
  obtain ⟨property, hholds⟩ := h
  rw [applies, hholds, hholds]

/-- **Conditions that read the request** are those that forget no instance: whether an instance is
forgotten is a matter of the registry. -/
theorem readsRequest_iff {c : Condition} : c.ReadsRequest ↔ c.evicted? = none := by
  cases c with
  | evict id =>
      refine iff_of_false ?_ (Option.some_ne_none id)
      rintro ⟨property, hholds⟩
      let request := Request.ofTarget ⟨"", none, .bare "", none, none⟩
      obtain ⟨r, hforgets⟩ := Registry.exists_evict id
      have hknown : (r.evict id).1 = property request := congrArg Prod.fst (hholds request r)
      have hunknown : false = property request := congrArg Prod.fst (hholds request .empty)
      rw [hforgets, ← hunknown] at hknown
      cases hknown
  | _ => exact iff_of_true ⟨_, fun _ _ => rfl⟩ rfl

end Condition

namespace Rule

/-- The names of the rules that apply, in order. -/
def applying (request : Request) (rules : List Rule) : List String :=
  (rules.filter (·.condition.applies request)).map name

/-- **Rules in turn**, by induction on the rules. -/
theorem matching_of_readsRequest {rules : List Rule} (h : ∀ rule ∈ rules, rule.condition.ReadsRequest)
    (request : Request) (r : Registry) : matching request rules r = (applying request rules, r) := by
  induction rules with
  | nil => rfl
  | cons rule rest ih =>
    have hone := Condition.holds_of_readsRequest (h rule List.mem_cons_self) request r
    have hrest := ih fun other hother => h other (List.mem_cons_of_mem _ hother)
    simp only [matching, hone, hrest, applying, List.filter_cons]
    split <;> rfl

end Rule

namespace RuleBook

/-- The conditions of a set are functions of the request. -/
def ReadsRequest (b : RuleBook) (set : String) : Prop :=
  ∀ rule ∈ b.rules set, rule.condition.ReadsRequest

/-- The instances that asking the rules of a set may forget. -/
def evicted (b : RuleBook) (set : String) : List String :=
  (b.rules set).filterMap fun rule => rule.condition.evicted?

variable {b : RuleBook} {set : String}

theorem matching_of_readsRequest (h : b.ReadsRequest set) (request : Request) (r : Registry) :
    b.matching request set r = (Rule.applying request (b.rules set), r) :=
  Rule.matching_of_readsRequest h request r

theorem readsRequest_iff : b.ReadsRequest set ↔ b.evicted set = [] := by
  unfold ReadsRequest evicted
  rw [List.filterMap_eq_nil_iff]
  exact forall₂_congr fun _ _ => Condition.readsRequest_iff

end RuleBook

end LoadBalancer

import LoadBalancer.Channel
import LoadBalancer.Error
import LoadBalancer.Instance
import LoadBalancer.Table

/-!
# The service list

* `Discovery` – the instances of every service, in the order in which they were added;
* `Discovery.add`, `remove`, `replace` – the operations, each of which is announced;
* `Discovery.list` – the instances of a service;
* `Discovery.lookUp` – the same, for a service whose list can be had.
-/

namespace LoadBalancer

/-- The list of a service has changed. -/
inductive ServiceChange where
  | registered (record : Instance)
  | deregistered (service id : String)
  | replaced (service : String) (count : Nat)
  deriving DecidableEq, Repr

/-- The instances of every service. -/
structure Discovery where
  lists : Table String (List Instance)
  /-- The services whose list cannot be had. -/
  failing : List String
  changes : Channel ServiceChange

namespace Discovery

/-- The number of changes that are kept for readers. -/
def keptChanges : Nat := 128

/-- No service has instances. -/
def empty : Discovery := ⟨.empty, [], .new keptChanges⟩

/-- The instances of a service. -/
def list (d : Discovery) (service : String) : List Instance :=
  (d.lists.get? service).getD []

/-- The instances of a service, or an error if its list cannot be had. -/
def lookUp (d : Discovery) (service : String) : Except Error (List Instance) :=
  if service ∈ d.failing then .error (.discovery service) else .ok (d.list service)

/-- A list with an instance in the place of the one with its id, or at the end. -/
def place (record : Instance) : List Instance → List Instance
  | [] => [record]
  | r :: rest => if r.id = record.id then record :: rest else r :: place record rest

/-- An instance is added to its service, or replaces the one with its id. -/
def add (d : Discovery) (record : Instance) : Discovery :=
  { d with
    lists := d.lists.put record.service (place record (d.list record.service))
    changes := d.changes.send (.registered record) }

/-- An instance is removed; the answer says whether it was there. -/
def remove (d : Discovery) (service id : String) : Bool × Discovery :=
  let before := d.list service
  let after := before.filter (·.id ≠ id)
  if after.length = before.length then (false, d)
  else
    (true, { d with
      lists := d.lists.put service after
      changes := d.changes.send (.deregistered service id) })

/-- The list of a service is replaced. -/
def replace (d : Discovery) (service : String) (records : List Instance) : Discovery :=
  { d with
    lists := d.lists.put service records
    changes := d.changes.send (.replaced service records.length) }

/-! ### Laws -/

/-- Adding keeps the ids in their places. -/
theorem ids_place (record : Instance) (rs : List Instance) :
    (place record rs).map Instance.id =
      if record.id ∈ rs.map Instance.id then rs.map Instance.id
      else rs.map Instance.id ++ [record.id] := by
  induction rs with
  | nil => rfl
  | cons r rest ih =>
    by_cases h : r.id = record.id
    · simp [place, h]
    · have h' : ¬record.id = r.id := fun he => h he.symm
      by_cases hm : record.id ∈ rest.map Instance.id
      · simp only [place, h, if_false, List.map_cons, ih, List.mem_cons, hm, or_true, if_true]
      · simp only [place, h, if_false, List.map_cons, ih, List.mem_cons, h', hm, or_self,
          List.cons_append]

/-- Nothing is in a list but what was there, and what is added. -/
theorem mem_place {record r : Instance} {rs : List Instance} (h : r ∈ place record rs) :
    r = record ∨ r ∈ rs := by
  induction rs with
  | nil => exact Or.inl (List.mem_singleton.mp h)
  | cons first rest ih =>
    simp only [place] at h
    split at h
    · rcases List.mem_cons.mp h with h | h
      · exact Or.inl h
      · exact Or.inr (List.mem_cons_of_mem _ h)
    · rcases List.mem_cons.mp h with h | h
      · exact Or.inr (h ▸ List.mem_cons_self)
      · exact (ih h).imp_right (List.mem_cons_of_mem _)

theorem list_add (d : Discovery) (record : Instance) (service : String) :
    (d.add record).list service =
      if record.service = service then place record (d.list service) else d.list service := by
  simp only [add, list, Table.get?_put]
  split
  · rename_i h
    simp [h]
  · rfl

theorem list_replace (d : Discovery) (service other : String) (records : List Instance) :
    (d.replace service records).list other =
      if service = other then records else d.list other := by
  simp only [replace, list, Table.get?_put]
  split <;> rfl

theorem failing_remove (d : Discovery) (service id : String) :
    (d.remove service id).2.failing = d.failing := by
  unfold remove
  dsimp only
  split <;> rfl

theorem list_remove (d : Discovery) (service id other : String) :
    (d.remove service id).2.list other =
      if service = other then (d.list other).filter (·.id ≠ id) else d.list other := by
  unfold remove
  dsimp only
  split
  · rename_i hlength
    split
    · rename_i hsame
      rw [← hsame]
      exact (List.filter_sublist.eq_of_length hlength).symm
    · rfl
  · simp only [list, Table.get?_put]
    split
    · rename_i hsame
      rw [hsame]
      rfl
    · rfl

end Discovery

end LoadBalancer

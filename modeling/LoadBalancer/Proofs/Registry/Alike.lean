import Mathlib
import LoadBalancer.Proofs.Registry.Membership
import LoadBalancer.Proofs.Registry.Twins

/-!
# Registries that differ in health

Two registries know the same instances under the same services with the same connections. Of health they
have only this in common, that it admits requests to some instances in both or in neither.

* `Registry.Alike` – the relation, for the instances that are asked about;
* `Registry.alike_run` – the same action keeps it; `Registry.alike_mark` – so does marking in one of the two,
  if no instance is asked about;
* `Registry.alike_matching` – rules that are asked in both give the same answer;
* `Registry.Alike.mem_ids_reachable` – the same instances of a service may get requests.
-/

namespace LoadBalancer

open RegistryAction

namespace Registry

/-- The health of an instance admits requests; if nothing is known about it, it is unknown. -/
def admits (r : Registry) (lenient : Bool) (id : String) : Bool :=
  (r.read Entry.health .unknown id).isReachable lenient

/-- Two registries differ in health alone; that of some instances admits requests in both or in neither. -/
structure Alike (lenient : Bool) (ids : List String) (r r' : Registry) : Prop where
  home : ∀ x, r'.home? x = r.home? x
  connections : ∀ x, r'.connections x = r.connections x
  members : ∀ service x, x ∈ r'.membersOf service ↔ x ∈ r.membersOf service
  admits : ∀ x ∈ ids, r'.admits lenient x = r.admits lenient x

/-! ### What actions do to health -/

section Admits

variable {lenient : Bool} (r : Registry)

/-- Being marked decides about a known instance, being forgotten makes its health unknown, and nothing else
matters. -/
theorem admits_run (a : RegistryAction) (x : String) :
    (run r a).1.admits lenient x =
      match a with
      | .mark id health =>
        if id = x ∧ r.home? x ≠ none then health.isReachable lenient else r.admits lenient x
      | .evict id => if id = x ∧ r.connections id = 0 then lenient else r.admits lenient x
      | _ => r.admits lenient x := by
  unfold admits
  cases a with
  | observe service records =>
    simp only [run]
    rw [read_observe steady_health]
  | status record =>
    simp only [run]
    rw [read_statusOf steady_health]
  | connect record =>
    have hk := known?_connect r record x
    simp only [run]
    by_cases hid : record.id = x
    · rw [if_pos hid] at hk
      rw [read_of_known? hk, read]
      cases r.known? x <;> rfl
    · rw [if_neg hid] at hk
      rw [read_congr hk]
  | disconnect id =>
    rw [run_disconnect, read_disconnect fun _ _ => rfl]
  | mark id health =>
    have hk := known?_mark r id health x
    simp only [run]
    by_cases hid : id = x
    · rw [if_pos hid] at hk
      rw [home?, read, hk]
      cases hknown : r.known? x with
      | none => simp [read_of_unknown hknown]
      | some e => simp [hid]
    · rw [if_neg hid] at hk
      rw [if_neg fun h => hid h.1, read_congr hk]
  | evict id =>
    simp only [run]
    rw [read_evict]
    split <;> rfl

end Admits

namespace Alike

variable {lenient : Bool} {ids : List String} {r r' r'' : Registry}

theorem refl (r : Registry) : Alike lenient ids r r :=
  ⟨fun _ => rfl, fun _ => rfl, fun _ _ => Iff.rfl, fun _ _ => rfl⟩

theorem trans (h : Alike lenient ids r r') (h' : Alike lenient ids r' r'') : Alike lenient ids r r'' where
  home := fun x => (h'.home x).trans (h.home x)
  connections := fun x => (h'.connections x).trans (h.connections x)
  members := fun service x => (h'.members service x).trans (h.members service x)
  admits := fun x hx => (h'.admits x hx).trans (h.admits x hx)

/-- Once they are compared, instances can be asked about. -/
theorem about (h : Alike lenient [] r r')
    (hadmits : ∀ x ∈ ids, r'.admits lenient x = r.admits lenient x) :
    Alike lenient ids r r' :=
  ⟨h.home, h.connections, h.members, hadmits⟩

theorem unknown_iff (h : Alike lenient ids r r') (x : String) :
    r'.known? x = none ↔ r.known? x = none := by
  rw [← home?_eq_none, ← home?_eq_none, h.home]

theorem evicts (h : Alike lenient ids r r') (id : String) : (r'.evict id).1 = (r.evict id).1 := by
  rw [Bool.eq_iff_iff, evict_iff, evict_iff, ne_eq, ne_eq, h.unknown_iff, h.connections]

theorem forgotten? (h : Alike lenient ids r r') (a : RegistryAction) :
    a.forgotten? r' = a.forgotten? r := by
  cases a with
  | evict id => simp only [RegistryAction.forgotten?, h.evicts]
  | _ => rfl

theorem struck? (h : Alike lenient ids r r') (service : String) (a : RegistryAction) :
    a.struck? service r' = a.struck? service r := by
  simp only [RegistryAction.struck?, h.forgotten?, h.home]

theorem enrols_iff (h : Alike lenient ids r r') (service x : String) (a : RegistryAction) :
    a.Enrols service x r' ↔ a.Enrols service x r := by
  cases a with
  | status record => simp only [Enrols, h.unknown_iff]
  | connect record => simp only [Enrols, h.unknown_iff]
  | _ => exact Iff.rfl

end Alike

/-! ### Actions -/

section Actions

variable {lenient : Bool} {ids : List String} {r r' : Registry}

/-- **The same action** keeps two registries alike. -/
theorem alike_run (h : Alike lenient ids r r') (a : RegistryAction) :
    Alike lenient ids (run r a).1 (run r' a).1 where
  home := by
    intro x
    rw [home?_run, home?_run, h.forgotten?, h.home]
  connections := by
    intro x
    cases a with
    | disconnect id =>
      rw [run_disconnect, run_disconnect, connections_disconnect, connections_disconnect, h.connections]
    | connect record => simp only [run, connections_connect, h.connections]
    | observe service records => simp only [run, connections_observe, h.connections]
    | status record => simp only [run, connections_statusOf, h.connections]
    | mark id health => simp only [run, connections_mark, h.connections]
    | evict id => simp only [run, connections_evict, h.connections]
  members := by
    intro service x
    rw [mem_membersOf_run, mem_membersOf_run, h.struck?, h.enrols_iff, h.members]
  admits := by
    intro x hx
    rw [admits_run, admits_run, h.admits x hx]
    cases a with
    | mark id health => simp only [h.home]
    | evict id => simp only [h.connections]
    | _ => rfl

/-- **Marking** makes a difference in health alone. -/
theorem alike_mark (r : Registry) (id : String) (health : Health) :
    Alike lenient [] r (r.mark id health).2 where
  home := by
    intro x
    have hhome := home?_run r (.mark id health) x
    rw [show (RegistryAction.mark id health).forgotten? r = none from rfl, if_neg (by simp)] at hhome
    exact hhome.trans Option.or_none
  connections := connections_mark r id health
  members := by
    intro service x
    rw [membersOf_congr (members_mark r id health)]
  admits := fun x hx => by cases hx

/-! ### Selections -/

/-- Rules that are asked in registries that are alike apply in both or in neither. By induction on them. -/
theorem alike_matching (h : Alike lenient ids r r') (request : Request) (rules : List Rule) :
    Twin (Alike lenient ids) (Rule.matching request rules r) (Rule.matching request rules r') := by
  induction rules generalizing r r' with
  | nil => exact .intro [] h
  | cons rule rest ih =>
    have hone : Twin (Alike lenient ids) (rule.condition.holds request r)
        (rule.condition.holds request r') := by
      cases rule.condition with
      | evict id => exact ⟨h.evicts id, alike_run h (.evict id)⟩
      | _ => exact .intro _ h
    obtain ⟨hlater, hend⟩ := ih hone.2
    refine ⟨?_, hend⟩
    simp only [Rule.matching, hone.1, hlater]

theorem alike_statusesOf (h : Alike lenient ids r r') (records : List Instance) :
    Alike lenient ids (r.statusesOf records).2 (r'.statusesOf records).2 := by
  induction records generalizing r r' with
  | nil => exact h
  | cons record rest ih => exact ih (alike_run h (.status record))

/-- An instance may get requests if it is known and its health admits them. -/
theorem isAlive_eq (r : Registry) (lenient : Bool) (x : String) :
    r.isAlive lenient x = ((r.home? x).isSome && r.admits lenient x) := by
  unfold isAlive home? admits read
  cases r.known? x <;> rfl

/-- The same of the instances that are asked about may get requests. -/
theorem Alike.mem_ids_reachable (h : Alike lenient ids r r') (hr : r.Sound) (hr' : r'.Sound)
    {service x : String} (hx : x ∈ ids) :
    x ∈ (r'.reachable lenient service).map Status.id ↔
      x ∈ (r.reachable lenient service).map Status.id := by
  rw [Registry.mem_ids_reachable hr, Registry.mem_ids_reachable hr', h.members, isAlive_eq, isAlive_eq,
    h.home, h.admits x hx]

end Actions

end Registry

end LoadBalancer

import Mathlib
import LoadBalancer.Proofs.Registry.Announcements

/-!
# Two sides of a registry

Ids of instances and services are divided between two sides, ours and the other one. A registry keeps both,
but nothing that it keeps for one side hangs on the other.

* `Side` – what belongs to us;
* `RegistryAction.On` – an action that names nothing but what is on one side;
* `Registry.Apart` – listed ids, and the services under which instances became known, are on the sides that
  they should be on; `Registry.Leads.apart` keeps this;
* `Registry.Agree` – two registries are the same to us;
* `RegistryAction.agree_run` – **the same action of ours** leaves two such registries the same to us;
* `Registry.Leads.agree` – **actions of the other side** leave a registry the same to us.
-/

namespace LoadBalancer

/-- What belongs to us: ids of instances, services, and names under which selections are held. The rest
belongs to the other side. -/
structure Side where
  ids : String → Bool
  services : String → Bool
  names : String → Bool

namespace Side

/-- The instance, with the service that its record names, is on a side. -/
def has (side : Side) (ours : Bool) (record : Instance) : Bool :=
  side.ids record.id == ours && side.services record.service == ours

theorem has_iff {side : Side} {ours : Bool} {record : Instance} :
    side.has ours record = true ↔
      side.ids record.id = ours ∧ side.services record.service = ours := by
  simp [has]

theorem ids_of_has {side : Side} {ours : Bool} {record : Instance}
    (h : side.has ours record = true) : side.ids record.id = ours := (has_iff.mp h).1

/-- The service that a record names is on the side of the instance. -/
def Fits (side : Side) (record : Instance) : Prop :=
  side.services record.service = side.ids record.id

theorem fits_of_has {side : Side} {ours : Bool} {record : Instance}
    (h : side.has ours record = true) : side.Fits record := by
  obtain ⟨hid, hservice⟩ := has_iff.mp h
  exact hservice.trans hid.symm

theorem has_of_fits {side : Side} {record : Instance} (h : side.Fits record) :
    side.has (side.ids record.id) record = true := has_iff.mpr ⟨rfl, h⟩

end Side

namespace RegistryAction

/-- The action names nothing but what is on a side. -/
def On (side : Side) (ours : Bool) : RegistryAction → Prop
  | observe service records =>
    side.services service = ours ∧ ∀ record ∈ records, side.has ours record = true
  | status record => side.has ours record = true
  | connect record => side.has ours record = true
  | disconnect id => side.ids id = ours
  | mark id _ => side.ids id = ours
  | evict id => side.ids id = ours

end RegistryAction

namespace Registry

/-! ### The sides are apart -/

/-- Listed ids, the services under which instances became known, and the records that are kept, are on the
sides of their instances. -/
structure Apart (side : Side) (r : Registry) : Prop where
  sound : r.Sound
  records : r.Records side.Fits
  members : ∀ service, ∀ id ∈ r.membersOf service, side.ids id = side.services service
  home : ∀ id service, r.home? id = some service → side.services service = side.ids id

theorem apart_empty (side : Side) : Apart side .empty where
  sound := sound_empty
  records := every_empty
  members := by
    intro service id h
    cases h
  home := by
    intro id service h
    cases h

section Apart

variable {side : Side} {ours : Bool} {r : Registry} {a : RegistryAction}

/-- An instance is put on lists of its own side only. -/
theorem on_of_enrols (ha : a.On side ours) {service id : String} (h : a.Enrols service id r) :
    side.services service = ours ∧ side.ids id = ours := by
  cases a with
  | observe other records =>
      obtain ⟨rfl, hid⟩ := h
      obtain ⟨record, hrecord, rfl⟩ := List.mem_map.mp hid
      exact ⟨ha.1, Side.ids_of_has (ha.2 record hrecord)⟩
  | status record =>
      obtain ⟨rfl, rfl, -⟩ := h
      exact (Side.has_iff.mp ha).symm
  | connect record =>
      obtain ⟨rfl, rfl, -⟩ := h
      exact (Side.has_iff.mp ha).symm
  | _ => exact h.elim

theorem on_of_placed (ha : a.On side ours) {service id : String} (h : a.placed? id = some service) :
    side.services service = ours ∧ side.ids id = ours := by
  cases a with
  | observe other records =>
      simp only [RegistryAction.placed?, Option.ite_none_right_eq_some, Option.some.injEq] at h
      obtain ⟨hid, rfl⟩ := h
      obtain ⟨record, hrecord, rfl⟩ := List.mem_map.mp hid
      exact ⟨ha.1, Side.ids_of_has (ha.2 record hrecord)⟩
  | status record =>
      simp only [RegistryAction.placed?, Option.ite_none_right_eq_some, Option.some.injEq] at h
      obtain ⟨rfl, rfl⟩ := h
      exact (Side.has_iff.mp ha).symm
  | connect record =>
      simp only [RegistryAction.placed?, Option.ite_none_right_eq_some, Option.some.injEq] at h
      obtain ⟨rfl, rfl⟩ := h
      exact (Side.has_iff.mp ha).symm
  | _ => cases h

theorem fits_of_brings (ha : a.On side ours) {record : Instance} (h : record ∈ a.brings) :
    side.Fits record := by
  cases a with
  | observe service records => exact Side.fits_of_has (ha.2 record h)
  | status other =>
      rw [List.mem_singleton.mp h]
      exact Side.fits_of_has ha
  | connect other =>
      rw [List.mem_singleton.mp h]
      exact Side.fits_of_has ha
  | _ => cases h

theorem apart_run (h : Apart side r) (ha : a.On side ours) :
    Apart side (RegistryAction.run r a).1 where
  sound := sound_run h.sound a
  records := every_run (Records.law side.Fits) h.records fun _ hbrings => fits_of_brings ha hbrings
  members := by
    intro service id hid
    rcases (RegistryAction.mem_membersOf_run r a service id).mp hid with ⟨hmem, -⟩ | henrols
    · exact h.members service id hmem
    · obtain ⟨hservice, hours⟩ := on_of_enrols ha henrols
      rw [hservice, hours]
  home := by
    intro id service hhome
    rw [RegistryAction.home?_run] at hhome
    split at hhome
    · cases hhome
    · rcases Option.or_eq_some_iff.mp hhome with hhome | ⟨-, hplaced⟩
      · exact h.home id service hhome
      · obtain ⟨hservice, hours⟩ := on_of_placed ha hplaced
        rw [hservice, hours]

/-- An instance that is listed is on the side of the list, with the service that its record names. -/
theorem Apart.has_of_mem_all (h : Apart side r) {service : String} {c : Status}
    (hc : c ∈ r.all service) : side.has (side.services service) c.record = true := by
  obtain ⟨hmember, e, he, rfl⟩ := known?_of_mem_all h.sound hc
  rw [← h.members service _ hmember]
  exact Side.has_of_fits (h.records _ e he)

/-- Actions on either side keep the sides apart. -/
theorem Leads.apart {r' : Registry} (h : Leads (RegistryAction.On side ours) r r')
    (hr : Apart side r) : Apart side r' :=
  h.keeps (fun _ _ ha hr => apart_run hr ha) hr

end Apart

/-! ### The same to us -/

/-- The second registry is the same to us as the first: it knows the same about our instances, lists the
same ids under our services, and has announced the same about our instances. -/
structure Agree (side : Side) (r r' : Registry) : Prop where
  known : ∀ id, side.ids id = true → r'.known? id = r.known? id
  members : ∀ service, side.services service = true → r'.membersOf service = r.membersOf service
  announced : r'.changes.sent.filter (side.ids ·.id) = r.changes.sent.filter (side.ids ·.id)
  capacity : r'.changes.capacity = r.changes.capacity

namespace Agree

variable {side : Side} {r r' r'' : Registry}

theorem refl (r : Registry) : Agree side r r :=
  ⟨fun _ _ => rfl, fun _ _ => rfl, rfl, rfl⟩

theorem symm (h : Agree side r r') : Agree side r' r where
  known := fun id hid => (h.known id hid).symm
  members := fun service hservice => (h.members service hservice).symm
  announced := h.announced.symm
  capacity := h.capacity.symm

theorem trans (h : Agree side r r') (h' : Agree side r' r'') : Agree side r r'' where
  known := fun id hid => (h'.known id hid).trans (h.known id hid)
  members := fun service hservice => (h'.members service hservice).trans (h.members service hservice)
  announced := h'.announced.trans h.announced
  capacity := h'.capacity.trans h.capacity

/-! ### What is read of it -/

theorem connections (h : Agree side r r') {id : String} (hid : side.ids id = true) :
    r'.connections id = r.connections id := by
  simp only [Registry.connections, h.known id hid]

theorem isAlive (h : Agree side r r') (lenient : Bool) {id : String} (hid : side.ids id = true) :
    r'.isAlive lenient id = r.isAlive lenient id := by
  simp only [Registry.isAlive, h.known id hid]

theorem home? (h : Agree side r r') {id : String} (hid : side.ids id = true) :
    r'.home? id = r.home? id := by
  simp only [Registry.home?, h.known id hid]

/-- It is forgotten in the one if it is in the other. -/
theorem evicts (h : Agree side r r') {id : String} (hid : side.ids id = true) :
    (r'.evict id).1 = (r.evict id).1 := by
  rw [Bool.eq_iff_iff, evict_iff, evict_iff, h.known id hid, h.connections hid]

section Listed

variable (h : Agree side r r') (hr : Apart side r) {service : String}
variable (hservice : side.services service = true)

include h hr hservice

theorem entriesOf : r'.entriesOf service = r.entriesOf service := by
  unfold Registry.entriesOf
  rw [h.members service hservice]
  refine List.filterMap_congr ?_
  intro id hid
  exact h.known id ((hr.members service id hid).trans hservice)

theorem all : r'.all service = r.all service := by
  unfold Registry.all
  rw [h.entriesOf hr hservice]

theorem reachable (lenient : Bool) : r'.reachable lenient service = r.reachable lenient service := by
  unfold Registry.reachable
  rw [h.all hr hservice]

theorem snapshot : r'.snapshot service = r.snapshot service := by
  unfold Registry.snapshot
  rw [h.entriesOf hr hservice]

end Listed

end Agree

end Registry

/-! ### Actions of ours -/

namespace RegistryAction

variable {side : Side} {r r' : Registry}

open Registry (Agree Apart)

theorem agree_observe (h : Agree side r r') (service : String) (records : List Instance) :
    Agree side (r.observe service records) (r'.observe service records) := by
  have hboth : (∀ id, side.ids id = true →
      (r'.observe service records).known? id = (r.observe service records).known? id) ∧
      ∀ other, side.services other = true →
        (r'.observe service records).membersOf other = (r.observe service records).membersOf other := by
    unfold Registry.observe
    have hknown := h.known
    have hmembers := h.members
    clear h
    induction records generalizing r r' with
    | nil => exact ⟨hknown, hmembers⟩
    | cons record rest ih =>
        refine @ih (Registry.observeOne service r record) (Registry.observeOne service r' record) ?_ ?_
        · intro id hid
          rw [Registry.known?_observeOne, Registry.known?_observeOne, hknown id hid]
        · intro other hother
          rw [Registry.membersOf_observeOne, Registry.membersOf_observeOne, hmembers other hother]
  refine ⟨hboth.1, hboth.2, ?_, ?_⟩
  · rw [Registry.changes_observe, Registry.changes_observe, h.announced]
  · rw [Registry.changes_observe, Registry.changes_observe, h.capacity]

theorem agree_ensure (h : Agree side r r') {record : Instance} (hid : side.ids record.id = true) :
    Agree side (r.ensure record) (r'.ensure record) := by
  rw [Registry.ensure_eq, Registry.ensure_eq, h.known record.id hid]
  exact agree_observe h record.service _

/-- What an action of ours announces about our instances. -/
theorem announced_of_agree (h : Agree side r r') {a : RegistryAction} (ha : a.On side true) :
    a.announced r' = a.announced r := by
  cases a with
  | mark id health =>
      simp only [announced, h.known id ha]
  | _ => rfl

/-- **The same action of ours**, one kind of action at a time. -/
theorem agree_run (h : Agree side r r') {a : RegistryAction} (ha : a.On side true) :
    Agree side (run r a).1 (run r' a).1 := by
  have hannounced : (run r' a).1.changes.sent.filter (side.ids ·.id) =
      (run r a).1.changes.sent.filter (side.ids ·.id) := by
    rw [Registry.changes_run, Registry.changes_run, announced_of_agree h ha, List.filter_append,
      List.filter_append, h.announced]
  have hcapacity : (run r' a).1.changes.capacity = (run r a).1.changes.capacity := by
    rw [Registry.changes_run, Registry.changes_run]
    exact h.capacity
  suffices hboth : (∀ id, side.ids id = true → (run r' a).1.known? id = (run r a).1.known? id) ∧
      ∀ service, side.services service = true →
        (run r' a).1.membersOf service = (run r a).1.membersOf service from
    ⟨hboth.1, hboth.2, hannounced, hcapacity⟩
  cases a with
  | observe service records =>
      have hall := agree_observe h service records
      exact ⟨hall.known, hall.members⟩
  | status record =>
      have hall := agree_ensure h (Side.ids_of_has ha)
      simp only [run, Registry.registry_statusOf]
      exact ⟨hall.known, hall.members⟩
  | connect record =>
      have hall := agree_ensure h (Side.ids_of_has ha)
      refine ⟨?_, ?_⟩
      · intro id hid
        simp only [run, Registry.known?_connect, h.known id hid]
      · intro service hservice
        simp only [run]
        rw [Registry.membersOf_congr (Registry.members_connect r' record),
          Registry.membersOf_congr (Registry.members_connect r record)]
        exact hall.members service hservice
  | disconnect id =>
      rw [run_disconnect, run_disconnect]
      refine ⟨?_, ?_⟩
      · intro x hx
        simp only [Registry.known?_disconnect, h.known x hx]
      · intro service hservice
        rw [Registry.membersOf_congr (Registry.members_disconnect r' id),
          Registry.membersOf_congr (Registry.members_disconnect r id)]
        exact h.members service hservice
  | mark id health =>
      refine ⟨?_, ?_⟩
      · intro x hx
        simp only [run, Registry.known?_mark, h.known x hx]
      · intro service hservice
        simp only [run]
        rw [Registry.membersOf_congr (Registry.members_mark r' id health),
          Registry.membersOf_congr (Registry.members_mark r id health)]
        exact h.members service hservice
  | evict id =>
      have hid : side.ids id = true := ha
      refine ⟨?_, ?_⟩
      · intro x hx
        simp only [run, Registry.known?_evict, h.known x hx, h.connections hid]
      · intro service hservice
        simp only [run, Registry.membersOf_evict, h.evicts hid, h.home? hid, h.members service hservice]

end RegistryAction

/-! ### Actions of the other side -/

namespace Registry

variable {side : Side} {r r' : Registry} {a : RegistryAction}

/-- The other side says nothing about our instances. -/
theorem announced_of_other (ha : a.On side false) :
    (a.announced r).filter (side.ids ·.id) = [] := by
  cases a with
  | mark id health =>
      simp only [RegistryAction.announced]
      split
      · split
        · rfl
        · have hid : side.ids id = false := ha
          simp [hid]
      · rfl
  | _ => rfl

theorem known?_of_other (ha : a.On side false) {id : String} (hid : side.ids id = true) :
    (RegistryAction.run r a).1.known? id = r.known? id := by
  have hne : ∀ {x : String}, side.ids x = false → x ≠ id := by
    rintro x hx rfl
    rw [hid] at hx
    cases hx
  cases a with
  | observe service records =>
      have hout : id ∉ records.map Instance.id := by
        intro hmem
        obtain ⟨record, hrecord, rfl⟩ := List.mem_map.mp hmem
        exact hne (Side.ids_of_has (ha.2 record hrecord)) rfl
      simp only [RegistryAction.run, known?_observe, latest_eq_none_iff.mpr hout]
  | status record =>
      rw [RegistryAction.run, registry_statusOf]
      exact (known?_ensure r record id).trans (if_neg (hne (Side.ids_of_has ha)))
  | connect record => exact (known?_connect r record id).trans (if_neg (hne (Side.ids_of_has ha)))
  | disconnect x =>
      rw [RegistryAction.run_disconnect]
      exact (known?_disconnect r x id).trans (if_neg (hne ha))
  | mark x health => exact (known?_mark r x health id).trans (if_neg (hne ha))
  | evict x => exact (known?_evict r x id).trans (if_neg fun h => hne ha h.1)

/-- **One action of the other side** is nothing to us. -/
theorem agree_of_other (hr : Apart side r) (ha : a.On side false) :
    Agree side r (RegistryAction.run r a).1 where
  known := fun id hid => known?_of_other ha hid
  members := by
    intro service hservice
    obtain ⟨added, hlist, -, hadded⟩ := RegistryAction.membersOf_run r a service
    have hnothing : added = [] := by
      refine List.eq_nil_iff_forall_not_mem.mpr ?_
      intro z hz
      obtain ⟨hother, -⟩ := on_of_enrols ha ((hadded z).mp hz).2
      rw [hservice] at hother
      cases hother
    -- what is taken out of one of our lists became known under a service of ours
    have hstays : ∀ z, a.struck? service r ≠ some z := by
      intro z hz
      obtain ⟨hforgotten, hhome⟩ := RegistryAction.struck?_eq_some.mp hz
      obtain ⟨rfl, -, -⟩ := RegistryAction.forgotten?_eq_some hforgotten
      have hsame := hr.home z service hhome
      rw [hservice, show side.ids z = false from ha] at hsame
      cases hsame
    rw [hlist, hnothing, List.append_nil]
    exact List.filter_eq_self.mpr fun z _ => decide_eq_true (hstays z)
  announced := by
    rw [changes_run, List.filter_append, announced_of_other ha, List.nil_append]
  capacity := by
    rw [changes_run]

/-- **Actions of the other side** are nothing to us, by induction on them. -/
theorem Leads.agree (h : Leads (RegistryAction.On side false) r r') (hr : Apart side r) :
    Agree side r r' := by
  have hboth : Apart side r' ∧ Agree side r r' := by
    refine h.keeps (P := fun t => Apart side t ∧ Agree side r t) ?_ ⟨hr, .refl r⟩
    intro t a ha ht
    exact ⟨apart_run ht.1 ha, ht.2.trans (agree_of_other ht.1 ha)⟩
  exact hboth.2

end Registry

end LoadBalancer

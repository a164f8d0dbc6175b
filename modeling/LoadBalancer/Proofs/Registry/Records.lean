import Mathlib
import LoadBalancer.Proofs.Registry.Run
import LoadBalancer.Rule

/-!
# The records in a registry

Which record of an instance the registry answers with, and where it comes from.

* `latest` – the last of some records with an id; `Registry.known?_observe` – the one that counts when
  records are seen under a service;
* `Registry.Forgets` – instances are forgotten and nothing else happens, as while rules are asked;
* `Registry.mem_ids_all`, `Registry.mem_ids_reachable` – whose status the registry has for a service;
* `Registry.statusesOf_of_known`, `Registry.ids_statusesOf` – the statuses of several instances;
* `Registry.Records` – a property that all records in a registry have if all that came in have it.
-/

namespace LoadBalancer

/-! ### The latest record -/

/-- The last of some records with an id. -/
def latest (records : List Instance) (id : String) : Option Instance :=
  (records.filter (·.id = id)).getLast?

theorem latest_cons (record : Instance) (rest : List Instance) (id : String) :
    latest (record :: rest) id =
      if record.id = id then some ((latest rest id).getD record) else latest rest id := by
  unfold latest
  by_cases h : record.id = id
  · simp only [h, List.filter_cons, decide_true, if_true, List.getLast?_cons]
  · simp only [h, List.filter_cons, decide_false, Bool.false_eq_true, if_false]

theorem latest_eq_some {records : List Instance} {id : String} {record : Instance}
    (h : latest records id = some record) : record ∈ records ∧ record.id = id := by
  have hmem := List.mem_filter.mp (List.mem_of_getLast? h)
  exact ⟨hmem.1, by simpa using hmem.2⟩

theorem latest_eq_none_iff {records : List Instance} {id : String} :
    latest records id = none ↔ id ∉ records.map Instance.id := by
  unfold latest
  rw [List.getLast?_eq_none_iff, List.filter_eq_nil_iff]
  simp only [decide_eq_true_eq, List.mem_map, not_exists, not_and]

/-- If the ids are different, the record of an id is the last one. -/
theorem latest_of_nodup {records : List Instance} (h : (records.map Instance.id).Nodup)
    {record : Instance} (hmem : record ∈ records) : latest records record.id = some record := by
  cases hl : latest records record.id with
  | none => exact absurd (List.mem_map.mpr ⟨record, hmem, rfl⟩) (latest_eq_none_iff.mp hl)
  | some other =>
      obtain ⟨hother, hid⟩ := latest_eq_some hl
      rw [List.inj_on_of_nodup_map h hother hmem hid]

namespace Registry

theorem refresh_some_refresh (service : String) (record record' : Instance) (o : Option Entry) :
    Entry.refresh service record (some (Entry.refresh service record' o)) =
      Entry.refresh service record o := by
  cases o <;> rfl

/-- Of several records of an instance the last one counts. -/
theorem known?_observe (r : Registry) (service : String) (records : List Instance) (x : String) :
    (r.observe service records).known? x =
      match latest records x with
      | some record => some (Entry.refresh service record (r.known? x))
      | none => r.known? x := by
  induction records generalizing r with
  | nil => rfl
  | cons record rest ih =>
      rw [show r.observe service (record :: rest) = (observeOne service r record).observe service rest
        from rfl, ih, known?_observeOne, latest_cons]
      by_cases h : record.id = x
      · rw [if_pos h, if_pos h]
        cases latest rest x with
        | none => rfl
        | some record' =>
            simp only [Option.getD_some]
            rw [refresh_some_refresh]
      · rw [if_neg h, if_neg h]

/-- The record of an instance that was seen is the last one. -/
theorem record_of_observe {r : Registry} {service : String} {records : List Instance} {x : String}
    {e : Entry} (h : (r.observe service records).known? x = some e)
    (hx : x ∈ records.map Instance.id) : latest records x = some e.record := by
  rw [known?_observe] at h
  cases hlatest : latest records x with
  | none => exact absurd hx (latest_eq_none_iff.mp hlatest)
  | some record =>
      rw [hlatest] at h
      cases h
      cases r.known? x <;> rfl

/-! ### Forgetting -/

/-- The second registry comes out of the first by forgetting. What is still known is known as before,
and stands in the same lists. -/
structure Forgets (r r' : Registry) : Prop where
  known : ∀ x, r'.known? x ≠ none → r'.known? x = r.known? x
  members : ∀ x, r'.known? x ≠ none →
    ∀ service, x ∈ r'.membersOf service ↔ x ∈ r.membersOf service

namespace Forgets

variable {r r' r'' : Registry}

theorem refl (r : Registry) : Forgets r r :=
  ⟨fun _ _ => rfl, fun _ _ _ => Iff.rfl⟩

theorem trans (h : Forgets r r') (h' : Forgets r' r'') : Forgets r r'' := by
  refine ⟨?_, ?_⟩
  · intro x hx
    have hmiddle := h'.known x hx
    rw [hmiddle] at hx ⊢
    exact h.known x hx
  · intro x hx service
    have hmiddle := h'.known x hx
    rw [h'.members x hx service]
    rw [hmiddle] at hx
    exact h.members x hx service

theorem evict (r : Registry) (id : String) : Forgets r (r.evict id).2 := by
  refine ⟨?_, ?_⟩
  · intro x hx
    have hk := known?_evict r id x
    split at hk
    · exact absurd hk hx
    · exact hk
  · intro x hx service
    by_cases hid : id = x
    · -- an instance that is still known was not forgotten at all
      subst hid
      have hrefused : (r.evict id).1 = false := by
        rw [Bool.eq_false_iff]
        intro hdone
        obtain ⟨-, hzero⟩ := (evict_iff r id).mp hdone
        have hk := known?_evict r id id
        rw [if_pos ⟨rfl, hzero⟩] at hk
        exact hx hk
      rw [evict_eq_self hrefused]
    · exact mem_membersOf_evict hid service

/-- Rules that are asked forget instances at most. -/
theorem matching (request : Request) (rules : List Rule) (r : Registry) :
    Forgets r (Rule.matching request rules r).2 := by
  induction rules generalizing r with
  | nil => exact refl r
  | cons rule rest ih =>
      have hone : Forgets r (rule.condition.holds request r).2 := by
        cases rule.condition with
        | evict id => exact evict r id
        | _ => exact refl r
      exact hone.trans (ih _)

theorem sound (h : Forgets r r') (hr : r.Sound) : r'.Sound := by
  intro x e he
  have hknown := h.known x (by rw [he]; exact Option.some_ne_none e)
  exact hr x e (hknown.symm.trans he)

end Forgets

/-! ### The statuses of a service -/

theorem mem_all {r : Registry} {service : String} {c : Status} :
    c ∈ r.all service ↔ ∃ id ∈ r.membersOf service, ∃ e, r.known? id = some e ∧ e.status = c := by
  unfold all entriesOf
  simp only [List.mem_map, List.mem_filterMap]
  constructor
  · rintro ⟨e, ⟨id, hid, he⟩, hc⟩
    exact ⟨id, hid, e, he, hc⟩
  · rintro ⟨id, hid, e, he, hc⟩
    exact ⟨e, ⟨id, hid, he⟩, hc⟩

/-- In a sound registry a status is the one that its id leads to. -/
theorem known?_of_mem_all {r : Registry} (hr : r.Sound) {service : String} {c : Status}
    (h : c ∈ r.all service) :
    c.id ∈ r.membersOf service ∧ ∃ e, r.known? c.id = some e ∧ e.status = c := by
  obtain ⟨id, hid, e, he, rfl⟩ := mem_all.mp h
  have hkeyed : e.status.id = id := (hr id e he).keyed
  rw [hkeyed]
  exact ⟨hid, e, he, rfl⟩

theorem mem_ids_all {r : Registry} (hr : r.Sound) {service x : String} :
    x ∈ (r.all service).map Status.id ↔ x ∈ r.membersOf service ∧ r.known? x ≠ none := by
  constructor
  · intro hx
    obtain ⟨c, hc, rfl⟩ := List.mem_map.mp hx
    obtain ⟨hmember, e, he, -⟩ := known?_of_mem_all hr hc
    refine ⟨hmember, ?_⟩
    rw [he]
    exact Option.some_ne_none e
  · rintro ⟨hmember, hknown⟩
    obtain ⟨e, he⟩ := Option.ne_none_iff_exists'.mp hknown
    exact List.mem_map.mpr ⟨e.status, mem_all.mpr ⟨x, hmember, e, he, rfl⟩, (hr x e he).keyed⟩

theorem mem_ids_reachable {r : Registry} (hr : r.Sound) {lenient : Bool} {service x : String} :
    x ∈ (r.reachable lenient service).map Status.id ↔
      x ∈ r.membersOf service ∧ r.isAlive lenient x = true := by
  unfold reachable isAlive
  constructor
  · intro hx
    obtain ⟨c, hc, rfl⟩ := List.mem_map.mp hx
    obtain ⟨hall, halive⟩ := List.mem_filter.mp hc
    obtain ⟨hmember, e, he, rfl⟩ := known?_of_mem_all hr hall
    rw [he]
    exact ⟨hmember, halive⟩
  · rintro ⟨hmember, halive⟩
    cases he : r.known? x with
    | none =>
        rw [he] at halive
        cases halive
    | some e =>
        rw [he] at halive
        have hall : e.status ∈ r.all service := mem_all.mpr ⟨x, hmember, e, he, rfl⟩
        exact List.mem_map.mpr ⟨e.status, List.mem_filter.mpr ⟨hall, halive⟩, (hr x e he).keyed⟩

/-- Every status of several instances has the id of its instance. -/
theorem ids_statusesOf {r : Registry} (hr : r.Sound) (records : List Instance) :
    (r.statusesOf records).1.map Status.id = records.map Instance.id := by
  induction records generalizing r with
  | nil => rfl
  | cons record rest ih =>
      have hsound := sound_ensure hr record
      have hself := known?_ensure_self r record
      have hkeyed := (hsound record.id _ hself).keyed
      have hrest := ih hsound
      simp only [statusesOf, List.map_cons, registry_statusOf, hrest]
      congr 1
      simp only [statusOf, hself]
      exact hkeyed

/-- Asking for the statuses of known instances changes nothing. -/
theorem statusesOf_of_known {r : Registry} {records : List Instance}
    (h : ∀ i ∈ records, r.known? i.id ≠ none) : (r.statusesOf records).2 = r := by
  induction records with
  | nil => rfl
  | cons record rest ih =>
      have hone : (r.statusOf record).2 = r := by
        rw [registry_statusOf]
        obtain ⟨e, he⟩ := Option.ne_none_iff_exists'.mp (h record List.mem_cons_self)
        unfold ensure
        rw [he]
      simp only [statusesOf, hone]
      exact ih fun i hi => h i (List.mem_cons_of_mem _ hi)

/-! ### Where records come from -/

/-- All records in the registry have a property. -/
def Records (ok : Instance → Prop) (r : Registry) : Prop := r.Every fun _ e => ok e.record

/-- What the records in a registry and those that come in have in common is kept. -/
theorem Records.law (ok : Instance → Prop) : Entry.Law ok fun _ e => ok e.record where
  fresh := fun _ _ h => h
  record := fun _ _ h _ => h
  opened := fun _ _ h => h
  closed := fun _ _ h => h
  marked := fun _ _ _ h => h

variable {ok : Instance → Prop} {r : Registry}

theorem records_runAll {actions : List RegistryAction} (h : r.Records ok)
    (hok : ∀ a ∈ actions, ∀ i ∈ a.brings, ok i) :
    (RegistryAction.runAll r actions).1.Records ok :=
  every_runAll (Records.law ok) h hok

theorem Forgets.records {r' : Registry} (h : Forgets r r') (hr : r.Records ok) :
    r'.Records ok := by
  intro x e he
  have hknown := h.known x (by rw [he]; exact Option.some_ne_none e)
  exact hr x e (hknown.symm.trans he)

/-- The statuses of instances show records of the registry, or of these instances. -/
theorem records_statusesOf {records : List Instance} (h : r.Records ok) (hok : ∀ i ∈ records, ok i) :
    (r.statusesOf records).2.Records ok ∧ ∀ c ∈ (r.statusesOf records).1, ok c.record := by
  induction records generalizing r with
  | nil => exact ⟨h, by simp [statusesOf]⟩
  | cons record rest ih =>
      have hself := known?_ensure_self r record
      have hone := every_ensure (Records.law ok) h (hok record List.mem_cons_self)
      obtain ⟨hregistry, hstatuses⟩ := ih hone fun i hi => hok i (List.mem_cons_of_mem _ hi)
      simp only [statusesOf, registry_statusOf]
      refine ⟨hregistry, ?_⟩
      intro c hc
      rcases List.mem_cons.mp hc with hfirst | hrest
      · simp only [statusOf, hself] at hfirst
        rw [hfirst]
        exact hone record.id _ hself
      · exact hstatuses c hrest

end Registry

end LoadBalancer

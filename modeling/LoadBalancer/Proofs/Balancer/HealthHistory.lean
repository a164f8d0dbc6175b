import Mathlib
import LoadBalancer.Proofs.Balancer.Conduct
import LoadBalancer.Proofs.Registry.Announcements

/-!
# The history of health

Somebody who follows the changes of health from the start on, and loses none, knows the health of every
instance. Only being marked changes it; selections, whatever they find, mark nothing.

* `Balancer.permits_marksNothing` – a selection whose chooser marks nothing is made of actions that mark
  nothing;
* `Balancer.changes_select`, `Balancer.changes_route` – such a selection or route announces no change;
* `Registry.shown_of_known?` – all answers about an instance show the health of its entry;
* `Registry.told_of_known?` – what was announced of an instance since it became known leads to its entry;
* `Registry.health_replays` – the changes that were heard of an instance since it became known lead to the
  health that is shown.
-/

namespace LoadBalancer

open RegistryAction

/-! ### Selections -/

/-- A selection marks nothing unless its chooser does. -/
theorem Balancer.permits_marksNothing {b : Balancer} {bound : BoundRoute}
    (h : bound.chooser.rule.DoesOnly MarksNothing b.script) : Permits MarksNothing b bound :=
  ⟨fun _ _ _ => rfl, fun _ _ => rfl, fun _ _ _ => rfl, h⟩

/-- A selection announces no change of health unless its chooser marks; so does a route. -/
theorem Balancer.changes_select {b : Balancer} {bound : BoundRoute} (service : String) (request : Request)
    (h : bound.chooser.rule.DoesOnly MarksNothing b.script) :
    b.registry.Leads MarksNothing (b.select service request bound).2.registry ∧
      (b.select service request bound).2.registry.changes = b.registry.changes := by
  have hleads : b.registry.Leads MarksNothing (b.select service request bound).2.registry :=
    Balancer.registry_select (Balancer.permits_marksNothing h) (fun _ _ => rfl)
  exact ⟨hleads, hleads.changes⟩

theorem Balancer.changes_route [Url.DomainNames] {b : Balancer} {bound : BoundRoute} (request : Request)
    (h : bound.chooser.rule.DoesOnly MarksNothing b.script) :
    b.registry.Leads MarksNothing (b.route request bound).2.2.registry ∧
      (b.route request bound).2.2.registry.changes = b.registry.changes := by
  have hleads : b.registry.Leads MarksNothing (b.route request bound).2.2.registry :=
    Balancer.registry_route (Balancer.permits_marksNothing h) (fun _ _ => rfl) (fun _ _ => rfl)
  exact ⟨hleads, hleads.changes⟩

namespace Registry

/-- What marks nothing leaves the health of a known instance alone, unless it forgets the instance. -/
theorem health_of_marksNothing {r : Registry} {a : RegistryAction} {x : String} {e : Entry}
    (ha : a.MarksNothing) (he : r.known? x = some e) (hkept : a.forgotten? r ≠ some x) :
    ∃ e', (run r a).1.known? x = some e' ∧ e'.health = e.health := by
  have hstays : (run r a).1.known? x ≠ none := by
    apply known?_run_ne_none _ hkept
    rw [he]
    exact Option.some_ne_none e
  obtain ⟨e', he'⟩ := Option.ne_none_iff_exists'.mp hstays
  refine ⟨e', he', ?_⟩
  rw [health_run_of_known he he', ha x]
  rfl

/-! ### Marking -/

/-- Marking answers the health before. An unknown instance cannot be marked. -/
theorem mark_answer (r : Registry) (x : String) (health : Health) :
    (r.mark x health).1 = (r.known? x).map Entry.health ∧
      (r.known? x = none → (r.mark x health).2 = r) := by
  unfold mark
  cases r.known? x with
  | none => exact ⟨rfl, fun _ => rfl⟩
  | some e => exact ⟨rfl, fun h => by cases h⟩

/-! ### What is shown -/

/-- The entry of an instance says what is shown of its health, wherever it is shown; its own service shows
it. -/
structure Shows (r : Registry) (x : String) (e : Entry) : Prop where
  alive : ∀ lenient, r.isAlive lenient x = e.health.isReachable lenient
  all : ∀ service, ∀ c ∈ r.all service, c.id = x → c.health = e.health
  snapshot : ∀ service, ∀ report ∈ r.snapshot service, report.id = x → report.health = e.health
  listed : e.status ∈ r.all e.service
  reported : e.report ∈ r.snapshot e.service

theorem shown_of_known? {r : Registry} (hr : r.Sound) (hi : r.Indexed) {x : String} {e : Entry}
    (he : r.known? x = some e) : r.Shows x e := by
  have hhome : x ∈ r.membersOf e.service := by
    apply hi.home
    rw [home?, he]
    rfl
  have hentry : e ∈ r.entriesOf e.service := List.mem_filterMap.mpr ⟨x, hhome, he⟩
  -- an entry that is listed for a service under an id is the entry of that id
  have hsame : ∀ service, ∀ other ∈ r.entriesOf service, other.record.id = x → other = e := by
    intro service other hother hid
    obtain ⟨id, -, hknown⟩ := List.mem_filterMap.mp hother
    have hkeyed : id = x := (hr id other hknown).keyed.symm.trans hid
    rw [hkeyed, he] at hknown
    exact (Option.some.inj hknown).symm
  refine ⟨?_, ?_, ?_, List.mem_map_of_mem hentry, List.mem_map_of_mem hentry⟩
  · intro lenient
    simp only [isAlive, he]
  · intro service c hc hid
    obtain ⟨other, hother, rfl⟩ := List.mem_map.mp hc
    rw [← hsame service other hother hid]
    rfl
  · intro service report hreport hid
    obtain ⟨other, hother, rfl⟩ := List.mem_map.mp hreport
    rw [← hsame service other hother hid]
    rfl

/-! ### Since it became known -/

/-- A known instance became known at some point of the run, and what was announced of it since then leads to
its entry. -/
theorem told_of_known? {actions : List RegistryAction} {x : String} {e : Entry}
    (he : (runAll .empty actions).1.known? x = some e) :
    ∃ before since, actions = before ++ since ∧ Tenure .empty x before since ∧
      Told (runAll .empty before).1 x since e := by
  obtain ⟨before, since, rfl, htenure, -⟩ := total_of_tenure rfl actions he
  -- the instance is unknown where its tenure starts, so that something was done since
  have hne : since ≠ [] := by
    rintro rfl
    have hnone := htenure.unknown
    rw [List.append_nil, hnone] at he
    cases he
  exact ⟨before, since, rfl, htenure, told_of_tenure htenure hne he⟩

/-! ### The main statement -/

/-- **What was heard leads to the present health.** Actions on a registry come in parts, after each of which
somebody reads who has followed the changes of health from the start on, and has lost none. For every
instance that is known at the end, there are the actions since it became known: the changes heard of it since
then lead from unknown health, each from where the one before it has led and elsewhere, to the health of its
entry; each names the service under which it became known, and the health is the one that it was marked with
last since then. This is the health that is shown wherever the instance is shown, and counted. Marking answers
the health before, does nothing for an unknown instance, and leaves open connections alone. What marks nothing
announces nothing and leaves the health of every instance alone that it does not forget. A selection or a
route is a run of such actions, unless its chooser marks instances itself. -/
theorem health_replays [Url.DomainNames] (parts : List (List RegistryAction))
    (hkept : ∀ batch ∈ Registry.empty.heard Registry.empty.changes.subscribe parts, batch.lost = 0) :
    let actions := parts.flatten
    let heard := (Registry.empty.heard Registry.empty.changes.subscribe parts).flatMap Batch.items
    let r := (runAll .empty actions).1
    (∀ x e, r.known? x = some e →
      r.Shows x e ∧
      ∃ before since, actions = before ++ since ∧ Tenure .empty x before since ∧
        heard = announcedAll .empty before ++ announcedAll (runAll .empty before).1 since ∧
        Told (runAll .empty before).1 x since e) ∧
    (r.stats.healthy = {x | (r.known? x).map Entry.health = some .healthy}.ncard ∧
      r.stats.unhealthy = {x | (r.known? x).map Entry.health = some .unhealthy}.ncard ∧
      r.stats.unknown = {x | (r.known? x).map Entry.health = some .unknown}.ncard) ∧
    (∀ x health,
      (r.mark x health).1 = (r.known? x).map Entry.health ∧
      (r.known? x = none → (r.mark x health).2 = r) ∧
      ∀ y, (r.mark x health).2.connections y = r.connections y) ∧
    (∀ a : RegistryAction, a.MarksNothing →
      (run r a).1.changes = r.changes ∧
      ∀ x e, r.known? x = some e → a.forgotten? r ≠ some x →
        ∃ e', (run r a).1.known? x = some e' ∧ e'.health = e.health) ∧
    ∀ (b : Balancer) (request : Request) (bound : BoundRoute), b.registry = r →
      bound.chooser.rule.DoesOnly MarksNothing b.script →
      (∀ service, r.Leads MarksNothing (b.select service request bound).2.registry ∧
        (b.select service request bound).2.registry.changes = r.changes) ∧
      r.Leads MarksNothing (b.route request bound).2.2.registry ∧
      (b.route request bound).2.2.registry.changes = r.changes := by
  intro actions heard r
  have hsound : r.Sound := sound_runAll sound_empty actions
  have hindexed : r.Indexed := indexed_runAll indexed_empty actions
  have hheard : heard = announcedAll .empty actions := items_heard hkept
  refine ⟨?_, ⟨countHealth_eq_ncard r _, countHealth_eq_ncard r _, countHealth_eq_ncard r _⟩, ?_, ?_, ?_⟩
  · intro x e he
    refine ⟨shown_of_known? hsound hindexed he, ?_⟩
    obtain ⟨before, since, hsplit, htenure, htold⟩ := told_of_known? he
    refine ⟨before, since, hsplit, htenure, ?_, htold⟩
    rw [hheard, hsplit, announcedAll_append]
  · intro x health
    obtain ⟨hanswer, hunknown⟩ := mark_answer r x health
    exact ⟨hanswer, hunknown, connections_mark r x health⟩
  · intro a ha
    refine ⟨?_, fun x e => health_of_marksNothing ha⟩
    rw [changes_run, announced_of_marksNothing ha]
    rfl
  · intro b request bound hb hchooser
    rw [← hb]
    exact ⟨fun service => Balancer.changes_select service request hchooser,
      Balancer.changes_route request hchooser⟩

/-- An instance is found alive, forgotten, comes back under another service, and is found dead twice, with
connections in between; another one that is not known is marked too. -/
theorem health_replays_returned :
    let first := Instance.plain "a" "s" "10.0.0.1" 80
    let second := Instance.plain "a" "t" "10.0.0.2" 80
    let parts : List (List RegistryAction) :=
      [[.observe "s" [first], .mark "a" .healthy, .mark "z" .healthy, .evict "a"],
        [.connect second, .mark "a" .unhealthy, .disconnect "a", .mark "a" .unhealthy]]
    let batches := Registry.empty.heard Registry.empty.changes.subscribe parts
    let r := (runAll .empty parts.flatten).1
    let bound : BoundRoute := ⟨.default, ⟨1, .ofAlgorithm .roundRobin⟩⟩
    (∀ batch ∈ batches, batch.lost = 0) ∧
      batches.flatMap Batch.items =
        [⟨"a", "s", .unknown, .healthy⟩, ⟨"a", "t", .unknown, .unhealthy⟩] ∧
      (∃ e before since, r.known? "a" = some e ∧ e.health = .unhealthy ∧ r.Shows "a" e ∧
        Told (runAll .empty before).1 "a" since e ∧ parts.flatten = before ++ since) ∧
      r.stats.unhealthy = 1 ∧
      ∀ (b : Balancer) (request : Request), b.registry = r →
        (b.select "t" request bound).2.registry.changes = r.changes := by
  intro first second parts batches r bound
  have hkept : ∀ batch ∈ batches, batch.lost = 0 := by decide +kernel
  have hknown : r.known? "a" = some ⟨second, "t", 0, 1, .unhealthy⟩ := by decide +kernel
  obtain ⟨hinstances, -, -, -, hselections⟩ := health_replays parts hkept
  obtain ⟨hshows, before, since, hsplit, -, -, htold⟩ := hinstances "a" _ hknown
  refine ⟨hkept, by decide +kernel, ?_, by decide +kernel, ?_⟩
  · exact ⟨_, before, since, hknown, rfl, hshows, htold, hsplit⟩
  · intro b request hb
    have hround : bound.chooser.rule.DoesOnly MarksNothing b.script :=
      PickRule.doesOnly_ofAlgorithm _ _ .roundRobin
    have hpart := (hselections b request bound hb hround).1 "t"
    exact hpart.2

end Registry

end LoadBalancer

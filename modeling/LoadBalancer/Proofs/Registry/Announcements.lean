import Mathlib
import LoadBalancer.Proofs.Channel
import LoadBalancer.Proofs.Registry.Listing

/-!
# What a registry announces

A registry announces the changes of health that it is told of. What has been announced about an instance
since it became known leads from unknown health to the present one.

* `RegistryAction.announced`, `RegistryAction.announcedAll` – the changes that an action announces, and those
  of a run; `Registry.changes_run` and `Registry.changes_runAll` say that nothing else is announced;
* `HealthChange.Chain` – changes that lead from one health to another;
* `RegistryAction.health_run` – **what one action does to the health of an instance**;
* `RegistryAction.Told`, `RegistryAction.told_of_tenure` – what is announced about an instance since it became
  known, by induction on the actions since;
* `Registry.heard`, `Registry.items_heard` – a reader that loses nothing hears all that is announced;
* `Registry.countHealth_eq_ncard` – the instances of a health are counted once each.
-/

namespace LoadBalancer

/-! ### Chains of changes -/

/-- Changes that lead from one health to another: each begins where the one before it has led, and leads
elsewhere. -/
inductive HealthChange.Chain : Health → List HealthChange → Health → Prop
  | done (h : Health) : Chain h [] h
  | step {start h : Health} {c : HealthChange} {rest : List HealthChange} (hold : c.old = start)
      (hnew : c.old ≠ c.new) (hrest : Chain c.new rest h) : Chain start (c :: rest) h

theorem HealthChange.Chain.snoc {start : Health} {cs : List HealthChange} {c : HealthChange}
    (h : Chain start cs c.old) (hnew : c.old ≠ c.new) : Chain start (cs ++ [c]) c.new := by
  generalize hlast : c.old = last at h
  induction h with
  | done last => exact .step hlast hnew (.done c.new)
  | step hold hother _ ih => exact .step hold hother (ih hlast)

namespace RegistryAction

/-! ### What is announced -/

/-- The changes of health that an action announces. -/
def announced (r : Registry) : RegistryAction → List HealthChange
  | mark id health =>
    match r.known? id with
    | some e => if e.health = health then [] else [⟨id, e.service, e.health, health⟩]
    | none => []
  | _ => []

/-- The changes of health that actions announce in turn. -/
def announcedAll (r : Registry) : List RegistryAction → List HealthChange
  | [] => []
  | a :: rest => a.announced r ++ announcedAll (run r a).1 rest

theorem announcedAll_append (r : Registry) (xs ys : List RegistryAction) :
    announcedAll r (xs ++ ys) = announcedAll r xs ++ announcedAll (runAll r xs).1 ys := by
  induction xs generalizing r with
  | nil => rfl
  | cons a rest ih =>
      show a.announced r ++ announcedAll (run r a).1 (rest ++ ys) = _
      rw [ih, ← List.append_assoc]
      rfl

theorem announcedAll_snoc (r : Registry) (actions : List RegistryAction) (a : RegistryAction) :
    announcedAll r (actions ++ [a]) = announcedAll r actions ++ a.announced (runAll r actions).1 := by
  rw [announcedAll_append]
  show _ ++ (_ ++ []) = _
  rw [List.append_nil]

/-- An action announces one change at most. -/
theorem reverse_announced (r : Registry) (a : RegistryAction) :
    (a.announced r).reverse = a.announced r := by
  cases a with
  | mark id health =>
      simp only [announced]
      cases r.known? id with
      | none => rfl
      | some e => by_cases h : e.health = health <;> simp [h]
  | _ => rfl

/-- The health that an instance is marked with. -/
def marked? (x : String) : RegistryAction → Option Health
  | mark id health => if id = x then some health else none
  | _ => none

/-- The action marks no instance. -/
def MarksNothing (a : RegistryAction) : Prop := ∀ x, a.marked? x = none

/-- What marks nothing announces nothing. -/
theorem announced_of_marksNothing {a : RegistryAction} (h : a.MarksNothing) (r : Registry) :
    a.announced r = [] := by
  cases a with
  | mark id health =>
      have hself := h id
      simp [marked?] at hself
  | _ => rfl

/-- A change is announced of a known instance that is marked with another health. -/
theorem announced_about (r : Registry) (a : RegistryAction) (x : String) :
    (a.announced r).filter (·.id = x) =
      match a.marked? x, r.known? x with
      | some health, some e => if e.health = health then [] else [⟨x, e.service, e.health, health⟩]
      | _, _ => [] := by
  cases a with
  | mark id health =>
      simp only [announced, marked?]
      by_cases hid : id = x
      · subst hid
        rw [if_pos rfl]
        cases r.known? id with
        | none => rfl
        | some e => by_cases h : e.health = health <;> simp [h]
      · rw [if_neg hid]
        cases r.known? id with
        | none => rfl
        | some e => by_cases h : e.health = health <;> simp [h, hid]
  | _ => rfl

end RegistryAction

namespace Registry

theorem changes_observe (r : Registry) (service : String) (records : List Instance) :
    (r.observe service records).changes = r.changes := by
  unfold observe
  induction records generalizing r with
  | nil => rfl
  | cons record rest ih => exact ih (observeOne service r record)

theorem changes_ensure (r : Registry) (record : Instance) :
    (r.ensure record).changes = r.changes := by
  rw [ensure_eq, changes_observe]

/-- What has been announced before an action is still there after it. -/
theorem changes_run (r : Registry) (a : RegistryAction) :
    (RegistryAction.run r a).1.changes =
      { r.changes with sent := a.announced r ++ r.changes.sent } := by
  cases a with
  | observe service records => exact changes_observe r service records
  | status record =>
      rw [RegistryAction.run, registry_statusOf]
      exact changes_ensure r record
  | connect record =>
      simp only [RegistryAction.run, connect, known?_ensure_self]
      exact changes_ensure r record
  | disconnect id =>
      rw [RegistryAction.run_disconnect]
      unfold disconnect
      split
      · split <;> rfl
      · rfl
  | mark id health =>
      simp only [RegistryAction.run, mark, RegistryAction.announced]
      cases r.known? id with
      | none => rfl
      | some e => by_cases h : e.health = health <;> simp [h, Channel.send]
  | evict id =>
      simp only [RegistryAction.run, evict]
      split
      · split
        · simp only [removeMember]
          split <;> rfl
        · rfl
      · rfl

/-- **What has been announced stays announced**, by induction on the actions since. -/
theorem Leads.grows {allowed : RegistryAction → Prop} {r r' : Registry} (h : Leads allowed r r') :
    r.changes.sent <:+ r'.changes.sent := by
  refine h.keeps (P := fun t => r.changes.sent <:+ t.changes.sent) ?_ (List.suffix_refl _)
  intro t a ha ht
  rw [changes_run]
  exact ht.trans (List.suffix_append _ _)

/-- Nothing but the changes of a run is announced in it. -/
theorem changes_runAll (r : Registry) (actions : List RegistryAction) :
    (RegistryAction.runAll r actions).1.changes =
      { r.changes with sent := (RegistryAction.announcedAll r actions).reverse ++ r.changes.sent } := by
  induction actions generalizing r with
  | nil => rfl
  | cons a rest ih =>
      have hone := changes_run r a
      rw [RegistryAction.runAll_cons]
      dsimp only
      rw [ih, hone, RegistryAction.announcedAll, List.reverse_append, RegistryAction.reverse_announced,
        List.append_assoc]

/-- Actions that mark nothing announce nothing, by induction on them. -/
theorem Leads.changes {r r' : Registry} (h : Leads RegistryAction.MarksNothing r r') :
    r'.changes = r.changes := by
  refine h.keeps (P := fun t => t.changes = r.changes) ?_ rfl
  intro t a ha ht
  rw [changes_run, RegistryAction.announced_of_marksNothing ha, ht]
  rfl

/-! ### Readers -/

/-- What a reader gets that reads after each of some parts of a run. -/
def heard (r : Registry) (reader : Reader) : List (List RegistryAction) → List (Batch HealthChange)
  | [] => []
  | part :: rest =>
    let after := (RegistryAction.runAll r part).1
    (after.changes.read reader).1 :: heard after (after.changes.read reader).2 rest

theorem heard_eq (r : Registry) (reader : Reader) (parts : List (List RegistryAction)) :
    r.heard reader parts =
      Channel.heard (fun r part => (RegistryAction.runAll r part).1) Registry.changes r reader parts := by
  induction parts generalizing r reader with
  | nil => rfl
  | cons part rest ih =>
      rw [heard, Channel.heard, ih]

theorem foldl_runAll (r : Registry) (parts : List (List RegistryAction)) :
    parts.foldl (fun r part => (RegistryAction.runAll r part).1) r =
      (RegistryAction.runAll r parts.flatten).1 := by
  induction parts generalizing r with
  | nil => rfl
  | cons part rest ih =>
      rw [List.foldl_cons, List.flatten_cons, ih, RegistryAction.runAll_append]

/-- **A reader that loses nothing** hears all that is announced, in order. -/
theorem items_heard {r : Registry} {parts : List (List RegistryAction)}
    (hkept : ∀ batch ∈ r.heard r.changes.subscribe parts, batch.lost = 0) :
    (r.heard r.changes.subscribe parts).flatMap Batch.items =
      RegistryAction.announcedAll r parts.flatten := by
  have hgrows : ∀ (r : Registry) (part : List RegistryAction),
      r.changes.sent <:+ (RegistryAction.runAll r part).1.changes.sent := by
    intro r part
    rw [changes_runAll]
    exact List.suffix_append _ _
  have hsent : (RegistryAction.runAll r parts.flatten).1.changes.sent =
      (RegistryAction.announcedAll r parts.flatten).reverse ++ r.changes.sent := by
    rw [changes_runAll]
  rw [heard_eq] at hkept ⊢
  rw [Channel.items_heard _ _ hgrows hkept, foldl_runAll, Channel.unread_of_sent hsent,
    List.reverse_reverse]

end Registry

/-! ### The health of an instance -/

namespace RegistryAction

variable {r : Registry} {a : RegistryAction} {x : String} {e : Entry}

/-- **What an action does to the health of an instance.**  A known instance changes it only by being marked;
one that becomes known has not been probed. -/
theorem health_run (r : Registry) (a : RegistryAction) (x : String) :
    ((run r a).1.known? x).map Entry.health =
      if a.forgotten? r = some x then none
      else ((r.known? x).map fun e => (a.marked? x).getD e.health).or
        ((a.placed? x).map fun _ => .unknown) := by
  cases a with
  | observe service records =>
      simp only [run, forgotten?, reduceCtorEq, if_false, marked?, placed?, Registry.known?_observe]
      cases hlatest : latest records x with
      | none =>
          rw [if_neg (latest_eq_none_iff.mp hlatest)]
          cases r.known? x <;> rfl
      | some record =>
          have hmem : x ∈ records.map Instance.id := by
            obtain ⟨hrecord, hid⟩ := latest_eq_some hlatest
            exact List.mem_map.mpr ⟨record, hrecord, hid⟩
          rw [if_pos hmem]
          cases r.known? x <;> rfl
  | status record =>
      simp only [run, forgotten?, reduceCtorEq, if_false, marked?, placed?, Registry.registry_statusOf,
        Registry.known?_ensure]
      split <;> cases r.known? x <;> rfl
  | connect record =>
      simp only [run, forgotten?, reduceCtorEq, if_false, marked?, placed?, Registry.known?_connect]
      split <;> cases r.known? x <;> rfl
  | disconnect id =>
      rw [run_disconnect]
      simp only [forgotten?, reduceCtorEq, if_false, marked?, placed?, Registry.known?_disconnect]
      split <;> cases r.known? x <;> rfl
  | mark id health =>
      simp only [run, forgotten?, reduceCtorEq, if_false, marked?, placed?, Registry.known?_mark]
      split <;> cases r.known? x <;> rfl
  | evict id =>
      rw [known?_run_evict]
      split <;> cases r.known? x <;> rfl

/-- An instance that was known and still is has the health with which it is marked, or else the one that it
had. -/
theorem health_run_of_known {e' : Entry} (hold : r.known? x = some e)
    (he : (run r a).1.known? x = some e') : e'.health = (a.marked? x).getD e.health := by
  have hhealth := health_run r a x
  rw [he, hold] at hhealth
  split at hhealth
  · cases hhealth
  · exact Option.some.inj hhealth

/-- An instance that has just become known has unknown health. -/
theorem health_run_of_unknown (hold : r.known? x = none) (he : (run r a).1.known? x = some e) :
    e.health = .unknown := by
  have hhealth := health_run r a x
  rw [he, hold] at hhealth
  split at hhealth
  · cases hhealth
  · obtain ⟨service, -, hunknown⟩ := Option.map_eq_some_iff.mp hhealth.symm
    exact hunknown.symm

/-- The service under which a known instance became known is found when it is placed, and then kept. -/
theorem service_run (he : (run r a).1.known? x = some e) :
    some e.service = ((r.known? x).map Entry.service).or (a.placed? x) := by
  have hhome := home?_run r a x
  rw [Registry.home?, he] at hhome
  split at hhome
  · cases hhome
  · exact hhome

/-- What places an instance does not mark it. -/
theorem marked?_of_placed {service : String} (h : a.placed? x = some service) : a.marked? x = none := by
  cases a with
  | mark id health => cases h
  | _ => rfl

/-! ### Since an instance became known -/

/-- What some actions, the first of which makes an instance known, say about its entry after them. -/
structure Told (r : Registry) (x : String) (since : List RegistryAction) (e : Entry) : Prop where
  /-- The changes announced of it lead from unknown health to that of the entry. -/
  chain : HealthChange.Chain .unknown ((announcedAll r since).filter (·.id = x)) e.health
  /-- Each names the service of the entry. -/
  service : ∀ c ∈ announcedAll r since, c.id = x → c.service = e.service
  /-- This is the service under which the first action made the instance known. -/
  placed : since.head?.bind (placed? x) = some e.service
  /-- The health is the one that the instance was marked with last, if it was marked. -/
  marked : e.health = (since.filterMap (marked? x)).getLast?.getD .unknown

theorem told_first (hold : r.known? x = none) (he : (run r a).1.known? x = some e) :
    Told r x [a] e := by
  have hhealth := health_run_of_unknown hold he
  have hplaced := service_run he
  rw [hold, Option.map_none, Option.none_or] at hplaced
  have hmarked := marked?_of_placed hplaced.symm
  have hsilent : (announcedAll r [a]).filter (·.id = x) = [] := by
    show (a.announced r ++ []).filter _ = []
    rw [List.append_nil, announced_about, hmarked]
  refine ⟨?_, ?_, hplaced.symm, ?_⟩
  · rw [hsilent, hhealth]
    exact .done _
  · intro c hc hid
    have hmem : c ∈ (announcedAll r [a]).filter (·.id = x) :=
      List.mem_filter.mpr ⟨hc, decide_eq_true hid⟩
    rw [hsilent] at hmem
    cases hmem
  · rw [List.filterMap_cons_none hmarked, hhealth]
    rfl

theorem told_next {since : List RegistryAction} {e' : Entry} (hne : since ≠ [])
    (hold : (runAll r since).1.known? x = some e)
    (he : (run (runAll r since).1 a).1.known? x = some e') (h : Told r x since e) :
    Told r x (since ++ [a]) e' := by
  have hhealth := health_run_of_known hold he
  have hservice : e'.service = e.service := by
    have hrun := service_run he
    rw [hold, Option.map_some, Option.some_or] at hrun
    exact Option.some.inj hrun
  have habout := announced_about (runAll r since).1 a x
  rw [hold] at habout
  refine ⟨?_, ?_, ?_, ?_⟩
  · rw [announcedAll_snoc, List.filter_append, habout, hhealth]
    cases hmarked : a.marked? x with
    | none =>
        rw [List.append_nil]
        exact h.chain
    | some health =>
        show HealthChange.Chain _ (_ ++ if e.health = health then [] else _) health
        split
        · rename_i hsame
          rw [List.append_nil, ← hsame]
          exact h.chain
        · rename_i hother
          exact HealthChange.Chain.snoc (c := ⟨x, e.service, e.health, health⟩) h.chain hother
  · intro c hc hid
    rw [hservice]
    rw [announcedAll_snoc, List.mem_append] at hc
    rcases hc with hc | hc
    · exact h.service c hc hid
    · have hmem : c ∈ (a.announced (runAll r since).1).filter (·.id = x) :=
        List.mem_filter.mpr ⟨hc, decide_eq_true hid⟩
      rw [habout] at hmem
      split at hmem
      · rename_i health old hmarked heq
        cases heq
        split at hmem
        · cases hmem
        · rw [List.mem_singleton.mp hmem]
      · cases hmem
  · rw [List.head?_append, List.head?_eq_some_head hne, Option.some_or, ← List.head?_eq_some_head hne,
      hservice]
    exact h.placed
  · rw [List.filterMap_append, List.getLast?_append, hhealth, h.marked]
    cases hmarked : a.marked? x with
    | none => simp [hmarked]
    | some health => simp [hmarked]

/-- **Since an instance became known**, by induction on the actions since. -/
theorem told_of_tenure {before since : List RegistryAction} (h : Tenure r x before since)
    (hne : since ≠ []) (hk : (runAll r (before ++ since)).1.known? x = some e) :
    Told (runAll r before).1 x since e := by
  refine h.induction_from (P := fun part e => Told (runAll r before).1 x part e) ?_ ?_ hne hk
  · intro a e hunknown he
    exact told_first hunknown he
  · intro part a e e' hpart hold he htold
    exact told_next hpart hold he htold

end RegistryAction

namespace Registry

/-! ### Counting -/

/-- The instances of a health are counted once each. -/
theorem countHealth_eq_ncard (r : Registry) (h : Health) :
    r.countHealth h = {x | (r.known? x).map Entry.health = some h}.ncard := by
  have hset : {x | (r.known? x).map Entry.health = some h} =
      (((r.entries.entries.filter (·.2.health = h)).map Prod.fst).toFinset : Set String) := by
    ext x
    simp [known?, Table.get?_eq_some_iff]
  have hnodup : ((r.entries.entries.filter (·.2.health = h)).map Prod.fst).Nodup :=
    r.entries.nodup.sublist (List.filter_sublist.map _)
  rw [hset, Set.ncard_coe_finset, List.toFinset_card_of_nodup hnodup, List.length_map, countHealth,
    Table.values, List.countP_map, List.countP_eq_length_filter]
  rfl

end Registry

end LoadBalancer

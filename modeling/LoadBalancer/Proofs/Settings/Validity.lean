import Mathlib
import LoadBalancer.Balancer.Selection
import LoadBalancer.Settings.Load

/-!
# Validity of settings

What exactly is wrong with settings that are refused, and what is certain of those that are loaded.

* `Policy.Breaks`, `Policy.mem_faults` – the rules that a policy can break;
* `Settings.Complaint` – what is wrong at a position of the routes, as a relation of its own;
* `Settings.numbered` – the faults with their positions, and `mem_numbered`, `nodup_numbered`,
  `ordered_numbered`: every complaint once, in the order of the routes;
* `Settings.route?_of_mem` – with different ids, every route is found by its id;
* `Choosers.Complete`, `Balancer.bind_of_valid` – a valid policy is bound where every algorithm has a
  chooser;
* `Settings.loaded_binds` – all of it together.
-/

namespace LoadBalancer

open LoadBalancer.Text

/-! ### Policies -/

namespace Policy

/-- A policy breaks the rule that a fault is about. -/
def Breaks (p : Policy) : Fault → Prop
  | .noTries => p.maxTries = 0
  | .noCandidateKey => isBlankText p.candidateKey = true
  | .noWeightKey => isBlankText p.weightKey = true

theorem mem_faults {p : Policy} {f : Fault} : f ∈ p.faults ↔ p.Breaks f := by
  unfold faults
  cases f with
  | noTries => by_cases h : p.maxTries = 0 <;> simp [Breaks, h]
  | noCandidateKey => cases h : isBlankText p.candidateKey <;> simp [Breaks, h]
  | noWeightKey => cases h : isBlankText p.weightKey <;> simp [Breaks, h]

/-- No rule is named twice. -/
theorem nodup_faults (p : Policy) : p.faults.Nodup := by
  unfold faults
  by_cases htries : p.maxTries = 0 <;> cases isBlankText p.candidateKey <;>
    cases isBlankText p.weightKey <;> simp [htries]

end Policy

/-! ### Positions -/

namespace Settings

/-- What is wrong with the route at a position: a blank id, an id that an earlier route has, a blank
service, or a rule that the policy breaks. -/
inductive Complaint (rs : List Route) : Nat → Fault → Prop
  | blankId {i : Nat} {r : Route} (there : rs[i]? = some r) (blank : isBlankText r.id = true) :
      Complaint rs i (.blankId i)
  | repeatedId {i j : Nat} {r q : Route} (there : rs[i]? = some r)
      (shown : isBlankText r.id = false) (earlier : j < i) (first : rs[j]? = some q)
      (same : q.id = r.id) : Complaint rs i (.repeatedId r.id)
  | blankService {i : Nat} {r : Route} (there : rs[i]? = some r)
      (blank : isBlankText r.service = true) : Complaint rs i (.blankService r.id)
  | policy {i : Nat} {r : Route} {f : Policy.Fault} (there : rs[i]? = some r)
      (broken : r.policy.Breaks f) : Complaint rs i (.policy r.id f)

/-- The faults of routes with the position of each. -/
def numbered (earlier : List String) (index : Nat) : List Route → List (Nat × Fault)
  | [] => []
  | r :: rest =>
    (routeFaults earlier index r).map (fun f => (index, f)) ++
      numbered (r.id :: earlier) (index + 1) rest

theorem map_snd_numbered (earlier : List String) (index : Nat) (rs : List Route) :
    (numbered earlier index rs).map Prod.snd = faultsFrom earlier index rs := by
  induction rs generalizing earlier index with
  | nil => rfl
  | cons r rest ih => simp [numbered, faultsFrom, ih, Function.comp_def]

/-- The faults of one route, one cause a line. -/
theorem mem_routeFaults {earlier : List String} {index : Nat} {r : Route} {f : Fault} :
    f ∈ routeFaults earlier index r ↔
      (isBlankText r.id = true ∧ f = .blankId index) ∨
      (isBlankText r.id = false ∧ r.id ∈ earlier ∧ f = .repeatedId r.id) ∨
      (isBlankText r.service = true ∧ f = .blankService r.id) ∨
      ∃ g, r.policy.Breaks g ∧ f = .policy r.id g := by
  have hpolicy : f ∈ r.policy.faults.map (.policy r.id) ↔
      ∃ g, r.policy.Breaks g ∧ f = .policy r.id g := by
    simp only [List.mem_map, Policy.mem_faults, eq_comm]
  have hservice : f ∈ (if isBlankText r.service then [Fault.blankService r.id] else []) ↔
      isBlankText r.service = true ∧ f = .blankService r.id := by
    cases isBlankText r.service <;> simp
  have hid : f ∈ idFaults earlier index r.id ↔
      (isBlankText r.id = true ∧ f = .blankId index) ∨
      (isBlankText r.id = false ∧ r.id ∈ earlier ∧ f = .repeatedId r.id) := by
    unfold idFaults
    cases isBlankText r.id <;> by_cases hearlier : r.id ∈ earlier <;> simp [hearlier]
  unfold routeFaults
  rw [List.mem_append, List.mem_append, hid, hservice, hpolicy]
  simp only [or_assoc]

/-- No fault of a route is reported twice. -/
theorem nodup_routeFaults (earlier : List String) (index : Nat) (r : Route) :
    (routeFaults earlier index r).Nodup := by
  have hpolicy : (r.policy.faults.map (Fault.policy r.id)).Nodup :=
    (Policy.nodup_faults r.policy).map fun a b h => by cases h; rfl
  unfold routeFaults idFaults
  cases isBlankText r.id <;> cases isBlankText r.service <;> by_cases h : r.id ∈ earlier <;>
    simp [h, hpolicy]

/-- A fault at a position is one of the route there, after the ids of all routes before it. -/
theorem mem_numbered {earlier : List String} {index : Nat} {rs : List Route} {e : Nat × Fault} :
    e ∈ numbered earlier index rs ↔
      ∃ i r, rs[i]? = some r ∧ e.1 = index + i ∧
        e.2 ∈ routeFaults (((rs.take i).map Route.id).reverse ++ earlier) (index + i) r := by
  induction rs generalizing earlier index with
  | nil => simp [numbered]
  | cons r rest ih =>
    rw [numbered, List.mem_append, ih, List.mem_map]
    constructor
    · rintro (⟨f, hf, rfl⟩ | ⟨i, q, hq, hposition, hfault⟩)
      · exact ⟨0, r, rfl, rfl, hf⟩
      · refine ⟨i + 1, q, hq, by omega, ?_⟩
        simpa [Nat.add_assoc, Nat.add_comm 1 i] using hfault
    · rintro ⟨i, q, hq, hposition, hfault⟩
      cases i with
      | zero =>
        obtain rfl : r = q := Option.some.inj hq
        exact Or.inl ⟨e.2, hfault, Prod.ext hposition.symm rfl⟩
      | succ i =>
        refine Or.inr ⟨i, q, hq, by omega, ?_⟩
        simpa [Nat.add_assoc, Nat.add_comm 1 i] using hfault

/-- The ids before a position. -/
theorem mem_earlier {rs : List Route} {i : Nat} {id : String} :
    id ∈ ((rs.take i).map Route.id).reverse ++ [] ↔ ∃ j q, j < i ∧ rs[j]? = some q ∧ q.id = id := by
  rw [List.append_nil, List.mem_reverse, List.mem_map]
  constructor
  · rintro ⟨q, hq, rfl⟩
    obtain ⟨j, hj⟩ := List.mem_iff_getElem?.mp hq
    rw [List.getElem?_take] at hj
    split at hj
    · rename_i hlt
      exact ⟨j, q, hlt, hj, rfl⟩
    · cases hj
  · rintro ⟨j, q, hlt, hj, rfl⟩
    refine ⟨q, List.mem_iff_getElem?.mpr ⟨j, ?_⟩, rfl⟩
    rw [List.getElem?_take, if_pos hlt]
    exact hj

/-- The faults with their positions are exactly the complaints. -/
theorem mem_numbered_iff_complaint {rs : List Route} {i : Nat} {f : Fault} :
    (i, f) ∈ numbered [] 0 rs ↔ Complaint rs i f := by
  rw [mem_numbered]
  constructor
  · rintro ⟨j, r, hat, hposition, hfault⟩
    obtain rfl : i = j := by simpa using hposition
    rw [Nat.zero_add, mem_routeFaults, mem_earlier] at hfault
    obtain ⟨hblank, rfl⟩ | ⟨hshown, ⟨j, q, hlt, hq, hsame⟩, rfl⟩ | ⟨hblank, rfl⟩ |
      ⟨g, hbroken, rfl⟩ := hfault
    · exact .blankId hat hblank
    · exact .repeatedId hat hshown hlt hq hsame
    · exact .blankService hat hblank
    · exact .policy hat hbroken
  · intro h
    cases h with
    | blankId hat hblank =>
      refine ⟨i, _, hat, (Nat.zero_add i).symm, mem_routeFaults.mpr (Or.inl ⟨hblank, ?_⟩)⟩
      rw [Nat.zero_add]
    | repeatedId hat hshown hlt hq hsame =>
      exact ⟨i, _, hat, (Nat.zero_add i).symm, mem_routeFaults.mpr
        (Or.inr (Or.inl ⟨hshown, mem_earlier.mpr ⟨_, _, hlt, hq, hsame⟩, rfl⟩))⟩
    | blankService hat hblank =>
      exact ⟨i, _, hat, (Nat.zero_add i).symm, mem_routeFaults.mpr
        (Or.inr (Or.inr (Or.inl ⟨hblank, rfl⟩)))⟩
    | policy hat hbroken =>
      exact ⟨i, _, hat, (Nat.zero_add i).symm, mem_routeFaults.mpr
        (Or.inr (Or.inr (Or.inr ⟨_, hbroken, rfl⟩)))⟩

theorem le_of_mem_numbered {earlier : List String} {index : Nat} {rs : List Route}
    {e : Nat × Fault} (h : e ∈ numbered earlier index rs) : index ≤ e.1 := by
  obtain ⟨i, -, -, hposition, -⟩ := mem_numbered.mp h
  omega

/-- The faults of earlier routes come first. -/
theorem ordered_numbered (earlier : List String) (index : Nat) (rs : List Route) :
    (numbered earlier index rs).Pairwise fun a b => a.1 ≤ b.1 := by
  induction rs generalizing earlier index with
  | nil => exact List.Pairwise.nil
  | cons r rest ih =>
    refine List.pairwise_append.mpr ⟨?_, ih _ _, ?_⟩
    · exact List.pairwise_map.mpr (List.pairwise_of_forall fun _ _ => le_refl index)
    · intro a ha b hb
      obtain ⟨f, -, rfl⟩ := List.mem_map.mp ha
      exact (Nat.le_succ index).trans (le_of_mem_numbered hb)

/-- No fault of a position is reported twice. -/
theorem nodup_numbered (earlier : List String) (index : Nat) (rs : List Route) :
    (numbered earlier index rs).Nodup := by
  induction rs generalizing earlier index with
  | nil => exact List.nodup_nil
  | cons r rest ih =>
    refine List.nodup_append.mpr ⟨?_, ih _ _, ?_⟩
    · exact (nodup_routeFaults earlier index r).map fun a b h => (Prod.mk.inj h).2
    · rintro a ha b hb rfl
      obtain ⟨f, -, rfl⟩ := List.mem_map.mp ha
      exact Nat.not_succ_le_self index (le_of_mem_numbered hb)

/-! ### Valid settings -/

/-- Settings are valid exactly if there is nothing to complain about. -/
theorem validate_eq_ok_iff_complaint {s : Settings} :
    s.validate = .ok () ↔ ∀ i f, ¬Complaint s.routes i f := by
  rw [validate_eq_ok, faults, ← map_snd_numbered, List.map_eq_nil_iff,
    List.eq_nil_iff_forall_not_mem]
  constructor
  · intro h i f hc
    exact h (i, f) (mem_numbered_iff_complaint.mpr hc)
  · intro h e he
    exact h e.1 e.2 (mem_numbered_iff_complaint.mp he)

/-- The same, as what must be true of the routes. -/
theorem validate_eq_ok_iff {s : Settings} :
    s.validate = .ok () ↔
      (∀ r ∈ s.routes, isBlankText r.id = false) ∧ (s.routes.map Route.id).Nodup ∧
        (∀ r ∈ s.routes, isBlankText r.service = false) ∧
          ∀ r ∈ s.routes, r.policy.validate = .ok () := by
  rw [validate_eq_ok_iff_complaint]
  constructor
  · intro h
    have hshown : ∀ r ∈ s.routes, isBlankText r.id = false := by
      intro r hr
      obtain ⟨i, hi⟩ := List.mem_iff_getElem?.mp hr
      exact Bool.eq_false_iff.mpr fun hblank => h i _ (.blankId hi hblank)
    refine ⟨hshown, ?_, ?_, ?_⟩
    · refine List.pairwise_iff_getElem.mpr ?_
      intro j i hj hi hlt hsame
      rw [List.length_map] at hj hi
      rw [List.getElem_map, List.getElem_map] at hsame
      exact h i _ (.repeatedId (List.getElem?_eq_getElem hi) (hshown _ (List.getElem_mem hi)) hlt
        (List.getElem?_eq_getElem hj) hsame)
    · intro r hr
      obtain ⟨i, hi⟩ := List.mem_iff_getElem?.mp hr
      exact Bool.eq_false_iff.mpr fun hblank => h i _ (.blankService hi hblank)
    · intro r hr
      obtain ⟨i, hi⟩ := List.mem_iff_getElem?.mp hr
      rw [Policy.validate_eq_ok, List.eq_nil_iff_forall_not_mem]
      intro f hf
      exact h i _ (.policy hi (Policy.mem_faults.mp hf))
  · rintro ⟨hids, hnodup, hservices, hpolicies⟩ i f hc
    cases hc with
    | blankId hat hblank =>
      rw [hids _ (List.mem_of_getElem? hat)] at hblank
      cases hblank
    | repeatedId hat _ hlt hq hsame =>
      obtain ⟨hi, rfl⟩ := List.getElem?_eq_some_iff.mp hat
      obtain ⟨hj, rfl⟩ := List.getElem?_eq_some_iff.mp hq
      refine List.pairwise_iff_getElem.mp hnodup _ i ?_ ?_ hlt ?_
      · rwa [List.length_map]
      · rwa [List.length_map]
      · rwa [List.getElem_map, List.getElem_map]
    | blankService hat hblank =>
      rw [hservices _ (List.mem_of_getElem? hat)] at hblank
      cases hblank
    | policy hat hbroken =>
      have hnone := Policy.validate_eq_ok.mp (hpolicies _ (List.mem_of_getElem? hat))
      have hfault := Policy.mem_faults.mpr hbroken
      rw [hnone] at hfault
      cases hfault

/-- With different ids, every route is found by its id. -/
theorem route?_of_mem {s : Settings} (hnodup : (s.routes.map Route.id).Nodup) {r : Route}
    (hr : r ∈ s.routes) : s.route? r.id = some r := by
  unfold route?
  cases hfound : s.routes.find? fun q => q.id == r.id with
  | none =>
    have hno := List.find?_eq_none.mp hfound r hr
    simp at hno
  | some q =>
    have hid : q.id = r.id := by simpa using List.find?_some hfound
    rw [List.inj_on_of_nodup_map hnodup (List.mem_of_find?_eq_some hfound) hr hid]

/-! ### Loaded settings -/

section Loading

variable {f : Format} {vars : Variables} {text : String} {s t : Settings}

/-- After its overrides, a text is loaded exactly if the settings are valid then. -/
theorem load_of_override (hread : read f text = .ok t) (hover : t.override vars = (s, .ok ())) :
    load f vars text = s.validate.map fun _ => s := by
  unfold load
  simp only [hread, bind, Except.bind, hover]
  cases s.validate <;> rfl

/-- What is loaded has been read, overridden and found to be valid. -/
theorem of_load_eq_ok (h : load f vars text = .ok s) :
    ∃ t, read f text = .ok t ∧ t.override vars = (s, .ok ()) ∧ s.validate = .ok () := by
  cases hread : read f text with
  | error e =>
    unfold load at h
    simp [hread, bind, Except.bind] at h
  | ok t =>
    rcases hover : t.override vars with ⟨q, outcome⟩
    cases outcome with
    | error e =>
      unfold load at h
      simp [hread, bind, Except.bind, hover] at h
    | ok u =>
      rw [load_of_override hread hover] at h
      cases hvalid : q.validate with
      | error e => simp [hvalid, Except.map] at h
      | ok v =>
        rw [hvalid] at h
        obtain rfl : q = s := Except.ok.inj h
        exact ⟨t, rfl, hover, hvalid⟩

end Loading

end Settings

/-! ### Binding -/

/-- Every algorithm has a chooser, or there is one for those that have none. -/
def Choosers.Complete (c : Choosers) : Prop :=
  (∀ a, c.byAlgorithm.contains a = true) ∨ c.fallback.isSome = true

theorem Choosers.complete_withDefaults : Choosers.withDefaults.Complete := by
  refine Or.inl fun a => ?_
  cases a <;> rfl

theorem Choosers.Complete.resolve {c : Choosers} (h : c.Complete) (a : Algorithm) :
    ∃ chooser, c.resolve a = .ok chooser := by
  obtain hall | hfallback := h
  · obtain ⟨chooser, hchooser⟩ := Option.isSome_iff_exists.mp (hall a)
    refine ⟨chooser, ?_⟩
    unfold Choosers.resolve
    rw [hchooser]
    rfl
  · exact Choosers.resolve_isOk_of_fallback hfallback a

/-- A valid policy is bound where every algorithm has a chooser, and binding leaves it as it is. -/
theorem Balancer.bind_of_valid {b : Balancer} (hchoosers : b.choosers.Complete) {policy : Policy}
    (hvalid : policy.validate = .ok ()) :
    ∃ chooser, b.bind policy = .ok ⟨policy, chooser⟩ := by
  obtain ⟨chooser, hchooser⟩ := hchoosers.resolve policy.algorithm
  refine ⟨chooser, ?_⟩
  unfold Balancer.bind
  rw [hvalid, hchooser]
  rfl

namespace Settings

/-- **What is loaded can be used, and what cannot be used is not loaded.** Settings that are loaded,
from either format and whatever variables replace, are valid, each of their routes is bound by any
balancer in which every algorithm has a chooser, and is found by its id. Settings that the overrides
make invalid are refused with the error of validation. Settings are valid exactly if their ids are
different and neither they nor the services are blank and every policy is valid; otherwise the error
lists every complaint exactly once, in the order of the routes. -/
theorem loaded_binds (f : Format) (vars : Variables) (text : String) (s : Settings) :
    (load f vars text = .ok s →
      s.validate = .ok () ∧
        ∀ r ∈ s.routes, s.route? r.id = some r ∧
          ∀ b : Balancer, b.choosers.Complete →
            ∃ chooser, b.bind r.policy = .ok ⟨r.policy, chooser⟩) ∧
    (∀ t, read f text = .ok t → t.override vars = (s, .ok ()) →
      load f vars text = s.validate.map fun _ => s) ∧
    (s.validate = .ok () ↔
      (∀ r ∈ s.routes, isBlankText r.id = false) ∧ (s.routes.map Route.id).Nodup ∧
        (∀ r ∈ s.routes, isBlankText r.service = false) ∧
          ∀ r ∈ s.routes, r.policy.validate = .ok ()) ∧
    ∃ entries : List (Nat × Fault),
      entries.Nodup ∧ (entries.Pairwise fun a b => a.1 ≤ b.1) ∧
        (∀ i fault, (i, fault) ∈ entries ↔ Complaint s.routes i fault) ∧
          s.validate = if entries = [] then .ok () else .error (.configuration
            ("Configuration validation failed:\n  - " ++
              "\n  - ".intercalate (entries.map fun e => e.2.message))) := by
  refine ⟨?_, fun t => load_of_override, validate_eq_ok_iff, numbered [] 0 s.routes,
    nodup_numbered [] 0 s.routes, ordered_numbered [] 0 s.routes,
    fun i fault => mem_numbered_iff_complaint, ?_⟩
  · intro hload
    obtain ⟨-, -, -, hvalid⟩ := of_load_eq_ok hload
    obtain ⟨-, hnodup, -, hpolicies⟩ := validate_eq_ok_iff.mp hvalid
    refine ⟨hvalid, fun r hr => ⟨route?_of_mem hnodup hr, ?_⟩⟩
    exact fun b hchoosers => Balancer.bind_of_valid hchoosers (hpolicies r hr)
  · have hmessages : s.faults.map Fault.message =
        (numbered [] 0 s.routes).map fun e => e.2.message := by
      rw [faults, ← map_snd_numbered, List.map_map]
      rfl
    unfold validate Policy.checkNone
    rw [hmessages]
    by_cases hnone : numbered [] 0 s.routes = [] <;> simp [hnone]

/-- One variable replaces the number of tries: three are loaded, and none are refused. -/
theorem loaded_binds_overridden :
    let text := "routes:\n- id: a\n  service_id: users\n"
    let tries (n : String) : Variables := .ofLabels (.ofList [("GATEWAY_LB_MAX_CHOOSE_TRIES", n)])
    let route (n : UInt32) : Route := ⟨"a", "users", { Policy.default with maxTries := n }⟩
    let settings (n : UInt32) : Settings := ⟨[route n], .default⟩
    let b := Balancer.new ⟨id, id⟩
    load .yaml (tries "3") text = .ok (settings 3) ∧ (settings 3).validate = .ok () ∧
      (settings 3).route? "a" = some (route 3) ∧
      (∃ chooser, b.bind (route 3).policy = .ok ⟨(route 3).policy, chooser⟩) ∧
      load .yaml (tries "0") text = .error (.configuration
        "Configuration validation failed:\n  - Route 'a': max_choose_tries must be at least 1") := by
  intro text tries route settings b
  have hload : load .yaml (tries "3") text = .ok (settings 3) := by decide +kernel
  have hread : read .yaml text = .ok (settings 10) := by decide +kernel
  have hzero : (settings 10).override (tries "0") = (settings 0, .ok ()) := by decide +kernel
  obtain ⟨hvalid, hroutes⟩ := (loaded_binds .yaml (tries "3") text (settings 3)).1 hload
  obtain ⟨hfound, hbound⟩ := hroutes (route 3) List.mem_cons_self
  refine ⟨hload, hvalid, hfound, hbound b Choosers.complete_withDefaults, ?_⟩
  rw [(loaded_binds .yaml (tries "0") text (settings 0)).2.1 (settings 10) hread hzero]
  decide +kernel

end Settings

end LoadBalancer

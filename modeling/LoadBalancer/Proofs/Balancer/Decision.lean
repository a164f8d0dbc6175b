import Mathlib
import LoadBalancer.Proofs.Balancer.Effect
import LoadBalancer.Proofs.Balancer.Stages

/-!
# How selections by the rule of an algorithm end

By the rule of an algorithm, the outcome of a selection hangs on what was found and on what was known
about its health before; the rule decides only between instances that may get requests.

* `Balancer.isReachable` – what was known lets an instance get requests;
* `Balancer.found_eq_nil_iff` – when no instance is found;
* `Balancer.FoundKept` – asking the rules forgets none of the instances that are found, as it is with
  rules that read the request;
* `Balancer.select_of_unreachable`, `Balancer.select_of_reachable` – both ways in which a selection
  ends once instances were found;
* `Balancer.Ends`, `Balancer.ends_select` – all ways in which a selection ends, with the exact
  condition of each in `Ends.unlisted_iff` and the statements after it;
* `Balancer.connections_select_of_ok`, `Balancer.connections_select_of_error` – what becomes of the
  open connections.
-/

namespace LoadBalancer

namespace Balancer

/-- What is known about an instance lets it get requests; about an instance that was never seen,
nothing is known. -/
def isReachable (b : Balancer) (policy : Policy) (id : String) : Bool :=
  (b.registry.read Entry.health .unknown id).isReachable policy.lenient

/-- Asking the rules about a request forgets none of the instances that are found for it. -/
def FoundKept (b : Balancer) (service : String) (request : Request) (policy : Policy) : Prop :=
  ∀ i ∈ b.found service request policy, (b.matched service request policy).2.known? i.id ≠ none

/-- So it is with rules that read the request, since every instance that is listed was seen before. -/
theorem foundKept_of_readsRequest {b : Balancer} {policy : Policy}
    (h : b.rules.ReadsRequest policy.ruleSet) (service : String) (request : Request) :
    b.FoundKept service request policy := by
  intro record hrecord hunknown
  have hlisted : record.id ∈ (b.listed service).map Instance.id :=
    List.mem_map.mpr ⟨record, mem_listed_of_mem_found hrecord, rfl⟩
  rw [matched_of_readsRequest h, observed, Registry.known?_observe] at hunknown
  cases hlatest : latest (b.listed service) record.id with
  | none => exact latest_eq_none_iff.mp hlatest hlisted
  | some other =>
      rw [hlatest] at hunknown
      cases hunknown

/-- Without a rule that applies, all instances are found or none; with one, those that it marks. -/
theorem found_eq_nil_iff {b : Balancer} {service : String} {request : Request}
    {policy : Policy} (h : b.listed service ≠ []) :
    b.found service request policy = [] ↔
      (b.matched service request policy).1 = [] ∧ policy.fallbackToAll = false ∨
        (b.matched service request policy).1 ≠ [] ∧ b.found service request policy = [] := by
  by_cases hnames : (b.matched service request policy).1 = []
  · have hfound : b.found service request policy =
        if policy.fallbackToAll then b.listed service else [] := by
      unfold found eligible
      rw [hnames]
      rfl
    rw [hfound]
    cases hall : policy.fallbackToAll with
    | false => simp [hnames]
    | true => simp [hnames, h]
  · simp [hnames]

/-- A valid policy says how many attempts there are. -/
theorem tries_of_valid {policy : Policy} (h : policy.validate = .ok ()) :
    tries policy = policy.maxTries.toNat := by
  have hsome := (Policy.faults_eq_nil.mp (Policy.validate_eq_ok.mp h)).1
  have hpos : policy.maxTries.toNat ≠ 0 := by
    intro hzero
    exact hsome (UInt32.toNat_inj.mp hzero)
  unfold tries
  omega

section Decision

variable {b : Balancer} {service : String} {request : Request} {policy : Policy}

theorem sound_observed (hr : b.registry.Sound) : (b.observed service).Sound :=
  Registry.sound_run hr (.observe service (b.listed service))

theorem forgets_matched (b : Balancer) (service : String) (request : Request) (policy : Policy) :
    Registry.Forgets (b.observed service) (b.matched service request policy).2 :=
  Registry.Forgets.matching request _ _

theorem sound_matched (hr : b.registry.Sound) : (b.matched service request policy).2.Sound :=
  (forgets_matched b service request policy).sound (sound_observed hr)

/-- Every instance that was found stands in the list of the service. -/
theorem mem_members_of_found (hkept : b.FoundKept service request policy) {record : Instance}
    (h : record ∈ b.found service request policy) :
    record.id ∈ (b.matched service request policy).2.membersOf service := by
  rw [(forgets_matched b service request policy).members record.id (hkept record h)]
  have hlisted := mem_listed_of_mem_found h
  refine (Registry.mem_membersOf_observe _ _ _ _ _).mpr (Or.inr ⟨rfl, ?_⟩)
  exact List.mem_map.mpr ⟨record, hlisted, rfl⟩

/-- Neither seeing an instance nor asking the rules changes what is known about its health. -/
theorem isAlive_matched {x : String} (h : (b.matched service request policy).2.known? x ≠ none) :
    (b.matched service request policy).2.isAlive policy.lenient x = b.isReachable policy x := by
  have hknown := (forgets_matched b service request policy).known x h
  have hhealth : (b.matched service request policy).2.read Entry.health .unknown x =
      b.registry.read Entry.health .unknown x := by
    rw [Registry.read_congr hknown]
    exact Registry.read_observe Registry.steady_health b.registry service _ x
  obtain ⟨e, he⟩ := Option.ne_none_iff_exists'.mp h
  rw [Registry.read_of_known? he] at hhealth
  unfold Registry.isAlive isReachable
  rw [he, ← hhealth]

/-- What the attempts work on, if no instance that was found is forgotten. -/
theorem registry_offered (hkept : b.FoundKept service request policy) :
    (b.offered service request policy).2 = (b.matched service request policy).2 :=
  Registry.statusesOf_of_known hkept

theorem ids_offered (hr : b.registry.Sound) :
    (b.offered service request policy).1.map Status.id =
      (b.found service request policy).map Instance.id :=
  Registry.ids_statusesOf (sound_matched hr) _

/-- The demand that the attempts have to meet. -/
def demand (b : Balancer) (service : String) (request : Request) (policy : Policy) : Demand :=
  ⟨service, policy.lenient, (b.offered service request policy).1⟩

/-- All instances that were found are available. -/
theorem mem_ids_all_of_found (hr : b.registry.Sound) (hkept : b.FoundKept service request policy)
    {x : String} (hx : x ∈ (b.found service request policy).map Instance.id) :
    x ∈ ((b.matched service request policy).2.all service).map Status.id := by
  obtain ⟨i, hi, rfl⟩ := List.mem_map.mp hx
  rw [Registry.mem_ids_all (sound_matched hr)]
  exact ⟨mem_members_of_found hkept hi, hkept i hi⟩

theorem length_available (hr : b.registry.Sound) (hkept : b.FoundKept service request policy) :
    ((b.demand service request policy).available (b.matched service request policy).2).length =
      ((b.found service request policy).map Instance.id).dedup.length := by
  have hall : ∀ c ∈ (b.offered service request policy).1,
      c.id ∈ ((b.matched service request policy).2.all service).map Status.id := by
    intro c hc
    apply mem_ids_all_of_found hr hkept
    rw [← ids_offered hr]
    exact List.mem_map.mpr ⟨c, hc, rfl⟩
  refine (length_intersect hall).trans ?_
  rw [ids_offered hr]

/-- The pool has the instances that were found and may get requests. -/
theorem mem_ids_pool_iff (hr : b.registry.Sound) (hkept : b.FoundKept service request policy)
    {x : String} :
    x ∈ ((b.demand service request policy).pool (b.matched service request policy).2).map Status.id ↔
      x ∈ (b.found service request policy).map Instance.id ∧ b.isReachable policy x = true := by
  rw [Demand.mem_ids_pool]
  show x ∈ (b.offered service request policy).1.map Status.id ∧ _ ↔ _
  rw [ids_offered hr]
  constructor
  · rintro ⟨hx, -, hreachable⟩
    obtain ⟨i, hi, rfl⟩ := List.mem_map.mp hx
    have halive := ((Registry.mem_ids_reachable (sound_matched hr)).mp hreachable).2
    rw [show (b.demand service request policy).lenient = policy.lenient from rfl,
      isAlive_matched (hkept i hi)] at halive
    exact ⟨hx, halive⟩
  · rintro ⟨hx, hreachable⟩
    refine ⟨hx, mem_ids_all_of_found hr hkept hx, ?_⟩
    obtain ⟨i, hi, rfl⟩ := List.mem_map.mp hx
    rw [Registry.mem_ids_reachable (sound_matched hr)]
    refine ⟨mem_members_of_found hkept hi, ?_⟩
    rw [show (b.demand service request policy).lenient = policy.lenient from rfl,
      isAlive_matched (hkept i hi)]
    exact hreachable

/-- Every status in the pool shows the last record that was listed. -/
theorem latest_of_mem_pool (hr : b.registry.Sound) (hkept : b.FoundKept service request policy)
    {c : Status}
    (hc : c ∈ (b.demand service request policy).pool (b.matched service request policy).2) :
    latest (b.listed service) c.id = some c.record := by
  have hid := ((mem_ids_pool_iff hr hkept).mp (List.mem_map.mpr ⟨c, hc, rfl⟩)).1
  obtain ⟨i, hi, hic⟩ := List.mem_map.mp hid
  have hreachable : c ∈ (b.matched service request policy).2.reachable policy.lenient service :=
    mem_of_mem_intersect hc
  have hall := (List.mem_filter.mp hreachable).1
  obtain ⟨-, e, he, hstatus⟩ := Registry.known?_of_mem_all (sound_matched hr) hall
  -- the entry is still the one that was there before the rules were asked
  have hseen : (b.observed service).known? c.id = some e := by
    rw [← (forgets_matched b service request policy).known c.id (by rw [he]; exact Option.some_ne_none e)]
    exact he
  have hlisted : c.id ∈ (b.listed service).map Instance.id :=
    List.mem_map.mpr ⟨i, mem_listed_of_mem_found hi, hic⟩
  rw [Registry.record_of_observe hseen hlisted, ← hstatus]
  rfl

/-! ### Both ways to end -/

variable {bound : BoundRoute} {a : Algorithm}

/-- None of the instances that were found may get requests. -/
theorem select_of_unreachable (hrule : bound.chooser.rule = .ofAlgorithm a) (hr : b.registry.Sound)
    (hkept : b.FoundKept service request bound.policy)
    (hfound : b.found service request bound.policy ≠ [])
    (h : ∀ i ∈ b.found service request bound.policy, b.isReachable bound.policy i.id = false) :
    (b.select service request bound).1 = .error (.retriesExhausted service (tries bound.policy)
      ((b.found service request bound.policy).map Instance.id).dedup.length) := by
  have hlisted : b.listed service ≠ [] := fun hnil => hfound (found_eq_nil_of_listed hnil)
  have hpool : (b.demand service request bound.policy).pool
      (b.matched service request bound.policy).2 = [] := by
    rw [List.eq_nil_iff_forall_not_mem]
    intro c hc
    obtain ⟨hid, hreachable⟩ := (mem_ids_pool_iff hr hkept).mp (List.mem_map.mpr ⟨c, hc, rfl⟩)
    obtain ⟨i, hi, hic⟩ := List.mem_map.mp hid
    rw [← hic, h i hi] at hreachable
    cases hreachable
  have havailable : (b.demand service request bound.policy).available
      (b.matched service request bound.policy).2 ≠ [] := by
    have hlength := length_available hr hkept
    have hdedup : ((b.found service request bound.policy).map Instance.id).dedup ≠ [] := by
      rw [Ne, List.dedup_eq_nil]
      simpa using hfound
    intro hnil
    rw [hnil] at hlength
    exact hdedup (List.length_eq_zero_iff.mp hlength.symm)
  rw [result_select, if_neg hlisted, if_neg hfound, registry_offered hkept, ← length_available hr hkept]
  exact choose_of_unreachable (b := { b with registry := (b.matched service request bound.policy).2 })
    hrule havailable hpool

/-- Some instance that was found may get requests; then such an instance is chosen. -/
theorem select_of_reachable (hrule : bound.chooser.rule = .ofAlgorithm a) (hr : b.registry.Sound)
    (hkept : b.FoundKept service request bound.policy)
    (h : ∃ i ∈ b.found service request bound.policy, b.isReachable bound.policy i.id = true) :
    ∃ record, (b.select service request bound).1 = .ok record ∧
      record.id ∈ (b.found service request bound.policy).map Instance.id ∧
      b.isReachable bound.policy record.id = true ∧
      latest (b.listed service) record.id = some record := by
  obtain ⟨i, hi, hreachable⟩ := h
  have hmem := mem_listed_of_mem_found hi
  have hlisted : b.listed service ≠ [] := List.ne_nil_of_mem hmem
  have hfound : b.found service request bound.policy ≠ [] := List.ne_nil_of_mem hi
  have hpool : (b.demand service request bound.policy).pool
      (b.matched service request bound.policy).2 ≠ [] := by
    have hid := (mem_ids_pool_iff hr hkept).mpr ⟨List.mem_map.mpr ⟨i, hi, rfl⟩, hreachable⟩
    obtain ⟨c, hc, -⟩ := List.mem_map.mp hid
    exact List.ne_nil_of_mem hc
  obtain ⟨c, hc, hchosen⟩ := choose_of_reachable
    (b := { b with registry := (b.matched service request bound.policy).2 }) service bound.policy
    request (b.offered service request bound.policy).1 hrule (sound_matched hr) hpool
  obtain ⟨hcid, hcreachable⟩ := (mem_ids_pool_iff hr hkept).mp (List.mem_map.mpr ⟨c, hc, rfl⟩)
  refine ⟨c.record, ?_, hcid, hcreachable, latest_of_mem_pool hr hkept hc⟩
  rw [result_select, if_neg hlisted, if_neg hfound, registry_offered hkept]
  exact hchosen

/-- The ways in which a selection ends, with what each of them rests on. -/
inductive Ends (b : Balancer) (service : String) (request : Request) (policy : Policy) :
    Except Failure Instance → Prop
  | unlisted (h : b.listed service = []) :
      Ends b service request policy (.error (.noInstances service))
  | unfound (hlisted : b.listed service ≠ []) (h : b.found service request policy = []) :
      Ends b service request policy (.error (.noCandidates service))
  | unreachable (hlisted : b.listed service ≠ []) (hfound : b.found service request policy ≠ [])
      (h : ∀ i ∈ b.found service request policy, b.isReachable policy i.id = false) :
      Ends b service request policy (.error (.retriesExhausted service (tries policy)
        ((b.found service request policy).map Instance.id).dedup.length))
  | chosen {record : Instance} (hlisted : b.listed service ≠ [])
      (hfound : b.found service request policy ≠ [])
      (hid : record.id ∈ (b.found service request policy).map Instance.id)
      (h : b.isReachable policy record.id = true)
      (hlatest : latest (b.listed service) record.id = some record) :
      Ends b service request policy (.ok record)

/-- **Every selection ends in one of these ways**, unless the rules forget an instance that is found. -/
theorem ends_select (hrule : bound.chooser.rule = .ofAlgorithm a) (hr : b.registry.Sound)
    (hkept : b.FoundKept service request bound.policy) :
    Ends b service request bound.policy (b.select service request bound).1 := by
  by_cases hlisted : b.listed service = []
  · rw [result_select, if_pos hlisted]
    exact .unlisted hlisted
  by_cases hfound : b.found service request bound.policy = []
  · rw [result_select, if_neg hlisted, if_pos hfound]
    exact .unfound hlisted hfound
  by_cases h : ∃ i ∈ b.found service request bound.policy, b.isReachable bound.policy i.id = true
  · obtain ⟨record, hresult, hid, hreachable, hlatest⟩ := select_of_reachable hrule hr hkept h
    rw [hresult]
    exact .chosen hlisted hfound hid hreachable hlatest
  · have hnone : ∀ i ∈ b.found service request bound.policy,
        b.isReachable bound.policy i.id = false := by
      intro i hi
      rw [Bool.eq_false_iff]
      exact fun hreachable => h ⟨i, hi, hreachable⟩
    rw [select_of_unreachable hrule hr hkept hfound hnone]
    exact .unreachable hlisted hfound hnone

/-- So does every selection by rules that read the request. -/
theorem ends_of_readsRequest (hrule : bound.chooser.rule = .ofAlgorithm a) (hr : b.registry.Sound)
    (hreads : b.rules.ReadsRequest bound.policy.ruleSet) :
    Ends b service request bound.policy (b.select service request bound).1 :=
  ends_select hrule hr (foundKept_of_readsRequest hreads service request)

namespace Ends

variable {result : Except Failure Instance}

theorem unlisted_iff (h : Ends b service request policy result) :
    result = .error (.noInstances service) ↔ b.listed service = [] := by
  cases h with
  | unlisted hlisted => exact iff_of_true rfl hlisted
  | unfound hlisted hfound => exact iff_of_false (by simp) hlisted
  | unreachable hlisted hfound hnone => exact iff_of_false (by simp) hlisted
  | chosen hlisted hfound hid hreachable hlatest => exact iff_of_false (by simp) hlisted

theorem unfound_iff (h : Ends b service request policy result) :
    result = .error (.noCandidates service) ↔
      b.listed service ≠ [] ∧ b.found service request policy = [] := by
  cases h with
  | unlisted hlisted => exact iff_of_false (by simp) fun h => h.1 hlisted
  | unfound hlisted hfound => exact iff_of_true rfl ⟨hlisted, hfound⟩
  | unreachable hlisted hfound hnone => exact iff_of_false (by simp) fun h => hfound h.2
  | chosen hlisted hfound hid hreachable hlatest =>
      exact iff_of_false (by simp) fun h => hfound h.2

theorem unreachable_iff (h : Ends b service request policy result) (attempts candidates : Nat) :
    result = .error (.retriesExhausted service attempts candidates) ↔
      b.found service request policy ≠ [] ∧
        (∀ i ∈ b.found service request policy, b.isReachable policy i.id = false) ∧
        attempts = tries policy ∧
        candidates = ((b.found service request policy).map Instance.id).dedup.length := by
  cases h with
  | unlisted hlisted =>
      refine iff_of_false (by simp) ?_
      rintro ⟨hfound, -⟩
      exact hfound (found_eq_nil_of_listed hlisted)
  | unfound hlisted hfound => exact iff_of_false (by simp) fun h => h.1 hfound
  | unreachable hlisted hfound hnone =>
      constructor
      · intro h
        cases h
        exact ⟨hfound, hnone, rfl, rfl⟩
      · rintro ⟨-, -, rfl, rfl⟩
        rfl
  | chosen hlisted hfound hid hreachable hlatest =>
      refine iff_of_false (by simp) ?_
      rintro ⟨-, hnone, -⟩
      obtain ⟨i, hi, hirecord⟩ := List.mem_map.mp hid
      rw [← hirecord, hnone i hi] at hreachable
      cases hreachable

theorem chosen_iff (h : Ends b service request policy result) :
    (∃ record, result = .ok record) ↔
      ∃ i ∈ b.found service request policy, b.isReachable policy i.id = true := by
  cases h with
  | unlisted hlisted =>
      refine iff_of_false (by simp) ?_
      rintro ⟨i, hi, -⟩
      rw [found_eq_nil_of_listed hlisted] at hi
      cases hi
  | unfound hlisted hfound =>
      refine iff_of_false (by simp) ?_
      rintro ⟨i, hi, -⟩
      exact List.ne_nil_of_mem hi hfound
  | unreachable hlisted hfound hnone =>
      refine iff_of_false (by simp) ?_
      rintro ⟨i, hi, hreachable⟩
      rw [hnone i hi] at hreachable
      cases hreachable
  | chosen hlisted hfound hid hreachable hlatest =>
      refine iff_of_true ⟨_, rfl⟩ ?_
      obtain ⟨i, hi, hirecord⟩ := List.mem_map.mp hid
      rw [← hirecord] at hreachable
      exact ⟨i, hi, hreachable⟩

theorem of_ok {record : Instance} (h : Ends b service request policy (.ok record)) :
    record.id ∈ (b.found service request policy).map Instance.id ∧
      b.isReachable policy record.id = true ∧ latest (b.listed service) record.id = some record := by
  cases h with
  | chosen hlisted hfound hid hreachable hlatest => exact ⟨hid, hreachable, hlatest⟩

end Ends

/-! ### Open connections -/

theorem allowsPick_of_rule (S : Scope) (script : List ScriptedPick)
    (hrule : bound.chooser.rule = .ofAlgorithm a) : S.AllowsPick script bound.chooser.rule := by
  rw [hrule]
  exact S.allowsPick_ofAlgorithm script a

/-- A successful selection opens one connection, to its instance. -/
theorem connections_select_of_ok (hrule : bound.chooser.rule = .ofAlgorithm a) {record : Instance}
    (h : (b.select service request bound).1 = .ok record) (x : String) :
    (b.select service request bound).2.registry.connections x =
      b.registry.connections x + if record.id = x then 1 else 0 := by
  obtain ⟨t, ht, hopened⟩ := opens_select (allowsPick_of_rule .quiet b.script hrule) h
  rw [hopened.connections x, registry_connect, Registry.connections_connect, ht.connections x]

/-- A failed selection opens none. -/
theorem connections_select_of_error (hrule : bound.chooser.rule = .ofAlgorithm a) {f : Failure}
    (h : (b.select service request bound).1 = .error f) (x : String) :
    (b.select service request bound).2.registry.connections x = b.registry.connections x :=
  (evolves_select (allowsPick_of_rule .quiet b.script hrule) h).connections x

end Decision

end Balancer

end LoadBalancer

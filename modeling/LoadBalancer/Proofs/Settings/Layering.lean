import Mathlib
import LoadBalancer.Proofs.Settings.Overriding

/-!
# Overrides in layers

Overrides from one lot of variables and then from another come to the same as overrides from both at once,
where a variable that has a value in both counts with the later one.

* `Variables.Governs` – a part of the settings is what a variable says, and as it was if it says nothing;
* `Route.Overridden`, `Settings.Overridden` – the parts that variables govern, and all others unchanged;
* `Variables.value?_or`, `PolicyOverride.values_or` – the values of both lots together, by variable and for
  whole policies;
* `Settings.override_composes` – overrides that succeed compose, and touch nothing but their parts.
-/

namespace LoadBalancer

/-! ### Single variables -/

namespace Variables

variable {α : Type} {name : String} {f : String → Except String α}

/-- A part is what `f` reads in the value of a variable, and as it was if the variable has no value. -/
def Governs (vars : Variables) (name : String) (f : String → Except String α) (old new : α) : Prop :=
  match vars (stem ++ name) with
  | some s => f s = .ok new
  | .none => new = old

theorem governs_value? {vars : Variables} (h : vars.fault? name f = .none) (old : α) :
    vars.Governs name f old ((vars.value? name f).getD old) := by
  unfold Governs
  unfold fault? at h
  unfold value?
  cases hs : vars (stem ++ name) with
  | none => rfl
  | some s =>
    rw [hs, Option.bind_some] at h
    show f s = .ok ((f s).toOption.getD old)
    cases hf : f s with
    | ok a => rfl
    | error m =>
      rw [hf] at h
      cases h

/-- What has no fault in either lot has none in both together. -/
theorem fault?_or {later earlier : Variables} (hl : later.fault? name f = .none)
    (he : earlier.fault? name f = .none) : (later.or earlier).fault? name f = .none := by
  unfold fault? at hl he ⊢
  show (((later (stem ++ name)).or (earlier (stem ++ name))).bind _) = _
  cases hs : later (stem ++ name) with
  | none => rwa [Option.none_or]
  | some s =>
    rw [hs] at hl
    rwa [Option.some_or]

/-- Of two values the later one counts. Without faults a variable that is there has a value. -/
theorem value?_or {later : Variables} (hl : later.fault? name f = .none) (earlier : Variables) :
    (later.or earlier).value? name f = (later.value? name f).or (earlier.value? name f) := by
  unfold fault? at hl
  unfold value?
  show (((later (stem ++ name)).or (earlier (stem ++ name))).bind _) = _
  cases hs : later (stem ++ name) with
  | none => rw [Option.none_or, Option.bind_none, Option.none_or]
  | some s =>
    rw [hs, Option.bind_some] at hl
    rw [Option.some_or, Option.bind_some]
    cases hf : f s with
    | ok a => rfl
    | error m =>
      rw [hf] at hl
      cases hl

theorem or_self (vars : Variables) : vars.or vars = vars := by
  funext name
  exact Option.or_self

end Variables

/-! ### Policies -/

namespace PolicyOverride

variable {vars later earlier : Variables}

/-- None of the variables for parts of policies has a fault. -/
structure Readable (vars : Variables) : Prop where
  algorithm : vars.fault? "ALGORITHM" readAlgorithm = none
  maxTries : vars.fault? "MAX_CHOOSE_TRIES" readTries = none
  fallbackToAll : vars.fault? "FALLBACK_ALL_TO_CANDIDATES" readFlagWord = none
  lenient : vars.fault? "NULL_PING_TO_REACHABLE" readFlagWord = none
  backoff : vars.fault? "RETRY_BACKOFF" readPause = none

theorem readable_iff : Readable vars ↔ faults vars = [] := by
  have hnil : ∀ faults : List (Option Error), faults.reduceOption = [] ↔ ∀ f ∈ faults, f = none := by
    intro faults
    rw [List.reduceOption, List.filterMap_eq_nil_iff]
    rfl
  rw [faults, hnil]
  constructor
  · intro h
    simp [h.algorithm, h.maxTries, h.fallbackToAll, h.lenient, h.backoff]
  · intro h
    constructor <;> exact h _ (by simp)

theorem readable_or (hl : Readable later) (he : Readable earlier) : Readable (later.or earlier) where
  algorithm := Variables.fault?_or hl.algorithm he.algorithm
  maxTries := Variables.fault?_or hl.maxTries he.maxTries
  fallbackToAll := Variables.fault?_or hl.fallbackToAll he.fallbackToAll
  lenient := Variables.fault?_or hl.lenient he.lenient
  backoff := Variables.fault?_or hl.backoff he.backoff

/-- The parts of two overrides; the later ones count. -/
def or (later earlier : PolicyOverride) : PolicyOverride where
  algorithm := later.algorithm.or earlier.algorithm
  maxTries := later.maxTries.or earlier.maxTries
  fallbackToAll := later.fallbackToAll.or earlier.fallbackToAll
  lenient := later.lenient.or earlier.lenient
  backoff := later.backoff.or earlier.backoff

theorem values_or (hl : Readable later) (earlier : Variables) :
    values (later.or earlier) = (values later).or (values earlier) := by
  simp only [values, or, Variables.value?_or hl.algorithm, Variables.value?_or hl.maxTries,
    Variables.value?_or hl.fallbackToAll, Variables.value?_or hl.lenient,
    Variables.value?_or hl.backoff]

/-- One override after the other replaces the parts of both. -/
theorem apply_or (later earlier : PolicyOverride) (p : Policy) :
    (later.or earlier).apply p = later.apply (earlier.apply p) := by
  simp only [apply, or, Option.getD_or]

end PolicyOverride

/-! ### Routes -/

/-- A route as variables make it: they govern five parts of its policy, and nothing else has changed. -/
structure Route.Overridden (vars : Variables) (before after : Route) : Prop where
  id : after.id = before.id
  service : after.service = before.service
  algorithm : vars.Governs "ALGORITHM" PolicyOverride.readAlgorithm
    before.policy.algorithm after.policy.algorithm
  maxTries : vars.Governs "MAX_CHOOSE_TRIES" PolicyOverride.readTries
    before.policy.maxTries after.policy.maxTries
  fallbackToAll : vars.Governs "FALLBACK_ALL_TO_CANDIDATES" PolicyOverride.readFlagWord
    before.policy.fallbackToAll after.policy.fallbackToAll
  lenient : vars.Governs "NULL_PING_TO_REACHABLE" PolicyOverride.readFlagWord
    before.policy.lenient after.policy.lenient
  backoff : vars.Governs "RETRY_BACKOFF" PolicyOverride.readPause
    before.policy.backoff after.policy.backoff
  candidateKey : after.policy.candidateKey = before.policy.candidateKey
  ruleSet : after.policy.ruleSet = before.policy.ruleSet
  weightKey : after.policy.weightKey = before.policy.weightKey

theorem Route.overridden_override {vars : Variables} (h : PolicyOverride.Readable vars) (r : Route) :
    Route.Overridden vars r (r.override (PolicyOverride.values vars)) where
  id := rfl
  service := rfl
  algorithm := Variables.governs_value? h.algorithm _
  maxTries := Variables.governs_value? h.maxTries _
  fallbackToAll := Variables.governs_value? h.fallbackToAll _
  lenient := Variables.governs_value? h.lenient _
  backoff := Variables.governs_value? h.backoff _
  candidateKey := rfl
  ruleSet := rfl
  weightKey := rfl

theorem Route.override_or (later earlier : PolicyOverride) (r : Route) :
    r.override (later.or earlier) = (r.override earlier).override later := by
  simp only [Route.override, PolicyOverride.apply_or]

/-! ### Settings -/

namespace Settings

variable {vars later earlier : Variables}

/-- Settings as variables make them: they govern the level of logs and every route, each in its place, and
nothing else has changed. -/
structure Overridden (vars : Variables) (before after : Settings) : Prop where
  routes : List.Forall₂ (Route.Overridden vars) before.routes after.routes
  level : vars.Governs "LOG_LEVEL" .ok before.reporting.logging.level after.reporting.logging.level
  format : after.reporting.logging.format = before.reporting.logging.format
  metrics : after.reporting.metrics = before.reporting.metrics

/-- Whether overrides succeed hangs on the variables alone. -/
theorem override_ok_iff (s : Settings) :
    (s.override vars).2 = .ok () ↔ PolicyOverride.Readable vars := by
  rw [override_eq, PolicyOverride.readable_iff]
  cases PolicyOverride.faults vars with
  | nil => simp
  | cons first rest => simp

/-- Overrides that succeed. -/
theorem override_of_readable (h : PolicyOverride.Readable vars) (s : Settings) :
    s.override vars =
      ({ s.withLevel (s.levelUnder vars) with
          routes := s.routes.map (Route.override (PolicyOverride.values vars)) }, .ok ()) := by
  rw [override_eq, PolicyOverride.readable_iff.mp h]
  rfl

theorem overridden_override (h : PolicyOverride.Readable vars) (s : Settings) :
    Overridden vars s (s.override vars).1 where
  routes := by
    rw [override_of_readable h]
    show List.Forall₂ _ s.routes (s.routes.map _)
    rw [List.forall₂_map_right_iff, List.forall₂_same]
    intro r _
    exact Route.overridden_override h r
  level := by
    rw [override_of_readable h]
    show Variables.Governs vars "LOG_LEVEL" .ok s.reporting.logging.level (s.levelUnder vars)
    unfold Variables.Governs levelUnder
    cases vars (Variables.stem ++ "LOG_LEVEL") with
    | none => rfl
    | some level => rfl
  format := by
    rw [override_of_readable h]
    rfl
  metrics := by
    rw [override_of_readable h]
    rfl

/-- The level of logs after both lots: the later value counts. -/
theorem levelUnder_or (later earlier : Variables) (s s' : Settings)
    (hs : s'.reporting.logging.level = s.levelUnder earlier) :
    s.levelUnder (later.or earlier) = s'.levelUnder later := by
  show ((later _).or (earlier _)).getD _ = (later _).getD _
  rw [Option.getD_or, hs]
  rfl

/-- One lot of overrides after the other is both lots at once. -/
theorem override_or (hl : PolicyOverride.Readable later) (he : PolicyOverride.Readable earlier)
    (s : Settings) : (s.override earlier).1.override later = s.override (later.or earlier) := by
  have hroutes : (s.routes.map (Route.override (PolicyOverride.values earlier))).map
      (Route.override (PolicyOverride.values later)) =
        s.routes.map (Route.override (PolicyOverride.values (later.or earlier))) := by
    rw [List.map_map, PolicyOverride.values_or hl]
    apply List.map_congr_left
    intro r _
    exact (Route.override_or _ _ r).symm
  have hlevel : s.levelUnder (later.or earlier) = (s.override earlier).1.levelUnder later := by
    apply levelUnder_or
    rw [override_of_readable he]
    rfl
  rw [override_of_readable hl, override_of_readable (PolicyOverride.readable_or hl he), hlevel,
    override_of_readable he, ← hroutes]
  rfl

/-- **Overrides compose, and touch only their parts.** If overrides from an earlier and from a later lot of
variables succeed, then one after the other they come to the same as overrides from both lots at once, which
succeed too: a variable counts with its later value where it has one. So a lot that is applied twice is
applied once. After overrides that succeed every route is in its place, with the value of each variable that
is there in the part that it governs; the other parts of policies, the form of logs and what is measured are
as they were. -/
theorem override_composes (s : Settings) (he : (s.override earlier).2 = .ok ())
    (hl : (s.override later).2 = .ok ()) :
    (s.override earlier).1.override later = s.override (later.or earlier) ∧
      (s.override (later.or earlier)).2 = .ok () ∧
      (s.override earlier).1.override earlier = s.override earlier ∧
      Overridden earlier s (s.override earlier).1 := by
  rw [override_ok_iff] at he hl
  refine ⟨override_or hl he s, ?_, ?_, overridden_override he s⟩
  · rw [override_ok_iff]
    exact PolicyOverride.readable_or hl he
  · rw [override_or he he, Variables.or_self]

/-- Two lots that share a variable, on two routes: the later number of tries counts, the earlier algorithm
stays, and the flag that no variable names is the one of each route. -/
theorem override_composes_shared :
    let s : Settings :=
      ⟨[⟨"a", "users", .default⟩, ⟨"b", "orders", { Policy.default with lenient := false }⟩], .default⟩
    let earlier := Variables.ofLabels
      (.ofList [("GATEWAY_LB_ALGORITHM", "sh"), ("GATEWAY_LB_MAX_CHOOSE_TRIES", "4")])
    let later := Variables.ofLabels
      (.ofList [("GATEWAY_LB_MAX_CHOOSE_TRIES", " 7 "), ("GATEWAY_LB_LOG_LEVEL", "debug")])
    (s.override earlier).2 = .ok () ∧ (s.override later).2 = .ok () ∧
      (s.override earlier).1.override later = s.override (later.or earlier) ∧
      (s.override (later.or earlier)).1.routes.map (fun r => (r.id, r.policy)) =
        [("a", { Policy.default with algorithm := .sourceHash, maxTries := 7 }),
         ("b", { Policy.default with algorithm := .sourceHash, maxTries := 7, lenient := false })] ∧
      Overridden earlier s (s.override earlier).1 := by
  intro s earlier later
  have he : (s.override earlier).2 = .ok () := by decide +kernel
  have hl : (s.override later).2 = .ok () := by decide +kernel
  obtain ⟨hboth, -, -, hparts⟩ := override_composes s he hl
  refine ⟨he, hl, hboth, ?_, hparts⟩
  decide +kernel

end Settings

end LoadBalancer

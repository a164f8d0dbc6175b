import Mathlib
import LoadBalancer.Settings.Overrides

/-!
# Overrides and the faults of variables

The parts of policies that variables replace are all read before any of them is replaced. The level of logs
is not a part of a policy: it is set before anything is read, and nothing sets it back.

* `Variables.fault?`, `Variables.value?` – what is wrong with a variable, and what it says;
* `PolicyOverride.faults`, `PolicyOverride.values` – the same for all parts of a policy;
* `PolicyOverride.ofVariables_eq` – the first fault in the order of the parts counts, and without faults all
  values do;
* `Settings.override_spares_routes` – after a fault the routes are as they were and the level of logs is the
  one that its variable gives; without faults every route has all values.
-/

namespace LoadBalancer

/-! ### Single variables -/

namespace Variables

variable {α : Type}

/-- The error that `f` finds in the value of a variable. -/
def fault? (vars : Variables) (name : String) (f : String → Except String α) : Option Error :=
  (vars (stem ++ name)).bind fun s =>
    match f s with
    | .ok _ => .none
    | .error m => some (.configuration ("Invalid " ++ stem ++ name ++ ": " ++ m))

/-- What `f` makes of the value of a variable. -/
def value? (vars : Variables) (name : String) (f : String → Except String α) : Option α :=
  (vars (stem ++ name)).bind fun s => (f s).toOption

/-- A variable without fault is read as its value. -/
theorem read_eq (vars : Variables) (name : String) (f : String → Except String α) :
    vars.read name f =
      match vars.fault? name f with
      | some e => .error e
      | .none => .ok (vars.value? name f) := by
  unfold read fault? value?
  rcases vars (stem ++ name) with _ | s
  · rfl
  · cases hf : f s <;> simp [hf, Except.toOption]

end Variables

/-! ### The parts of a policy -/

namespace PolicyOverride

/-- The faults of the variables that replace parts of policies, in the order of the parts. -/
def faults (vars : Variables) : List Error :=
  [vars.fault? "ALGORITHM" readAlgorithm,
   vars.fault? "MAX_CHOOSE_TRIES" readTries,
   vars.fault? "FALLBACK_ALL_TO_CANDIDATES" readFlagWord,
   vars.fault? "NULL_PING_TO_REACHABLE" readFlagWord,
   vars.fault? "RETRY_BACKOFF" readPause].reduceOption

/-- The parts that variables replace by a value that can be read. -/
def values (vars : Variables) : PolicyOverride where
  algorithm := vars.value? "ALGORITHM" readAlgorithm
  maxTries := vars.value? "MAX_CHOOSE_TRIES" readTries
  fallbackToAll := vars.value? "FALLBACK_ALL_TO_CANDIDATES" readFlagWord
  lenient := vars.value? "NULL_PING_TO_REACHABLE" readFlagWord
  backoff := vars.value? "RETRY_BACKOFF" readPause

/-- The first fault counts; without faults all values do. -/
theorem ofVariables_eq (vars : Variables) :
    ofVariables vars =
      match (faults vars).head? with
      | some e => .error e
      | none => .ok (values vars) := by
  unfold ofVariables faults values
  simp only [Variables.read_eq]
  -- the parts are read one after the other: the first that has a fault ends it
  cases vars.fault? "ALGORITHM" readAlgorithm with
  | some e => rfl
  | none =>
  cases vars.fault? "MAX_CHOOSE_TRIES" readTries with
  | some e => rfl
  | none =>
  cases vars.fault? "FALLBACK_ALL_TO_CANDIDATES" readFlagWord with
  | some e => rfl
  | none =>
  cases vars.fault? "NULL_PING_TO_REACHABLE" readFlagWord with
  | some e => rfl
  | none => cases vars.fault? "RETRY_BACKOFF" readPause <;> rfl

end PolicyOverride

/-! ### Settings -/

namespace Settings

/-- The level of logs that a variable gives, or else the present one. -/
def levelUnder (vars : Variables) (s : Settings) : String :=
  (vars (Variables.stem ++ "LOG_LEVEL")).getD s.reporting.logging.level

theorem overrideLevel_eq (vars : Variables) (s : Settings) :
    s.overrideLevel vars = s.withLevel (s.levelUnder vars) := by
  unfold overrideLevel levelUnder
  cases vars (Variables.stem ++ "LOG_LEVEL") <;> rfl

/-- Setting the level of logs shows exactly if it is another one. -/
theorem withLevel_eq_self {s : Settings} {level : String} :
    s.withLevel level = s ↔ level = s.reporting.logging.level := by
  constructor
  · intro h
    exact congrArg (·.reporting.logging.level) h
  · rintro rfl
    rfl

/-- An override by the faults and the values of variables. -/
theorem override_eq (vars : Variables) (s : Settings) :
    s.override vars =
      match (PolicyOverride.faults vars).head? with
      | some e => (s.withLevel (s.levelUnder vars), .error e)
      | none =>
        ({ s.withLevel (s.levelUnder vars) with
            routes := s.routes.map (Route.override (PolicyOverride.values vars)) }, .ok ()) := by
  unfold override
  rw [overrideLevel_eq, PolicyOverride.ofVariables_eq]
  cases (PolicyOverride.faults vars).head? <;> rfl

/-- **A failed override replaces the level of logs and nothing else.** An override fails exactly if one of
the five variables for parts of policies has a fault, with the first fault in the order of the parts. Then
every route and all other settings are as they were, but the level of logs is the one that its variable
gives: the settings are as they were exactly if that variable has no value or gives the present level.
Without faults every route has all values that the variables give. -/
theorem override_spares_routes (vars : Variables) (s : Settings) :
    (∀ e, (s.override vars).2 = .error e ↔ (PolicyOverride.faults vars).head? = some e) ∧
      (∀ e, (s.override vars).2 = .error e →
        (s.override vars).1 = s.withLevel (s.levelUnder vars) ∧
        ((s.override vars).1 = s ↔
          ∀ level, vars (Variables.stem ++ "LOG_LEVEL") = some level →
            level = s.reporting.logging.level)) ∧
      ((s.override vars).2 = .ok () →
        PolicyOverride.faults vars = [] ∧
        (s.override vars).1 =
          { s.withLevel (s.levelUnder vars) with
            routes := s.routes.map (Route.override (PolicyOverride.values vars)) }) := by
  rw [override_eq]
  cases hfaults : PolicyOverride.faults vars with
  | nil => simp
  | cons first rest =>
    refine ⟨fun e => by simp, fun e _ => ⟨rfl, ?_⟩, fun h => by simp at h⟩
    show s.withLevel (s.levelUnder vars) = s ↔ _
    rw [withLevel_eq_self, levelUnder]
    cases vars (Variables.stem ++ "LOG_LEVEL") <;> simp

/-- A number of tries that is no number leaves the default settings with a route as they are, and two
values that can be read reach the route. -/
theorem override_spares_routes_alone :
    let s : Settings := ⟨[⟨"a", "users", .default⟩], .default⟩
    let wrong := Variables.ofLabels (.ofList [("GATEWAY_LB_MAX_CHOOSE_TRIES", "many")])
    let right := Variables.ofLabels
      (.ofList [("GATEWAY_LB_MAX_CHOOSE_TRIES", " 3 "), ("GATEWAY_LB_ALGORITHM", "lc")])
    (s.override wrong).2 =
        .error (.configuration
          "Invalid GATEWAY_LB_MAX_CHOOSE_TRIES: invalid digit found in string") ∧
      (s.override wrong).1 = s ∧
      (s.override right).2 = .ok () ∧
      (s.override right).1.routes =
        [⟨"a", "users", { Policy.default with algorithm := .leastConnections, maxTries := 3 }⟩] := by
  intro s wrong right
  have hwrong : (s.override wrong).2 = .error (.configuration
      "Invalid GATEWAY_LB_MAX_CHOOSE_TRIES: invalid digit found in string") := by decide +kernel
  have hunlevelled : wrong (Variables.stem ++ "LOG_LEVEL") = none := by decide +kernel
  have hright : (s.override right).2 = .ok () := by decide +kernel
  refine ⟨hwrong, ?_, hright, ?_⟩
  · exact ((override_spares_routes wrong s).2.1 _ hwrong).2.2 fun level h => by
      rw [hunlevelled] at h
      cases h
  · rw [((override_spares_routes right s).2.2 hright).2]
    decide +kernel

/-- An override that fails is not without effect: the level of logs is another one afterwards. -/
theorem override_sets_level_before_fault :
    let s : Settings := ⟨[⟨"a", "users", .default⟩], .default⟩
    let vars := Variables.ofLabels
      (.ofList [("GATEWAY_LB_LOG_LEVEL", "debug"), ("GATEWAY_LB_MAX_CHOOSE_TRIES", "many")])
    (s.override vars).2 =
        .error (.configuration
          "Invalid GATEWAY_LB_MAX_CHOOSE_TRIES: invalid digit found in string") ∧
      s.reporting.logging.level = "info" ∧
      (s.override vars).1.reporting.logging.level = "debug" ∧
      (s.override vars).1 ≠ s := by
  decide +kernel

end Settings

end LoadBalancer

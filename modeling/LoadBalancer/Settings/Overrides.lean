import LoadBalancer.Settings.Basic

/-!
# Overrides

Settings that are replaced by the values of named variables.

* `Variables` – the values of variables;
* `PolicyOverride` – the parts of a policy that a variable replaces, for all routes alike;
* `Settings.override` – settings after the overrides of some variables. The level of logs is set
  first; the parts of policies are replaced only if all of them can be read.
-/

namespace LoadBalancer

open LoadBalancer.Text

/-- The values of variables. -/
abbrev Variables := String → Option String

namespace Variables

/-- No variable has a value. -/
def none : Variables := fun _ => Option.none

/-- The variables of a list; the last value of a name counts. -/
def ofLabels (l : Labels) : Variables := l.get?

/-- The variables of `later`, and those of `earlier` that have no value there. -/
def or (later earlier : Variables) : Variables := fun name => (later name).or (earlier name)

/-- What all variables that replace settings begin with. -/
def stem : String := "GATEWAY_LB_"

/-- The value of a variable as `f` reads it; the fault that it finds becomes an error. -/
def read {α : Type} (vars : Variables) (name : String) (f : String → Except String α) :
    Except Error (Option α) :=
  match vars (stem ++ name) with
  | Option.none => .ok Option.none
  | some s =>
    match f s with
    | .ok a => .ok (some a)
    | .error m => .error (.configuration ("Invalid " ++ stem ++ name ++ ": " ++ m))

end Variables

/-- The parts of a policy that variables replace. -/
structure PolicyOverride where
  algorithm : Option Algorithm
  maxTries : Option UInt32
  fallbackToAll : Option Bool
  lenient : Option Bool
  backoff : Option Duration
  deriving DecidableEq, Repr

namespace PolicyOverride

/-- An algorithm, by one of its names. -/
def readAlgorithm (s : String) : Except String Algorithm :=
  (Algorithm.read s).mapError Error.message

/-- A number of tries. -/
def readTries (s : String) : Except String UInt32 :=
  ((readUnsigned size32 (trim s)).map UInt32.ofNat).mapError NumeralFault.message

/-- A flag. -/
def readFlagWord (s : String) : Except String Bool :=
  match readFlag (trim s) with
  | some b => .ok b
  | none => .error flagFault

/-- A duration; its fault has no wording. -/
def readPause (s : String) : Except String Duration :=
  (Duration.read (trim s)).mapError fun _ => ""

/-- The parts that some variables replace; the first fault in the order of the parts counts. -/
def ofVariables (vars : Variables) : Except Error PolicyOverride := do
  return {
    algorithm := ← vars.read "ALGORITHM" readAlgorithm
    maxTries := ← vars.read "MAX_CHOOSE_TRIES" readTries
    fallbackToAll := ← vars.read "FALLBACK_ALL_TO_CANDIDATES" readFlagWord
    lenient := ← vars.read "NULL_PING_TO_REACHABLE" readFlagWord
    backoff := ← vars.read "RETRY_BACKOFF" readPause }

/-- A policy with the parts replaced. -/
def apply (o : PolicyOverride) (p : Policy) : Policy :=
  { p with
    algorithm := o.algorithm.getD p.algorithm
    maxTries := o.maxTries.getD p.maxTries
    fallbackToAll := o.fallbackToAll.getD p.fallbackToAll
    lenient := o.lenient.getD p.lenient
    backoff := o.backoff.getD p.backoff }

end PolicyOverride

/-- A route with the parts of its policy replaced. -/
def Route.override (o : PolicyOverride) (r : Route) : Route :=
  { r with policy := o.apply r.policy }

namespace Settings

/-- The settings with another level of logs. -/
def withLevel (s : Settings) (level : String) : Settings :=
  { s with reporting := { s.reporting with
      logging := { s.reporting.logging with level } } }

/-- The settings with the level of logs that a variable gives. -/
def overrideLevel (vars : Variables) (s : Settings) : Settings :=
  match vars (Variables.stem ++ "LOG_LEVEL") with
  | some level => s.withLevel level
  | none => s

/-- The settings after the overrides of some variables, and the error if one cannot be read. -/
def override (vars : Variables) (s : Settings) : Settings × Except Error Unit :=
  let s := s.overrideLevel vars
  match PolicyOverride.ofVariables vars with
  | .ok o => ({ s with routes := s.routes.map (Route.override o) }, .ok ())
  | .error e => (s, .error e)

end Settings

end LoadBalancer

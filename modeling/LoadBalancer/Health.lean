/-!
# Health

What is known about whether an instance is alive.

* `Health` – alive, dead, or never probed;
* `Health.isReachable` – it permits requests, under a policy for what was never probed.
-/

namespace LoadBalancer

/-- What is known about whether an instance is alive. -/
inductive Health where
  | healthy
  | unhealthy
  | unknown
  deriving DecidableEq, Repr

namespace Health

/-- An instance has not been probed when it becomes known. -/
instance : Inhabited Health := ⟨.unknown⟩

/-- The health that the verdict of a probe stands for. -/
def ofVerdict : Option Bool → Health
  | some true => .healthy
  | some false => .unhealthy
  | none => .unknown

/-- The health permits requests; `lenient` says whether it does so while nothing is known. -/
def isReachable (lenient : Bool) : Health → Bool
  | .healthy => true
  | .unhealthy => false
  | .unknown => lenient

/-- The written form. -/
def text : Health → String
  | .healthy => "healthy"
  | .unhealthy => "unhealthy"
  | .unknown => "unknown"

/-- The health of a written form. -/
def read (s : String) : Option Health :=
  [healthy, unhealthy, unknown].find? (·.text == s)

/-! ### Laws -/

theorem read_text (h : Health) : read h.text = some h := by
  cases h <;> decide

theorem isReachable_mono {h : Health} (lenient : Bool) (hs : h.isReachable false = true) :
    h.isReachable lenient = true := by
  cases h <;> simp_all [isReachable]

end Health

end LoadBalancer

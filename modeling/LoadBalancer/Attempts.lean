import LoadBalancer.Metrics.Tally
import LoadBalancer.Registry.Basic

/-!
# Attempts to choose an instance

One instance out of some candidates, in at most so many attempts. Between two attempts there is a
pause, in which the registry may change.

* `intersect` – the entries of a pool that are candidates, in the order of the candidates;
* `Surroundings` – the registry, the rule by which an instance is picked, the pause, and the counters,
  over whatever state they act on;
* `attempt` – the attempts.
-/

namespace LoadBalancer

/-- The entries of a pool that are candidates: in the order of the candidates, each once, and as the
pool has them. -/
def intersect : List Status → List Status → List Status
  | [], _ => []
  | c :: rest, pool =>
    match pool.find? (·.id == c.id) with
    | some s => s :: intersect rest (pool.filter (·.id ≠ c.id))
    | none => intersect rest pool

/-- What attempts act on. -/
structure Surroundings (σ : Type) where
  /-- The registry of a state. -/
  registry : σ → Registry
  /-- An index into a pool, which need not be one of its indices. -/
  pick : List Status → σ → Option Nat × σ
  /-- The time between two attempts passes. -/
  pause : σ → σ
  /-- A counter is increased. -/
  count : (name : String) → Tags → (n : Nat) → σ → σ

/-- What is asked for. -/
structure Demand where
  service : String
  /-- Instances that were never probed will do. -/
  lenient : Bool
  candidates : List Status

/-- How attempts end. -/
inductive Outcome where
  /-- An instance is chosen. -/
  | chosen (record : Instance)
  /-- The service has none of the candidates. -/
  | noCandidate
  /-- All attempts have failed; so many candidates there were in the last one. -/
  | exhausted (candidates : Nat)
  deriving DecidableEq, Repr

namespace Demand

/-- The candidates that the service has. -/
def available (d : Demand) (r : Registry) : List Status :=
  intersect d.candidates (r.all d.service)

/-- The candidates that the service has and that may get requests. -/
def pool (d : Demand) (r : Registry) : List Status :=
  intersect (d.available r) (r.reachable d.lenient d.service)

end Demand

/-- The instance that is picked out of a pool, if it may still get requests. -/
def pickFrom {σ : Type} (env : Surroundings σ) (lenient : Bool) (pool : List Status) (s : σ) :
    Option Status × σ :=
  if pool.isEmpty then (none, s)
  else
    let (index, s) := env.pick pool s
    ((index.bind fun i => pool[i]?).filter fun c => (env.registry s).isAlive lenient c.id, s)

/-- At most `tries` attempts. -/
def attempt {σ : Type} (env : Surroundings σ) (d : Demand) : (tries : Nat) → σ → Outcome × σ
  | 0, s => (.exhausted 0, s)
  | left + 1, s =>
    let available := d.available (env.registry s)
    if available.isEmpty then (.noCandidate, s)
    else
      match pickFrom env d.lenient (d.pool (env.registry s)) s with
      | (some c, s) => (.chosen c.record, s)
      | (none, s) =>
        if left = 0 then (.exhausted available.length, s) else attempt env d left (env.pause s)

/-! ### Laws -/

/-- Everything in the intersection is in the pool. -/
theorem mem_of_mem_intersect {x : Status} {cs pool : List Status} (h : x ∈ intersect cs pool) :
    x ∈ pool := by
  induction cs generalizing pool with
  | nil => simp [intersect] at h
  | cons c rest ih =>
    simp only [intersect] at h
    split at h
    · rename_i s hs
      rcases List.mem_cons.1 h with rfl | h
      · exact List.mem_of_find?_eq_some hs
      · exact (List.mem_filter.1 (ih h)).1
    · exact ih h

/-- No id comes twice in the intersection. -/
theorem nodup_intersect (cs pool : List Status) : ((intersect cs pool).map Status.id).Nodup := by
  induction cs generalizing pool with
  | nil => simp [intersect]
  | cons c rest ih =>
    simp only [intersect]
    split
    · rename_i s hs
      have hid : s.id = c.id := by simpa using List.find?_some hs
      refine List.nodup_cons.2 ⟨fun hm => ?_, ih _⟩
      obtain ⟨x, hx, hxs⟩ := List.mem_map.1 hm
      have := (List.mem_filter.1 (mem_of_mem_intersect hx)).2
      simp [hxs, hid] at this
    · exact ih _

end LoadBalancer

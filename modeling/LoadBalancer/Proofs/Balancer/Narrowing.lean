import Mathlib
import LoadBalancer.Proofs.Pool
import LoadBalancer.Proofs.Balancer.Course
import LoadBalancer.Proofs.Registry.Membership

/-!
# Narrowing down the candidates

Before an instance is picked, the candidates are looked for among all instances of the service and then among
those that may get requests; after the pick the registry is asked once more. On one registry all three agree.

* `Registry.nodup_ids_all`, `Registry.nodup_ids_reachable` – a registry in use shows no id twice;
* `Demand.pool_narrows` – what the candidates are narrowed down to, and that it holds until the end of the
  attempt.
-/

namespace LoadBalancer

/-! ### Registries in use -/

namespace Registry

variable {r : Registry}

/-- All instances of a service have different ids, as no id is on its list twice. -/
theorem nodup_ids_all (hsound : r.Sound) (hindexed : r.Indexed) (service : String) :
    ((r.all service).map Status.id).Nodup := by
  rw [ids_all hsound]
  exact (hindexed.nodup service).filter _

/-- Those that may get requests are some of them. -/
theorem nodup_ids_reachable (hsound : r.Sound) (hindexed : r.Indexed) (lenient : Bool)
    (service : String) : ((r.reachable lenient service).map Status.id).Nodup :=
  (nodup_ids_all hsound hindexed service).sublist ((r.reachable_sublist lenient service).map _)

end Registry

/-! ### The main statement -/

/-- **How candidates are narrowed down.** If no id comes twice in a pool, the intersection of candidates with
it is the one list that has, in the order of the candidates, each of their ids that is in the pool where it
comes first, with the entries of the pool; no id comes twice in it, and it stays as it is if it is intersected
with the pool again. In every state that a registry can get into, no id is shown twice for a service. The pool
of a demand, for which candidates are looked for among all instances of the service and then among those that
may get requests, is their intersection with the latter; the registry says of each of its members that it may
get requests. So while the registry stays as it is, an index of the pool that is picked is not refused, and the
attempt ends with the instance. -/
theorem Demand.pool_narrows :
    (∀ candidates pool : List Status, (pool.map Status.id).Nodup →
      (∀ l, l = intersect candidates pool ↔
        l.map Status.id =
            (candidates.map Status.id).eraseDups.filter (fun id => id ∈ pool.map Status.id) ∧
          ∀ c ∈ l, c ∈ pool) ∧
      ((intersect candidates pool).map Status.id).Nodup ∧
      intersect (intersect candidates pool) pool = intersect candidates pool) ∧
    ∀ (actions : List RegistryAction) (d : Demand),
      let r := (RegistryAction.runAll .empty actions).1
      let known := r.all d.service
      let reachable := r.reachable d.lenient d.service
      (known.map Status.id).Nodup ∧ (reachable.map Status.id).Nodup ∧
      d.pool r = intersect (intersect d.candidates known) reachable ∧
      intersect (intersect d.candidates known) reachable = intersect d.candidates reachable ∧
      (∀ c ∈ d.pool r, r.isAlive d.lenient c.id = true) ∧
      ∀ {σ : Type} (env : Surroundings σ) (s : σ) (i : Nat), env.registry s = r →
        env.registry (env.pick (d.pool r) s).2 = r → (env.pick (d.pool r) s).1 = some i →
        ∀ hi : i < (d.pool r).length,
          pickFrom env d.lenient (d.pool r) s = (some (d.pool r)[i], (env.pick (d.pool r) s).2) ∧
          ∀ left, attempt env d (left + 1) s =
            (.chosen (d.pool r)[i].record, (env.pick (d.pool r) s).2) := by
  refine ⟨?_, ?_⟩
  · intro candidates pool hpool
    refine ⟨fun l => eq_intersect_iff hpool, nodup_intersect candidates pool, ?_⟩
    exact intersect_intersect candidates hpool
  · intro actions d r known reachable
    have hsound : r.Sound := Registry.sound_runAll Registry.sound_empty actions
    have hindexed : r.Indexed := RegistryAction.indexed_runAll Registry.indexed_empty actions
    have halive : ∀ c ∈ d.pool r, r.isAlive d.lenient c.id = true := fun _ => d.isAlive_of_mem_pool hsound
    have htwo : d.pool r = intersect (intersect d.candidates known) reachable := rfl
    have hone : d.pool r = intersect d.candidates reachable := d.pool_eq_intersect r
    refine ⟨Registry.nodup_ids_all hsound hindexed d.service, ?_, htwo, htwo.symm.trans hone, halive, ?_⟩
    · exact Registry.nodup_ids_reachable hsound hindexed d.lenient d.service
    · intro σ env s i hbefore hafter hpick hi
      have haccepted : pickFrom env d.lenient (d.pool r) s =
          (some (d.pool r)[i], (env.pick (d.pool r) s).2) := by
        apply pickFrom_of_lt hpick hi
        rw [hafter]
        exact halive
      -- the attempt asks the registry of its own state for the pool
      have hpicked : pickFrom env d.lenient (d.pool (env.registry s)) s =
          (some (d.pool r)[i], (env.pick (d.pool r) s).2) := by
        rw [hbefore]
        exact haccepted
      exact ⟨haccepted, fun left => Surroundings.attempt_of_picked hpicked left⟩

/-- Of four candidates one comes twice, one is not known and one is down. The statuses that come with them are
out of date; the one that is chosen is the one that the registry has. -/
theorem Demand.pool_narrows_repeated :
    let a := Instance.plain "a" "users" "10.0.0.1" 80
    let b := Instance.plain "b" "users" "10.0.0.2" 80
    let c := Instance.plain "c" "users" "10.0.0.3" 80
    let x := Instance.plain "x" "users" "10.0.0.4" 80
    let actions : List RegistryAction :=
      [.observe "users" [a, b, c], .mark "a" .healthy, .mark "b" .unhealthy, .mark "c" .healthy, .connect a]
    let d : Demand := ⟨"users", false, [⟨c, 7, .unknown⟩, ⟨x, 0, .healthy⟩, ⟨c, 8, .unknown⟩,
      ⟨b, 0, .healthy⟩, ⟨a, 0, .unknown⟩]⟩
    let r := (RegistryAction.runAll .empty actions).1
    let env : Surroundings Nat :=
      ⟨fun _ => r, fun _ picks => (some 1, picks + 1), id, fun _ _ _ picks => picks⟩
    (((r.all "users").map Status.id).Nodup ∧
        intersect (intersect d.candidates (r.all "users")) (r.all "users") =
          intersect d.candidates (r.all "users")) ∧
      d.pool r = [⟨c, 0, .healthy⟩, ⟨a, 1, .healthy⟩] ∧ (env.pick (d.pool r) 0).1 = some 1 ∧
      attempt env d 3 0 = (.chosen a, 1) := by
  intro a b c x actions d r env
  obtain ⟨hintersect, hruns⟩ := Demand.pool_narrows
  obtain ⟨hnodup, -, -, -, -, hpicked⟩ := hruns actions d
  have hpool : d.pool r = [⟨c, 0, .healthy⟩, ⟨a, 1, .healthy⟩] := by decide
  have hi : 1 < (d.pool r).length := by decide
  have hfixed : ∀ picks, env.registry picks = r := by simp only [env, implies_true]
  have hpick : (env.pick (d.pool r) 0).1 = some 1 := rfl
  have hchosen : attempt env d (2 + 1) 0 = (.chosen (d.pool r)[1].record, 1) :=
    (hpicked env 0 1 (hfixed 0) (hfixed 1) hpick hi).2 2
  have hagain := (hintersect d.candidates (r.all "users") hnodup).2.2
  refine ⟨⟨hnodup, hagain⟩, hpool, hpick, ?_⟩
  have hsecond : (d.pool r)[1] = ⟨a, 1, .healthy⟩ := List.getElem_of_eq hpool hi
  rw [hchosen, hsecond]

end LoadBalancer

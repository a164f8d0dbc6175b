import Mathlib
import LoadBalancer.Proofs.Balancer.Calls
import LoadBalancer.Proofs.Balancer.Plain

/-!
# What may be chosen at random

* `Call.inWorld`, `Call.possible` – a call with other random numbers, and all that may be answered to it;
* `Call.answer_of_roll` – the next random number is the index of the answer;
* `Call.possible_of_random` – **every instance in the pool may be chosen, and nothing else may be answered**;
* `Call.under`, `Call.possible_under` – the same call of another chooser; the one for weighted random choice
  may answer the same as the one for random choice.
-/

namespace LoadBalancer.Call

variable {c : Call}

/-- The call in a world with other random numbers. -/
def inWorld (c : Call) (rolls : Nat → Nat) : Call :=
  { c with balancer := { c.balancer with ambient := { c.balancer.ambient with rolls } } }

/-- All that may be answered to a call. -/
def possible (c : Call) : Set (Except Failure Instance) :=
  {result | ∃ rolls, (c.inWorld rolls).answer = result}

/-- The answer is in the pool, where the next random number says. -/
theorem answer_of_roll (hrule : c.chooser.rule = .random) (hr : c.balancer.registry.Sound)
    (rolls : Nat → Nat) {m : Status}
    (hm : c.pool[rolls c.balancer.rolled % c.pool.length]? = some m) :
    (c.inWorld rolls).answer = .ok m.record := by
  have hpicked : (Balancer.pick (c.inWorld rolls).chooser (c.inWorld rolls).service
      (c.inWorld rolls).request (c.inWorld rolls).pool (c.inWorld rolls).balancer).1 =
        some (rolls c.balancer.rolled % c.pool.length) := by
    unfold Balancer.pick
    rw [show (c.inWorld rolls).chooser.rule = .random from hrule]
    rfl
  have hanswered := answered_of_pick (c := c.inWorld rolls) (a := .random) hrule hr hm hpicked
  rw [answer, hanswered]

/-- **What may be chosen at random** are the instances in the pool, each of them; without a pool, the answer
is the failure. -/
theorem possible_of_random (hrule : c.chooser.rule = .random) (hr : c.balancer.registry.Sound) :
    c.possible =
      if c.pool = [] then {.error c.failure} else {result | ∃ m ∈ c.pool, result = .ok m.record} := by
  ext result
  split
  · rename_i hpool
    have hfails : ∀ rolls, (c.inWorld rolls).answer = .error c.failure := fun rolls =>
      answer_of_unreachable (c := c.inWorld rolls) (a := .random) hrule hpool
    constructor
    · rintro ⟨rolls, rfl⟩
      exact hfails rolls
    · rintro rfl
      exact ⟨id, hfails id⟩
  · rename_i hpool
    have hlength : 0 < c.pool.length := List.length_pos_of_ne_nil hpool
    constructor
    · rintro ⟨rolls, rfl⟩
      have hlt := Nat.mod_lt (rolls c.balancer.rolled) hlength
      exact ⟨_, List.getElem_mem hlt, answer_of_roll hrule hr rolls (List.getElem?_eq_getElem hlt)⟩
    · rintro ⟨m, hm, rfl⟩
      obtain ⟨i, hlt, hi⟩ := List.mem_iff_getElem.mp hm
      refine ⟨fun _ => i, answer_of_roll hrule hr _ ?_⟩
      rw [Nat.mod_eq_of_lt hlt, List.getElem?_eq_getElem hlt, hi]

/-- The same call of the default chooser of another algorithm. -/
def under (c : Call) (a : Algorithm) : Call :=
  { c with chooser := .ofAlgorithm a, policy := { c.policy with algorithm := a } }

/-- Whether choosing at random is to be weighted makes no difference to what may be chosen. -/
theorem possible_under {a : Algorithm} (ha : a ∈ [.random, .weightedRandom])
    (hr : c.balancer.registry.Sound) :
    (c.under a).possible =
      if c.pool = [] then {.error c.failure} else {result | ∃ m ∈ c.pool, result = .ok m.record} := by
  refine possible_of_random (c := c.under a) ?_ hr
  rcases List.mem_pair.mp ha with rfl | rfl <;> rfl

end LoadBalancer.Call

import Mathlib
import LoadBalancer.Proofs.Balancer.Accounting

/-!
# Selecting and routing, put together

What follows on a part of a selection, as a function of what that part answers and of the state that it
leaves.

* `Balancer.missed`, `Balancer.disconnect_eq` – what follows on closing a connection;
* `Surroundings.resume`, `attempt_succ` – what follows on a pick;
* `Balancer.chooseByAttempts_eq` – what follows on the attempts;
* `Balancer.opened`, `Balancer.select_eq` – what follows on a decision;
* `Balancer.forwarded`, `Balancer.route_eq` – what follows on a selection.
-/

namespace LoadBalancer

section Attempts

variable {σ : Type}

/-- Attempts after a pick, with so many left, and so many candidates at hand. -/
def Surroundings.resume (env : Surroundings σ) (d : Demand) (left candidates : Nat) :
    Option Status → σ → Outcome × σ
  | some c, s => (.chosen c.record, s)
  | none, s => if left = 0 then (.exhausted candidates, s) else attempt env d left (env.pause s)

theorem attempt_succ (env : Surroundings σ) (d : Demand) (left : Nat) (s : σ) :
    attempt env d (left + 1) s =
      if (d.available (env.registry s)).isEmpty then (.noCandidate, s)
      else
        let picked := pickFrom env d.lenient (d.pool (env.registry s)) s
        env.resume d left (d.available (env.registry s)).length picked.1 picked.2 := by
  rw [attempt]
  congr 1
  obtain ⟨c | c, t⟩ := pickFrom env d.lenient (d.pool (env.registry s)) s <;> rfl

end Attempts

namespace Balancer

/-- What is measured when a connection is closed: that it was not open. -/
def missed (b : Balancer) (id : String) : List Measurement :=
  if b.reportsUnderflow && b.registry.connections id == 0 then underflows [id] else []

theorem disconnect_eq (b : Balancer) (id : String) :
    (b.disconnect id).2 =
      { b with registry := (b.registry.disconnect id).2, sink := b.sink.measure (b.missed id) } := by
  rw [← act_disconnect, act_eq, RegistryAction.runAll_cons, RegistryAction.run_disconnect]
  simp only [countUnderflows_eq_measure, RegistryAction.runAll, List.append_nil, missed]
  cases b.reportsUnderflow with
  | false => rfl
  | true =>
      by_cases hzero : b.registry.connections id = 0
      · simp only [hzero, if_true, Bool.true_and, beq_self_eq_true]
      · simp only [hzero, if_true, if_false, Bool.true_and, beq_iff_eq]
        rfl

/-- After the attempts, all that is measured is that they are used up. -/
theorem chooseByAttempts_eq (b : Balancer) (chooser : Chooser) (service : String) (policy : Policy)
    (request : Request) (candidates : List Status) :
    b.chooseByAttempts chooser service policy request candidates =
      let ended := attempt (surroundings chooser service policy request)
        ⟨service, policy.lenient, candidates⟩ (tries policy) b
      let result := answerOf service policy ended.1
      (result, { ended.2 with sink := ended.2.sink.measure (exhaustion service policy result) }) := by
  unfold chooseByAttempts chooseIn
  generalize attempt _ _ _ b = ended
  obtain ⟨outcome, t⟩ := ended
  cases outcome <;> rfl

/-- The balancer with a connection to the instance that was chosen. -/
def opened : Except Failure Instance → Balancer → Balancer
  | .ok record, b => (b.connect record).2
  | .error _, b => b

theorem sink_opened (result : Except Failure Instance) (b : Balancer) :
    (opened result b).sink = b.sink := by
  cases result <;> rfl

/-- After a decision, a connection is opened, and the outcome is measured. -/
theorem select_eq (b : Balancer) (service : String) (request : Request) (bound : BoundRoute) :
    b.select service request bound =
      let decided := b.decide service request bound
      (decided.1, { opened decided.1 decided.2.2 with
        sink := decided.2.2.sink.measure
          (outcomes bound.algorithm service decided.2.1 decided.1) }) := by
  unfold select
  obtain ⟨result, nanos, t⟩ := b.decide service request bound
  cases result <;> rfl

/-- A route after the selection of a service, with the request as it is sent on. -/
def forwarded [Url.DomainNames] (request : Request) (bound : BoundRoute) (service : String) :
    Except Failure Instance → Balancer → (Except Failure Instance × Request) × Balancer
  | .error f, b => ((.error f, request), b)
  | .ok record, b =>
    match forwardTarget request.target record with
    | some target => ((.ok record, { request with target }), b)
    | none =>
      let f := Failure.invalidTarget service record.id
      ((.error f, request), ((b.countFailure f bound.algorithm).disconnect record.id).2)

theorem route_eq [Url.DomainNames] {b : Balancer} {request : Request} {bound : BoundRoute}
    {service : String} (h : request.service? = some service) :
    let selected := b.select service request bound
    let routed := b.route request bound
    ((routed.1, routed.2.1), routed.2.2) =
      forwarded request bound service selected.1 selected.2 := by
  unfold route forwarded
  rw [h]
  dsimp only
  obtain ⟨f | record, t⟩ := b.select service request bound
  · rfl
  · dsimp only
    cases forwardTarget request.target record <;> rfl

end Balancer

end LoadBalancer

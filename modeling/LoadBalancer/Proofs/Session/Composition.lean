import Mathlib
import LoadBalancer.Session.Selecting

/-!
# Selecting in a session, put together

What follows on the answer of the balancer, as a function of that answer and of the session that it leaves.

* `Session.routed`, `Session.route_of_prepared` – one route;
* `Session.selected`, `Session.select_of_prepared` – one selection;
* `Session.keepChosen`, `Session.routeTimes_succ`, `Session.routeMany_of_prepared` – several routes;
* `Session.choose_succ` – several choices.
-/

namespace LoadBalancer.Session

variable {s : Session} {name service : String} {text : RequestText} {heldName : Option String}
variable {bound : BoundRoute} {request : Request} {e : Refusal}

/-- The answer to a route: a chosen instance is held or closed. -/
def routed (heldName : Option String) :
    Except Failure Instance × Request → Session → Except Refusal (Except Failure Chosen × Url) × Session
  | (.ok record, request), s =>
    (.ok (.ok (s.settle heldName record).1, request.target), (s.settle heldName record).2)
  | (.error f, request), s => (.ok (.error f, request.target), s)

theorem route_of_prepared [Url.DomainNames] (h : s.prepare name text = .ok (bound, request)) :
    s.route name text heldName =
      let answer := s.balancer.route request bound
      routed heldName (answer.1, answer.2.1) { s with balancer := answer.2.2 } := by
  unfold route
  rw [h]
  dsimp only
  obtain ⟨f | record, request', b⟩ := s.balancer.route request bound <;> rfl

theorem route_of_refused [Url.DomainNames] (h : s.prepare name text = .error e) :
    s.route name text heldName = (.error e, s) := by
  unfold route
  rw [h]

/-- The answer to a selection. -/
def selected (heldName : Option String) :
    Except Failure Instance → Session → Except Refusal Chosen × Session
  | .ok record, s => (.ok (s.settle heldName record).1, (s.settle heldName record).2)
  | .error f, s => (.error (.failure f), s)

theorem select_of_prepared [Url.DomainNames] (h : s.prepare name text = .ok (bound, request)) :
    s.select name service text heldName =
      let answer := s.balancer.select service request bound
      selected heldName answer.1 { s with balancer := answer.2 } := by
  unfold select
  rw [h]
  dsimp only
  obtain ⟨f | record, b⟩ := s.balancer.select service request bound <;> rfl

theorem select_of_refused [Url.DomainNames] (h : s.prepare name text = .error e) :
    s.select name service text heldName = (.error e, s) := by
  unfold select
  rw [h]

/-- A chosen instance is held or closed. -/
def keepChosen (heldName : Option String) : Except Failure Instance → Session → Session
  | .ok record, s => s.keep heldName record
  | .error _, s => s

variable (bound request) in
theorem routeTimes_succ [Url.DomainNames] (s : Session) (name : Nat → Option String) (n i : Nat) :
    routeTimes bound request name (n + 1) i s =
      let answer := s.balancer.route request bound
      let later := routeTimes bound request name n (i + 1)
        (keepChosen (name i) answer.1 { s with balancer := answer.2.2 })
      (answer.1 :: later.1, later.2) := by
  rw [routeTimes]
  obtain ⟨f | record, request', b⟩ := s.balancer.route request bound <;> rfl

theorem routeMany_of_prepared [Url.DomainNames] {times : Nat} {names : Nat → Option String}
    (h : s.prepare name text = .ok (bound, request)) :
    s.routeMany name text times names =
      let answer := routeTimes bound request names times 0 s
      (.ok answer.1, answer.2) := by
  unfold routeMany
  rw [h]

theorem routeMany_of_refused [Url.DomainNames] {times : Nat} {names : Nat → Option String}
    (h : s.prepare name text = .error e) :
    s.routeMany name text times names = (.error e, s) := by
  unfold routeMany
  rw [h]

theorem choose_succ (s : Session) (chooser : Chooser) (service : String) (policy : Policy)
    (request : Request) (records : List Instance) (times : Nat) :
    s.choose chooser service policy request records (times + 1) =
      let answer := s.balancer.choose chooser service policy request (unseen records)
      let later := choose { s with balancer := answer.2 } chooser service policy request records times
      (answer.1 :: later.1, later.2) := rfl

end LoadBalancer.Session

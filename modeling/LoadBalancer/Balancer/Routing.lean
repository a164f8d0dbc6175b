import LoadBalancer.Balancer.Selection

/-!
# Routing

* `forwardTarget` – the target of a request at an instance: its path and query, read anew behind the
  address of the instance;
* `Balancer.route` – an instance for a request, whose target then points to it.
-/

namespace LoadBalancer

/-- The text of a target at an instance. The scheme of an instance may read path and query in other
ways than the scheme of the target. -/
def forwardText (target : Url) (record : Instance) : String :=
  record.url ++ target.pathText ++ Url.marked "?" target.query

variable [Url.DomainNames]

/-- The target at an instance, if the address of the instance makes a URL. -/
def forwardTarget (target : Url) (record : Instance) : Option Url :=
  Url.read (forwardText target record)

namespace Balancer

/-- An instance for a request, with one more connection to it, and the request with the target at
that instance. A failure leaves the request alone, and no connection is open after it. -/
def route (b : Balancer) (request : Request) (route : BoundRoute) :
    Except Failure Instance × Request × Balancer :=
  match request.service? with
  | none =>
    let f := Failure.noInstances ""
    (.error f, request, b.countFailure f route.algorithm)
  | some service =>
    match b.select service request route with
    | (.error f, b) => (.error f, request, b)
    | (.ok record, b) =>
      match forwardTarget request.target record with
      | some target => (.ok record, { request with target }, b)
      | none =>
        let f := Failure.invalidTarget service record.id
        (.error f, request, ((b.countFailure f route.algorithm).disconnect record.id).2)

variable {b : Balancer} {request : Request} {r : BoundRoute} {record : Instance}

/-- A successful route is a successful selection of the service that is asked for. -/
theorem select_of_route (h : (b.route request r).1 = .ok record) :
    ∃ service, request.service? = some service ∧ (b.select service request r).1 = .ok record := by
  unfold route at h
  split at h
  · cases h
  · rename_i service hservice
    refine ⟨service, hservice, ?_⟩
    split at h
    · cases h
    · rename_i other t heq
      split at h
      · cases h
        exact congrArg Prod.fst heq
      · cases h

/-- A selection makes a route, unless the address of the instance makes no URL. -/
theorem route_of_select {service : String} (hservice : request.service? = some service)
    (h : (b.select service request r).1 = .ok record) :
    (∃ target, forwardTarget request.target record = some target ∧
        (b.route request r).1 = .ok record ∧ (b.route request r).2.1 = { request with target }) ∨
      forwardTarget request.target record = none ∧
        (b.route request r).1 = .error (.invalidTarget service record.id) := by
  unfold route
  rw [hservice]
  dsimp only
  split
  · rename_i f t heq
    rw [heq] at h
    cases h
  · rename_i other t heq
    rw [heq] at h
    cases h
    split
    · rename_i target htarget
      exact Or.inl ⟨target, htarget, rfl, rfl⟩
    · rename_i htarget
      exact Or.inr ⟨htarget, rfl⟩

/-- A failed route leaves the request as it was. -/
theorem request_route_of_error {f : Failure} (h : (b.route request r).1 = .error f) :
    (b.route request r).2.1 = request := by
  unfold route at *
  repeat' split
  all_goals simp_all

end Balancer

end LoadBalancer

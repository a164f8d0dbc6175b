import Mathlib
import LoadBalancer.Proofs.Balancer.Conduct
import LoadBalancer.Proofs.Registry.Membership
import LoadBalancer.Session.Step

/-!
# What a failed route leaves behind

A route that fails leaves the request and the open connections as they were. It may make instances
known, and a chooser may forget and mark some; apart from these, health stays as it was too.

* `RegistryAction.Spares`, `RegistryAction.NeverMarks` – actions that leave the health of an instance
  alone, and actions that do so unless they forget it;
* `RegistryAction.forgotten?_of_spares`, `RegistryAction.read_health_run` – what they do to one
  registry;
* `Balancer.counts_route_of_error` – the connection that a failed route has opened is closed again;
* `Session.failed_route_leaves` – what a session is like after a failed route.
-/

namespace LoadBalancer

/-! ### Known instances and their health -/

namespace RegistryAction

/-- The action neither marks nor forgets an instance. -/
def Spares (x : String) : RegistryAction → Prop
  | mark id _ => id ≠ x
  | evict id => id ≠ x
  | _ => True

/-- The action does not mark an instance. -/
def NeverMarks (x : String) : RegistryAction → Prop
  | mark id _ => id ≠ x
  | _ => True

variable {r : Registry} {a : RegistryAction} {x : String}

/-- What spares an instance does not forget it. -/
theorem forgotten?_of_spares (h : a.Spares x) : a.forgotten? r ≠ some x := by
  intro hforgotten
  obtain ⟨rfl, -, -⟩ := forgotten?_eq_some hforgotten
  exact h rfl

/-- Only by being marked or forgotten an instance changes its health; while it is unknown, so is its
health. -/
theorem read_health_run (h : a.Spares x) :
    (run r a).1.read Entry.health .unknown x = r.read Entry.health .unknown x := by
  cases a with
  | observe service records => exact Registry.read_observe Registry.steady_health r service records x
  | status record => exact Registry.read_statusOf Registry.steady_health r record x
  | connect record =>
      have hk := Registry.known?_connect r record x
      split at hk
      · refine (Registry.read_of_known? hk).trans ?_
        unfold Registry.read
        cases r.known? x <;> rfl
      · exact Registry.read_congr hk
  | disconnect id =>
      rw [run_disconnect]
      exact Registry.read_disconnect (fun _ _ => rfl) r id x
  | mark id health =>
      have hk := Registry.known?_mark r id health x
      rw [if_neg h] at hk
      exact Registry.read_congr hk
  | evict id =>
      have hid : id ≠ x := h
      simp only [run, Registry.read_evict, hid, false_and, if_false]

/-- An instance of unknown health keeps it as long as nobody marks it, forgotten or not. -/
theorem read_health_run_of_unknown (h : a.NeverMarks x)
    (hr : r.read Entry.health .unknown x = .unknown) :
    (run r a).1.read Entry.health .unknown x = .unknown := by
  by_cases hspares : a.Spares x
  · exact (read_health_run hspares).trans hr
  · -- what neither marks nor spares an instance forgets it
    cases a with
    | evict id =>
        simp only [run, Registry.read_evict]
        split
        · rfl
        · exact hr
    | mark id health => exact absurd h hspares
    | _ => exact absurd trivial hspares

end RegistryAction

namespace Registry.Leads

variable {r r' : Registry} {x : String}

/-- **A whole run** of actions that spare an instance: it stays known, with its health. -/
theorem health (h : r.Leads (RegistryAction.Spares x) r') {e : Entry} (hk : r.known? x = some e) :
    ∃ e', r'.known? x = some e' ∧ e'.health = e.health := by
  have hkept : r'.known? x ≠ none ∧
      r'.read Entry.health .unknown x = r.read Entry.health .unknown x := by
    refine h.keeps (P := fun t => t.known? x ≠ none ∧
      t.read Entry.health .unknown x = r.read Entry.health .unknown x) ?_ ⟨by simp [hk], rfl⟩
    intro t a ha ht
    exact ⟨RegistryAction.known?_run_ne_none ht.1 (RegistryAction.forgotten?_of_spares ha),
      (RegistryAction.read_health_run ha).trans ht.2⟩
  obtain ⟨e', he'⟩ := Option.ne_none_iff_exists'.mp hkept.1
  refine ⟨e', he', ?_⟩
  rw [read_of_known? he', read_of_known? hk] at hkept
  exact hkept.2

/-- **A whole run** of actions that do not mark an instance: if it becomes known, its health is not. -/
theorem health_of_unknown (h : r.Leads (RegistryAction.NeverMarks x) r') (hk : r.known? x = none)
    {e : Entry} (he : r'.known? x = some e) : e.health = .unknown := by
  have hkept : r'.read Entry.health .unknown x = .unknown :=
    h.keeps (P := fun t => t.read Entry.health .unknown x = .unknown)
      (fun _ _ ha ht => RegistryAction.read_health_run_of_unknown ha ht) (read_of_unknown hk)
  rw [read_of_known? he] at hkept
  exact hkept

end Registry.Leads

/-! ### Failed routes -/

namespace Balancer

variable {b : Balancer} {request : Request} {bound : BoundRoute} {f : Failure}

/-- The connection that a failed route has opened is closed again, which is no underflow. -/
theorem counts_route_of_error [Url.DomainNames] (h : Permits RegistryAction.IsQuiet b bound)
    (hfailed : (b.route request bound).1 = .error f) :
    (∀ x, (b.route request bound).2.2.registry.connections x = b.registry.connections x) ∧
      (b.route request bound).2.2.sink.countersOf Metric.counterUnderflow =
        b.sink.countersOf Metric.counterUnderflow := by
  have hnever : ∀ id, ¬RegistryAction.IsQuiet (.disconnect id) := fun _ => id
  rcases leads_route h hfailed with hleads | ⟨record, t, ⟨u, hu, hut⟩, hclosed⟩
  · exact ⟨hleads.registry.connections, hleads.underflow hnever⟩
  · have hopen : ∀ x, t.registry.connections x =
        b.registry.connections x + if record.id = x then 1 else 0 := by
      intro x
      rw [hut.registry.connections, registry_connect, Registry.connections_connect,
        hu.registry.connections]
    refine ⟨?_, ?_⟩
    · intro x
      rw [hclosed, registry_disconnect, Registry.connections_disconnect, hopen x]
      omega
    · have hpos : t.registry.connections record.id ≠ 0 := by
        rw [hopen record.id, if_pos rfl]
        omega
      rw [hclosed, sink_disconnect hpos, hut.underflow hnever]
      exact hu.underflow hnever

end Balancer

namespace Session

/-- A step that routes a request in vain answers why, and changes nothing but the balancer. -/
theorem route_of_error [Url.DomainNames] {s : Session} {bound : BoundRoute} {request : Request}
    {f : Failure}
    (hfailed : (s.balancer.route request bound).1 = .error f) {name : String} {text : RequestText}
    (hprepared : s.prepare name text = .ok (bound, request)) (heldName : Option String) :
    s.route name text heldName =
      (.ok (.error f, request.target),
        { s with balancer := (s.balancer.route request bound).2.2 }) := by
  have hrequest := Balancer.request_route_of_error hfailed
  unfold route
  rw [hprepared]
  dsimp only
  split
  · rename_i record request' b heq
    rw [heq] at hfailed
    cases hfailed
  · rename_i g request' b heq
    rw [heq] at hfailed hrequest ⊢
    cases hfailed
    rw [show request' = request from hrequest]

/-- **A failed route leaves no trace in the load.**  Whatever the session, the request, the route and
the reason for the failure, as long as the chooser itself neither opens nor closes connections, and the
rules are functions of the request: the request stays as it was, and a step that makes it answers the
failure with the old target and holds what was held before. Every instance has as many open connections as
before, and no underflow is counted. An instance that was known is known and has its health, unless the
chooser marks or forgets it; one that has become known has no open connection, and unknown health unless
the chooser marks it. -/
theorem failed_route_leaves [Url.DomainNames] (s : Session) (bound : BoundRoute) (request : Request)
    (f : Failure) (hquiet : bound.chooser.rule.DoesOnly RegistryAction.IsQuiet s.balancer.script)
    (hreads : s.balancer.rules.ReadsRequest bound.policy.ruleSet)
    (hfailed : (s.balancer.route request bound).1 = .error f) :
    let before := s.balancer
    let after := (s.balancer.route request bound).2.2
    (s.balancer.route request bound).2.1 = request ∧
      (∀ name text heldName, s.prepare name text = .ok (bound, request) →
        s.route name text heldName =
          (.ok (.error f, request.target), { s with balancer := after })) ∧
      (∀ x, after.registry.connections x = before.registry.connections x) ∧
      (∀ x e, before.registry.known? x = some e →
        bound.chooser.rule.DoesOnly (RegistryAction.Spares x) before.script →
        ∃ e', after.registry.known? x = some e' ∧ e'.health = e.health ∧
          e'.connections = e.connections) ∧
      (∀ x e, before.registry.known? x = none → after.registry.known? x = some e →
        e.connections = 0 ∧
          (bound.chooser.rule.DoesOnly (RegistryAction.NeverMarks x) before.script →
            e.health = .unknown)) ∧
      after.sink.countersOf Metric.counterUnderflow =
        before.sink.countersOf Metric.counterUnderflow ∧
      ∀ filter, after.sink.total Metric.counterUnderflow filter =
        before.sink.total Metric.counterUnderflow filter := by
  intro before after
  have hpermits : Balancer.Permits RegistryAction.IsQuiet before bound :=
    ⟨fun _ _ => trivial, fun _ => trivial, fun _ _ => trivial, hquiet⟩
  obtain ⟨hconnections, hunderflow⟩ := Balancer.counts_route_of_error hpermits hfailed
  refine ⟨Balancer.request_route_of_error hfailed, ?_, hconnections, ?_, ?_, hunderflow, ?_⟩
  · intro name text heldName hprepared
    exact route_of_error hfailed hprepared heldName
  · intro x e hknown hspared
    have hspares : Balancer.Permits (RegistryAction.Spares x) before bound := by
      refine ⟨fun _ _ => trivial, fun _ => trivial, ?_, hspared⟩
      rw [RuleBook.readsRequest_iff.mp hreads]
      intro id hid
      cases hid
    obtain ⟨e', he', hhealth⟩ := (Balancer.registry_route_of_error hspares (fun _ => trivial)
      (fun _ => trivial) hfailed).health hknown
    refine ⟨e', he', hhealth, ?_⟩
    rw [← Registry.connections_of_known? he', ← Registry.connections_of_known? hknown]
    exact hconnections x
  · intro x e hunknown hknown
    refine ⟨?_, ?_⟩
    · rw [← Registry.connections_of_known? hknown, hconnections x,
        Registry.connections_of_unknown hunknown]
    · intro hmarks
      have hcovers : Balancer.Permits (RegistryAction.NeverMarks x) before bound :=
        ⟨fun _ _ => trivial, fun _ => trivial, fun _ _ => trivial, hmarks⟩
      exact (Balancer.registry_route_of_error hcovers (fun _ => trivial) (fun _ => trivial)
        hfailed).health_of_unknown hunknown hknown
  · intro filter
    exact Sink.total_congr hunderflow filter

/-- The address of the instance is of no use, which is found out with the connection open. A connection
to it is held, and it has been found alive. The rule that marks it applies. -/
theorem failed_route_leaves_misaddressed :
    let record := (Instance.plain "a" "s" "no host" 80).withMetadata "canary" "beta"
    let rules := RuleBook.empty.add "canary" ⟨"beta", .pathStart "/v2"⟩
    let setup : Setup := ⟨.memory .empty, true, .withDefaults, [], rules, [record], []⟩
    let policy : Policy := { Policy.default with ruleSet := "canary" }
    let s := SessionStep.runAll (setup.start ⟨id, id⟩).2
      [.bind "r" policy, .openConnection "h" record, .mark "a" .healthy]
    let bound : BoundRoute := ⟨policy, ⟨1, .ofAlgorithm .roundRobin⟩⟩
    let request := Request.ofTarget
      ⟨"lb", some ⟨"", "", .name "s", none⟩, .segments ["v2"], none, none⟩
    (s.balancer.route request bound).1 = .error (.invalidTarget "s" "a") ∧
      (s.balancer.route request bound).2.2.registry.connections "a" = 1 ∧
      ∃ e, (s.balancer.route request bound).2.2.registry.known? "a" = some e ∧
        e.health = .healthy ∧ e.connections = 1 := by
  intro record rules setup policy s bound request
  have hfailed : (s.balancer.route request bound).1 = .error (.invalidTarget "s" "a") := by
    decide +kernel
  have hreads : s.balancer.rules.ReadsRequest policy.ruleSet :=
    RuleBook.readsRequest_iff.mpr (by decide +kernel)
  obtain ⟨-, -, hconnections, hknown, -⟩ := failed_route_leaves s bound request _
    (PickRule.doesOnly_ofAlgorithm _ _ .roundRobin) hreads hfailed
  refine ⟨hfailed, (hconnections "a").trans (by decide +kernel), ?_⟩
  exact hknown "a" ⟨record, "s", 1, 1, .healthy⟩ (by decide +kernel)
    (PickRule.doesOnly_ofAlgorithm _ _ .roundRobin)

/-- A failed route changes what was known of an instance, though nothing opens or closes a connection: the
chooser marks it while it picks. -/
theorem failed_route_marks :
    let record := Instance.plain "a" "s" "10.0.0.1" 80
    let request := Request.ofTarget
      ⟨"lb", some ⟨"", "", .name "s", none⟩, .segments [""], none, none⟩
    let marking : List ScriptedPick := [⟨none, [.mark "a" .unhealthy]⟩]
    let choosers := Choosers.empty.install .roundRobin .scripted
    let setup : Setup := ⟨.memory .empty, true, choosers, [], .empty, [], []⟩
    let policy : Policy := { Policy.default with fallbackToAll := true, maxTries := 1 }
    let s := SessionStep.runAll (setup.start ⟨id, id⟩).2
      [.replace "s" [record], .follow marking, .bind "r" policy, .observe "s" [record],
        .mark "a" .healthy]
    (∀ p ∈ marking, ∀ a ∈ p.actions, a.IsQuiet) ∧
      (s.routes.get? "r").map (fun route =>
        (s.balancer.script, (s.balancer.registry.known? "a").map Entry.health,
          (s.balancer.route request route).1,
          ((s.balancer.route request route).2.2.registry.known? "a").map Entry.health)) =
        some (marking, some .healthy, .error (.retriesExhausted "s" 1 1), some .unhealthy) := by
  refine ⟨?_, rfl⟩
  intro p hp a ha
  rw [List.mem_singleton.mp hp] at ha
  rw [List.mem_singleton.mp ha]
  trivial

end Session

end LoadBalancer

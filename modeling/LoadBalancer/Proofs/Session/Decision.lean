import Mathlib
import LoadBalancer.Proofs.Balancer.Decision
import LoadBalancer.Proofs.Session.Move

/-!
# The outcome of selections in a session

When a route with the chooser of an algorithm selects an instance, and which failure it answers
otherwise: `Session.select_decides` has every outcome, with the exact condition under which it comes about.
-/

namespace LoadBalancer

namespace Session

/-- **Every outcome of a selection**, for a route of a session in use whose chooser has the rule of an
algorithm, and whose rules are functions of the request. Of the listed instances those are found that a
rule marks that applies, or all of them if no rule applies and the policy says so; an id may be listed
more than once. -/
theorem select_decides [Url.DomainNames] {s : Session} (hs : s.Reachable) {name : String}
    {route : BoundRoute} (hroute : s.routes.get? name = some route) {a : Algorithm}
    (hrule : route.chooser.rule = .ofAlgorithm a)
    (hreads : s.balancer.rules.ReadsRequest route.policy.ruleSet) (service : String) (request : Request) :
    let b := s.balancer
    let listed := b.listed service
    let names := Rule.applying request (b.rules.rules route.policy.ruleSet)
    let found := Balancer.eligible route.policy names listed
    let result := (b.select service request route).1
    let after := (b.select service request route).2
    (result = .error (.noInstances service) ↔ listed = []) ∧
      (result = .error (.noCandidates service) ↔ listed ≠ [] ∧
        (names = [] ∧ route.policy.fallbackToAll = false ∨ names ≠ [] ∧ found = [])) ∧
      (∀ attempts candidates,
        result = .error (.retriesExhausted service attempts candidates) ↔
          found ≠ [] ∧ (∀ i ∈ found, b.isReachable route.policy i.id = false) ∧
            attempts = route.policy.maxTries.toNat ∧
            candidates = (found.map Instance.id).dedup.length) ∧
      ((∃ record, result = .ok record) ↔
        ∃ i ∈ found, b.isReachable route.policy i.id = true) ∧
      (∀ record, result = .ok record →
        record.id ∈ found.map Instance.id ∧ b.isReachable route.policy record.id = true ∧
          latest listed record.id = some record ∧
          ∀ x, after.registry.connections x =
            b.registry.connections x + if record.id = x then 1 else 0) ∧
      ∀ f, result = .error f →
        ∀ x, after.registry.connections x = b.registry.connections x := by
  intro b listed names found result after
  have htries := Balancer.tries_of_valid (hs.within.routes name route hroute).1
  have hends : b.Ends service request route.policy result :=
    Balancer.ends_of_readsRequest hrule hs.sound hreads
  have hnames : (b.matched service request route.policy).1 = names :=
    congrArg Prod.fst (Balancer.matched_of_readsRequest hreads service request)
  have hfound : b.found service request route.policy = found := by
    rw [Balancer.found, hnames]
  refine ⟨hends.unlisted_iff, ?_, ?_, ?_, ?_, ?_⟩
  · rw [hends.unfound_iff, ← hfound, ← hnames]
    exact and_congr_right fun hlisted => Balancer.found_eq_nil_iff hlisted
  · intro attempts candidates
    rw [← htries, ← hfound]
    exact hends.unreachable_iff attempts candidates
  · rw [← hfound]
    exact hends.chosen_iff
  · intro record hresult
    have hchosen : b.Ends service request route.policy (.ok record) := hresult ▸ hends
    obtain ⟨hid, hreachable, hlatest⟩ := hchosen.of_ok
    rw [hfound] at hid
    exact ⟨hid, hreachable, hlatest, Balancer.connections_select_of_ok hrule hresult⟩
  · intro f hresult
    exact Balancer.connections_select_of_error hrule hresult

/-- A rule asks for a header. Of the instances that it marks, one is listed twice and has never been seen,
another one is down, and so is the only one of a second service. -/
theorem select_decides_listed :
    let marked := fun id service host =>
      (Instance.plain id service host 80).withMetadata "canary" "beta"
    let down := marked "c" "users" "10.0.0.3"
    let users := [marked "a" "users" "10.0.0.1", Instance.plain "b" "users" "10.0.0.2" 80, down,
      marked "a" "users" "10.0.0.4"]
    let orders := [marked "d" "orders" "10.0.0.5", marked "d" "orders" "10.0.0.6"]
    let rules := RuleBook.empty.add "canary" ⟨"beta", .header "X-Canary" "on"⟩
    let setup : Setup := ⟨.memory .empty, true, .withDefaults, [], rules, [], []⟩
    let policy : Policy := { Policy.default with ruleSet := "canary", maxTries := 2 }
    let probes : List SessionStep := [.observe "users" [down], .observe "orders" orders,
      .mark "c" .unhealthy, .mark "d" .unhealthy]
    let unprobed := SessionStep.runAll (setup.start ⟨id, id⟩).2
      [.replace "users" users, .replace "orders" orders, .bind "r" policy]
    let s := SessionStep.runAll unprobed probes
    let route : BoundRoute := ⟨policy, ⟨1, .ofAlgorithm .roundRobin⟩⟩
    let request := Request.ofTarget ⟨"lb", none, .bare "", none, none⟩
    let canary := { request with headers := ⟨[("x-canary", "On")]⟩ }
    let answer := fun service request => (s.balancer.select service request route).1
    s.routes.get? "r" = some route ∧
      answer "nowhere" canary = .error (.noInstances "nowhere") ∧
      answer "users" request = .error (.noCandidates "users") ∧
      answer "orders" canary = .error (.retriesExhausted "orders" 2 1) ∧
      answer "users" canary = .ok (marked "a" "users" "10.0.0.4") := by
  intro marked down users orders rules setup policy probes unprobed s route request canary answer
  have hbegun : unprobed.Reachable := ⟨setup, ⟨id, id⟩, _, rfl⟩
  have hs : s.Reachable := hbegun.runAll probes
  have hbound : unprobed.routes.get? "r" = some route := by
    simp only [unprobed, setup, policy, route]
    rfl
  -- probing binds no route
  have hsame : ∀ t : Session, (SessionStep.runAll t probes).routes = t.routes := fun _ => rfl
  have hroute : s.routes.get? "r" = some route :=
    (congrArg (Table.get? · "r") (hsame unprobed)).trans hbound
  have hreads : s.balancer.rules.ReadsRequest policy.ruleSet :=
    RuleBook.readsRequest_iff.mpr (by decide +kernel)
  have hdecides := select_decides hs hroute (a := .roundRobin) rfl hreads
  refine ⟨hroute, ?_, ?_, ?_, ?_⟩
  · exact (hdecides "nowhere" canary).1.mpr (by decide +kernel)
  · exact (hdecides "users" request).2.1.mpr (by decide +kernel)
  · exact ((hdecides "orders" canary).2.2.1 2 1).mpr (by decide +kernel)
  · obtain ⟨-, -, -, hsome, hchosen, -⟩ := hdecides "users" canary
    obtain ⟨record, hrecord⟩ := hsome.mpr (by decide +kernel)
    obtain ⟨hid, hreachable, hlatest, -⟩ := hchosen record hrecord
    -- of the ids that are found, one may get requests
    have honly : ∀ x ∈ (Balancer.eligible policy
        (Rule.applying canary (s.balancer.rules.rules policy.ruleSet)) (s.balancer.listed "users")).map
          Instance.id, s.balancer.isReachable policy x = true →
        latest (s.balancer.listed "users") x = some (marked "a" "users" "10.0.0.4") := by
      decide +kernel
    have hlast := honly record.id hid hreachable
    rw [hlatest] at hlast
    exact hrecord.trans (congrArg Except.ok (Option.some.inj hlast))

end Session

end LoadBalancer

import Mathlib
import LoadBalancer.Proofs.Balancer.Twins
import LoadBalancer.Proofs.Metrics.Anonymous

/-!
# Plain algorithms

Weights and times are not applied yet. By the plain algorithm in the place of one that goes by weights or by
time, the same instances are chosen, as long as one cursor does not have to do for two.

* `Algorithm.plain`, `Policy.plain`, `BoundRoute.plain` – the plain algorithm of each, and what is the same
  with it;
* `Chooser.ofAlgorithm` – the default chooser of an algorithm;
* `Chooser.Follows` – a chooser picks for a service what another one picks in another balancer;
* `Balancer.Plainer` – a balancer is another one that has chosen by the plain algorithms: nothing but
  cursors and names in measurements may differ;
* `Balancer.Plainer.pick`, `Balancer.Plainer.choose` – **choosing**, one rule at a time;
* `Balancer.Plainer.select`, `Balancer.Plainer.route` – **selecting and routing**.
-/

namespace LoadBalancer

/-! ### Plain algorithms -/

/-- The algorithm without weights and times, but for what is chosen at random. -/
def Algorithm.plain : Algorithm → Algorithm
  | .weightedRoundRobin => .roundRobin
  | .leastTime => .leastConnections
  | .weightedLeastConnections => .leastConnections
  | .weightedLeastTime => .leastConnections
  | a => a

/-- The policy with the plain algorithm. -/
def Policy.plain (p : Policy) : Policy := { p with algorithm := p.algorithm.plain }

theorem PickRule.ofAlgorithm_plain (a : Algorithm) : ofAlgorithm a.plain = ofAlgorithm a := by
  cases a <;> rfl

namespace Chooser

/-- The default chooser of an algorithm. -/
def ofAlgorithm (a : Algorithm) : Chooser := ⟨a.rank, .ofAlgorithm a⟩

/-- Two choosers pick alike for a service, in two balancers where the plain algorithms stand for others in the
second one. Those that pick in turn have one cursor; for a service with weighted turns, the one has the
weighted cursor and the other the plain one. -/
structure Follows (weighted : String → Bool) (service : String) (c c' : Chooser) : Prop where
  rule : c'.rule = c.rule
  serial : c.rule = .cyclic →
    weighted service = false ∧ c'.serial = c.serial ∨
      weighted service = true ∧ c.serial = Algorithm.weightedRoundRobin.rank ∧
        c'.serial = Algorithm.roundRobin.rank

variable {weighted : String → Bool} {service : String} {a : Algorithm}

theorem cyclic_ofAlgorithm (h : (ofAlgorithm a).rule = .cyclic) :
    a = .roundRobin ∨ a = .weightedRoundRobin := by
  cases a with
  | roundRobin => exact .inl rfl
  | weightedRoundRobin => exact .inr rfl
  | _ => cases h

/-- The chooser of an algorithm is followed by the one of the plain algorithm. -/
theorem follows_plain (hplain : a = .roundRobin → weighted service = false)
    (hweighted : a = .weightedRoundRobin → weighted service = true) :
    Follows weighted service (ofAlgorithm a) (ofAlgorithm a.plain) where
  rule := PickRule.ofAlgorithm_plain a
  serial := by
    intro hcyclic
    rcases cyclic_ofAlgorithm hcyclic with rfl | rfl
    · exact .inl ⟨hplain rfl, rfl⟩
    · exact .inr ⟨hweighted rfl, rfl, rfl⟩

/-- A chooser of an algorithm is followed by itself, unless it picks in turn where turns are weighted. -/
theorem follows_self (h : a = .roundRobin ∨ a = .weightedRoundRobin → weighted service = false) :
    Follows weighted service (ofAlgorithm a) (ofAlgorithm a) where
  rule := rfl
  serial := fun hcyclic => .inl ⟨h (cyclic_ofAlgorithm hcyclic), rfl⟩

/-- A chooser that does not pick in turn is followed by itself. -/
theorem follows_of_ne {c : Chooser} (h : c.rule ≠ .cyclic) : Follows weighted service c c where
  rule := rfl
  serial := fun hcyclic => absurd hcyclic h

end Chooser

/-- The route with the plain algorithm, and with its default chooser. -/
def BoundRoute.plain (r : BoundRoute) : BoundRoute := ⟨r.policy.plain, .ofAlgorithm r.algorithm.plain⟩

namespace Balancer

/-- The second balancer is the first one, but for cursors and for names in measurements. For a service with
weighted turns, its plain cursor stands where the weighted cursor of the first one stands; for any other
service, all cursors stand where they do. -/
structure Plainer (weighted : String → Bool) (b b' : Balancer) : Prop where
  rest : b' = { b with cursors := b'.cursors, sink := b'.sink }
  sink : Sink.Alike b.sink b'.sink
  cursors : ∀ service, weighted service = false → ∀ serial,
    b'.cursor serial service = b.cursor serial service
  weightedCursors : ∀ service, weighted service = true →
    b'.cursor Algorithm.roundRobin.rank service = b.cursor Algorithm.weightedRoundRobin.rank service
  choosers : ∀ a, b.choosers.resolve a = .ok (.ofAlgorithm a)

variable {weighted : String → Bool} {b b' : Balancer}

namespace Plainer

variable (h : Plainer weighted b b')

include h

/-! ### What is the same -/

theorem registry : b'.registry = b.registry := by
  rw [h.rest]

theorem measured {ms ms' : List Measurement}
    (hms : ms'.map Measurement.anonymous = ms.map Measurement.anonymous) :
    Plainer weighted { b with sink := b.sink.measure ms } { b' with sink := b'.sink.measure ms' } :=
  { h with
    rest := congrArg (fun t : Balancer => { t with sink := b'.sink.measure ms' }) h.rest
    sink := h.sink.measure hms }

/-- Both are told of the same measurements. -/
theorem told (ms : List Measurement) :
    Plainer weighted { b with sink := b.sink.measure ms } { b' with sink := b'.sink.measure ms } :=
  h.measured rfl

theorem onRegistry (r : Registry) :
    Plainer weighted { b with registry := r } { b' with registry := r } :=
  { h with rest := congrArg (fun t : Balancer => { t with registry := r }) h.rest }

/-- Time passes. -/
theorem later (n : Nat) :
    Plainer weighted { b with clock := b.clock + n } { b' with clock := b'.clock + n } :=
  { h with rest := congrArg (fun t : Balancer => { t with clock := t.clock + n }) h.rest }

theorem sleep (d : Duration) : Plainer weighted (b.sleep d) (b'.sleep d) := by
  unfold Balancer.sleep
  exact h.later _

/-! ### Connections -/

theorem act (actions : List RegistryAction) : Plainer weighted (b.act actions) (b'.act actions) := by
  have hact : ∀ t : Balancer, t.act actions =
      { t with
        registry := (RegistryAction.runAll t.registry actions).1
        sink := t.sink.measure
          (if t.reportsUnderflow then underflows (RegistryAction.runAll t.registry actions).2 else []) } := by
    intro t
    rw [act_eq, countUnderflows_eq_measure]
    split <;> rfl
  have hreports : b'.reportsUnderflow = b.reportsUnderflow := by rw [h.rest]
  rw [hact b, hact b', h.registry]
  refine (h.onRegistry (RegistryAction.runAll b.registry actions).1).measured ?_
  rw [hreports]

theorem connect (record : Instance) :
    Twin (Plainer weighted) (b.connect record) (b'.connect record) := by
  unfold Balancer.connect
  rw [h.registry]
  exact .intro _ (h.onRegistry (b.registry.connect record).2)

theorem disconnect (id : String) :
    Twin (Plainer weighted) (b.disconnect id) (b'.disconnect id) := by
  have hafter := h.act [.disconnect id]
  rw [act_disconnect, act_disconnect] at hafter
  refine ⟨?_, hafter⟩
  rw [answer_disconnect, answer_disconnect, hafter.registry]

/-! ### Picks -/

variable {service : String} {c c' : Chooser}

omit h in
/-- The cursors of two balancers after one of each has gone on. -/
theorem cursor_turn (t : Balancer) (serial n : Nat) (other : Nat) (otherService : String) :
    (t.turn serial service n).2.cursor other otherService =
      if (serial, service) = (other, otherService) then t.cursor serial service + 1
      else t.cursor other otherService := by
  simp only [turn, cursor, Table.get?_put]
  split <;> rfl

theorem turn (hrule : c.rule = .cyclic) (hc : Chooser.Follows weighted service c c') (n : Nat) :
    Twin (Plainer weighted) (b.turn c.serial service n) (b'.turn c'.serial service n) := by
  have hcursor : b'.cursor c'.serial service = b.cursor c.serial service := by
    rcases hc.serial hrule with ⟨hplain, hserial⟩ | ⟨hweighted, hserial, hserial'⟩
    · rw [hserial, h.cursors service hplain]
    · rw [hserial, hserial', h.weightedCursors service hweighted]
  refine ⟨?_, { h with rest := ?_, cursors := ?_, weightedCursors := ?_ }⟩
  · simp only [Balancer.turn, hcursor]
  · exact congrArg (fun t : Balancer => { t with cursors := (b'.turn c'.serial service n).2.cursors }) h.rest
  · intro other hother serial
    rw [cursor_turn, cursor_turn, hcursor, h.cursors other hother]
    rcases hc.serial hrule with ⟨hplain, hserial⟩ | ⟨hweighted, -, -⟩
    · rw [hserial]
    · have hne : service ≠ other := by
        rintro rfl
        rw [hweighted] at hother
        cases hother
      rw [if_neg (fun heq => hne (Prod.mk.inj heq).2), if_neg (fun heq => hne (Prod.mk.inj heq).2)]
  · intro other hother
    rw [cursor_turn, cursor_turn, hcursor, h.weightedCursors other hother]
    rcases hc.serial hrule with ⟨hplain, -⟩ | ⟨-, hserial, hserial'⟩
    · have hne : service ≠ other := by
        rintro rfl
        rw [hplain] at hother
        cases hother
      rw [if_neg (fun heq => hne (Prod.mk.inj heq).2), if_neg (fun heq => hne (Prod.mk.inj heq).2)]
    · simp only [hserial, hserial', Prod.mk.injEq, true_and]

theorem roll (n : Nat) : Twin (Plainer weighted) (b.roll n) (b'.roll n) := by
  refine ⟨?_, { h with
    rest := congrArg (fun t : Balancer => { t with rolled := t.rolled + 1 }) h.rest }⟩
  rw [h.rest]
  rfl

theorem follow (pool : List Status) : Twin (Plainer weighted) (b.follow pool) (b'.follow pool) := by
  have hscript : b'.script = b.script := by rw [h.rest]
  have hseen : b'.seen = b.seen := by rw [h.rest]
  have hrest := congrArg
    (fun t : Balancer => { t with script := b.script.tail, seen := pool :: b.seen }) h.rest
  have hread : Plainer weighted { b with script := b.script.tail, seen := pool :: b.seen }
      { b' with script := b.script.tail, seen := pool :: b.seen } := { h with rest := hrest }
  refine ⟨?_, ?_⟩
  · unfold Balancer.follow
    rw [hscript]
  · rw [balancer_follow, balancer_follow, hscript, hseen]
    exact hread.act _

/-- **A pick**, one rule at a time. -/
theorem pick (hc : Chooser.Follows weighted service c c') (request : Request) (pool : List Status) :
    Twin (Plainer weighted) (Balancer.pick c service request pool b)
      (Balancer.pick c' service request pool b') := by
  unfold Balancer.pick
  rw [hc.rule]
  cases hrule : c.rule with
  | random => exact (h.roll pool.length).map some
  | cyclic => exact (h.turn hrule hc pool.length).map some
  | scripted => exact h.follow pool
  | _ => exact .intro _ h

/-! ### Choosing -/

variable (hc : Chooser.Follows weighted service c c') (policy : Policy) (a : Algorithm)
variable (request : Request)

include hc

theorem pickFrom (lenient : Bool) (pool : List Status) :
    Twin (Plainer weighted)
      (LoadBalancer.pickFrom (surroundings c service policy request) lenient pool b)
      (LoadBalancer.pickFrom (surroundings c' service { policy with algorithm := a } request) lenient
        pool b') := by
  obtain ⟨hindex, hafter⟩ := h.pick hc request pool
  unfold LoadBalancer.pickFrom
  split
  · exact .intro none h
  · refine ⟨?_, hafter⟩
    simp only [surroundings, hindex, hafter.registry]

theorem attempt (d : Demand) (tries : Nat) :
    Twin (Plainer weighted) (LoadBalancer.attempt (surroundings c service policy request) d tries b)
      (LoadBalancer.attempt (surroundings c' service { policy with algorithm := a } request) d tries
        b') := by
  refine .attempt ?_ ?_ ?_ tries h
  · intro t t' ht
    exact congrArg d.available ht.registry
  · intro t t' ht
    have hpool := congrArg d.pool ht.registry
    simp only [surroundings] at hpool ⊢
    rw [hpool]
    exact ht.pickFrom hc policy a request d.lenient (d.pool t.registry)
  · intro t t' ht
    exact ht.sleep policy.backoff

omit h hc in
/-- Only the name of the algorithm is another one. -/
theorem anonymous_exhaustion (result : Except Failure Instance) :
    (exhaustion service { policy with algorithm := a } result).map Measurement.anonymous =
      (exhaustion service policy result).map Measurement.anonymous := by
  cases result with
  | ok record => rfl
  | error f => cases f <;> rfl

/-- What is measured after the attempts names the algorithm of the policy. -/
theorem chooseByAttempts (candidates : List Status) :
    Twin (Plainer weighted) (b.chooseByAttempts c service policy request candidates)
      (b'.chooseByAttempts c' service { policy with algorithm := a } request candidates) := by
  obtain ⟨houtcome, hended⟩ :=
    h.attempt hc policy a request ⟨service, policy.lenient, candidates⟩ (tries policy)
  have hanswer := congrArg (answerOf service policy) houtcome
  rw [chooseByAttempts_eq, chooseByAttempts_eq]
  refine ⟨hanswer, hended.measured ?_⟩
  refine Eq.trans ?_ (anonymous_exhaustion policy a _)
  exact congrArg (fun result =>
    (exhaustion service { policy with algorithm := a } result).map Measurement.anonymous) hanswer

omit hc in
theorem consult (advise : Nat → Request → List Status → Registry → Advice) (candidates : List Status) :
    Twin (Plainer weighted) (b.consult advise request candidates)
      (b'.consult advise request candidates) := by
  have hasked : Plainer weighted { b with asked := b.asked + 1 } { b' with asked := b'.asked + 1 } :=
    { h with rest := congrArg (fun t : Balancer => { t with asked := t.asked + 1 }) h.rest }
  have hadvice : advise b'.asked request candidates b'.registry =
      advise b.asked request candidates b.registry := by rw [h.rest]
  unfold Balancer.consult
  rw [hadvice]
  exact .intro _ (hasked.act _)

/-- **Choosing**, one rule at a time. -/
theorem choose (candidates : List Status) :
    Twin (Plainer weighted) (b.choose c service policy request candidates)
      (b'.choose c' service { policy with algorithm := a } request candidates) := by
  have hattempts := h.chooseByAttempts hc policy a request candidates
  unfold Balancer.choose
  rw [hc.rule]
  cases c.rule with
  | never => exact .intro _ h
  | outside advise => exact h.consult request advise candidates
  | _ => exact hattempts

end Plainer

/-! ### Selecting and routing -/

section Selecting

theorem anonymous_outcomes (a a' : Algorithm) (service : String) (nanos : Nat)
    (result : Except Failure Instance) :
    (outcomes a' service nanos result).map Measurement.anonymous =
      (outcomes a service nanos result).map Measurement.anonymous := by
  cases result <;> rfl

variable {bound : BoundRoute} {service : String} (request : Request)

namespace Plainer

variable (h : Plainer weighted b b')
variable (hc : Chooser.Follows weighted service bound.chooser bound.plain.chooser)

include h

theorem listed (service : String) : b'.listed service = b.listed service := by
  rw [h.rest]
  rfl

theorem matched (bound : BoundRoute) (service : String) :
    b'.matched service request bound.plain.policy = b.matched service request bound.policy := by
  rw [h.rest]
  rfl

theorem found (bound : BoundRoute) (service : String) :
    b'.found service request bound.plain.policy = b.found service request bound.policy := by
  rw [h.rest]
  rfl

theorem offered (bound : BoundRoute) (service : String) :
    b'.offered service request bound.plain.policy = b.offered service request bound.policy := by
  rw [h.rest]
  rfl

theorem lapse : Twin (Plainer weighted) b.lapse b'.lapse := by
  refine ⟨?_, { h with rest := congrArg (fun t : Balancer => { t with lapsed := t.lapsed + 1 }) h.rest }⟩
  rw [h.rest]
  rfl

include hc

/-- **A decision**, stage by stage. -/
theorem decide :
    let decided := b.decide service request bound
    let decided' := b'.decide service request bound.plain
    decided'.1 = decided.1 ∧ decided'.2.1 = decided.2.1 ∧ Plainer weighted decided.2.2 decided'.2.2 := by
  intro decided decided'
  by_cases hlisted : b.listed service = []
  · rw [show decided = _ from decide_of_unlisted hlisted,
      show decided' = _ from decide_of_unlisted ((h.listed service).trans hlisted)]
    exact ⟨rfl, rfl, h.told [.count Metric.noInstances [("service", service)] 1]⟩
  · have hlisted' : b'.listed service ≠ [] := by rwa [h.listed]
    by_cases hfound : b.found service request bound.policy = []
    · rw [show decided = _ from decide_of_unfound hlisted hfound,
        show decided' = _ from decide_of_unfound hlisted' ((h.found request bound service).trans hfound)]
      refine ⟨rfl, rfl, ?_⟩
      rw [h.matched request bound service]
      exact (h.onRegistry (b.matched service request bound.policy).2).told
        [.count Metric.noCandidates [("service", service)] 1]
    · have hfound' : b'.found service request bound.plain.policy ≠ [] := by rwa [h.found]
      rw [show decided = _ from decide_of_found hfound, show decided' = _ from decide_of_found hfound']
      have hpicked : Twin (Plainer weighted) (b.picked service request bound)
          (b'.picked service request bound.plain) := by
        unfold picked
        rw [h.offered request bound service]
        exact (h.onRegistry (b.offered service request bound.policy).2).choose hc bound.policy
          bound.algorithm.plain request (b.offered service request bound.policy).1
      obtain ⟨hnanos, hafter⟩ := hpicked.2.lapse
      exact ⟨hpicked.1, hnanos, hafter⟩

/-- **Selecting.** -/
theorem select :
    Twin (Plainer weighted) (b.select service request bound) (b'.select service request bound.plain) := by
  obtain ⟨hresult, hnanos, hdecided⟩ := h.decide request hc
  rw [select_eq, select_eq]
  dsimp only at hresult hnanos hdecided ⊢
  rw [hresult, hnanos]
  have hopened : Plainer weighted
      (opened (b.decide service request bound).1 (b.decide service request bound).2.2)
      (opened (b.decide service request bound).1 (b'.decide service request bound.plain).2.2) := by
    cases (b.decide service request bound).1 with
    | error f => exact hdecided
    | ok record => exact (hdecided.connect record).2
  have hmeasured := hopened.measured
    (anonymous_outcomes bound.algorithm bound.algorithm.plain service (b.decide service request bound).2.1
      (b.decide service request bound).1)
  rw [sink_opened, sink_opened] at hmeasured
  exact .intro _ hmeasured

end Plainer

end Selecting

namespace Plainer

variable {bound : BoundRoute} {request : Request} (h : Plainer weighted b b')

include h

theorem countFailure (f : Failure) (a a' : Algorithm) :
    Plainer weighted (b.countFailure f a) (b'.countFailure f a') := by
  have hnames : [failed a' f].map Measurement.anonymous = [failed a f].map Measurement.anonymous := rfl
  exact h.measured hnames

theorem forwarded [Url.DomainNames] (result : Except Failure Instance) (service : String) :
    Twin (Plainer weighted) (Balancer.forwarded request bound service result b)
      (Balancer.forwarded request bound.plain service result b') := by
  cases result with
  | error f => exact .intro _ h
  | ok record =>
      unfold Balancer.forwarded
      dsimp only
      split
      · exact .intro _ h
      · exact .intro _ ((h.countFailure _ _ _).disconnect record.id).2

/-- **Routing.** -/
theorem route [Url.DomainNames] (hc : ∀ service, request.service? = some service →
      Chooser.Follows weighted service bound.chooser bound.plain.chooser) :
    let answer := fun (t : Balancer) (r : BoundRoute) =>
      (((t.route request r).1, (t.route request r).2.1), (t.route request r).2.2)
    Twin (Plainer weighted) (answer b bound) (answer b' bound.plain) := by
  intro answer
  cases hservice : request.service? with
  | none =>
      have hunrouted : ∀ (t : Balancer) (r : BoundRoute), t.route request r =
          (.error (.noInstances ""), request, t.countFailure (.noInstances "") r.algorithm) := by
        intro t r
        unfold Balancer.route
        rw [hservice]
      dsimp only [answer]
      rw [hunrouted, hunrouted]
      exact .intro _ (h.countFailure _ _ _)
  | some service =>
      obtain ⟨hresult, hselected⟩ := h.select request (hc service hservice)
      dsimp only [answer]
      rw [route_eq hservice, route_eq hservice, hresult]
      exact hselected.forwarded _ service

end Plainer

end Balancer

end LoadBalancer

import Mathlib
import LoadBalancer.Proofs.Balancer.Composition
import LoadBalancer.Proofs.Metrics.Sides

/-!
# Two sides of a balancer

What one side does with a balancer: to us it is nothing, if it is the other side.

* `Balancer.Apart` – registry and service list keep to the sides;
* `Balancer.Agree` – two balancers are the same to us;
* `Balancer.Sided` – a balancer comes out of another by what one side does;
* `Algorithm.rolls` – the algorithm chooses at random;
* `Request.serviceText` – the service that a request is for;
* `Balancer.sided_choose`, `sided_decide`, `sided_select`, `sided_route` – **choosing, selecting and routing
  for a service** are done by the side of the service.
-/

namespace LoadBalancer

variable {side : Side} {ours : Bool}

/-! ### Measurements of the other side -/

namespace Side

theorem unread_underflows {ids : List String} (h : ∀ id ∈ ids, side.ids id = false) :
    ∀ m ∈ Balancer.underflows ids, side.Unread m := by
  intro m hm
  obtain ⟨id, hid, rfl⟩ := List.mem_map.mp hm
  refine unread_count _ _ ?_
  simpa [tags] using h id hid

section Service

variable {service : String} (h : side.services service = false)

include h

theorem unread_exhaustion (policy : Policy) (result : Except Failure Instance) :
    ∀ m ∈ Balancer.exhaustion service policy result, side.Unread m := by
  intro m hm
  unfold Balancer.exhaustion at hm
  split at hm
  · rw [List.mem_singleton.mp hm]
    refine unread_count _ _ ?_
    simp [tags, h]
  · cases hm

theorem unread_outcomes (a : Algorithm) (nanos : Nat) {result : Except Failure Instance}
    (hfailed : ∀ f, result = .error f → f.service = service) :
    ∀ m ∈ Balancer.outcomes a service nanos result, side.Unread m := by
  intro m hm
  rcases List.mem_pair.mp hm with rfl | rfl
  · exact unread_time _ _ _
  · cases result with
    | ok record =>
        refine unread_count _ _ ?_
        simp [tags, h]
    | error f =>
        refine unread_count _ _ ?_
        simp [tags, hfailed f rfl, h]

end Service

end Side

/-- The algorithm chooses at random. -/
def Algorithm.rolls : Algorithm → Bool
  | .random => true
  | .weightedRandom => true
  | _ => false

/-- The service that a request is for. Without one, failures name the empty text. -/
def Request.serviceText (r : Request) : String := r.service?.getD ""

namespace Balancer

/-! ### The sides are apart -/

/-- Registry and service list keep to the sides. -/
structure Apart (side : Side) (b : Balancer) : Prop where
  registry : Registry.Apart side b.registry
  lists : ∀ service, ∀ record ∈ b.discovery.list service,
    side.has (side.services service) record = true

/-! ### The same to us -/

/-- The second balancer is the same to us as the first. Clock, script and random numbers do not matter. -/
structure Agree (side : Side) (b b' : Balancer) : Prop where
  registry : Registry.Agree side b.registry b'.registry
  lists : ∀ service, side.services service = true → b'.discovery.list service = b.discovery.list service
  failing : b'.discovery.failing = b.discovery.failing
  rules : b'.rules = b.rules
  choosers : b'.choosers = b.choosers
  cursors : ∀ serial service, side.services service = true →
    b'.cursor serial service = b.cursor serial service
  reports : b'.reportsUnderflow = b.reportsUnderflow
  sink : Sink.Agree side b.sink b'.sink

namespace Agree

variable {b b' b'' : Balancer}

theorem refl (b : Balancer) : Agree side b b :=
  ⟨.refl _, fun _ _ => rfl, rfl, rfl, rfl, fun _ _ _ => rfl, rfl, .refl _⟩

theorem symm (h : Agree side b b') : Agree side b' b where
  registry := h.registry.symm
  lists := fun service hservice => (h.lists service hservice).symm
  failing := h.failing.symm
  rules := h.rules.symm
  choosers := h.choosers.symm
  cursors := fun serial service hservice => (h.cursors serial service hservice).symm
  reports := h.reports.symm
  sink := h.sink.symm

theorem trans (h : Agree side b b') (h' : Agree side b' b'') : Agree side b b'' where
  registry := h.registry.trans h'.registry
  lists := fun service hservice => (h'.lists service hservice).trans (h.lists service hservice)
  failing := h'.failing.trans h.failing
  rules := h'.rules.trans h.rules
  choosers := h'.choosers.trans h.choosers
  cursors := fun serial service hservice =>
    (h'.cursors serial service hservice).trans (h.cursors serial service hservice)
  reports := h'.reports.trans h.reports
  sink := h.sink.trans h'.sink

end Agree

/-! ### What one side does -/

/-- The second balancer comes out of the first by what one side does. The sides stay apart, and what the
other side does is nothing to us. -/
structure Sided (side : Side) (ours : Bool) (b b' : Balancer) : Prop where
  apart : b'.Apart side
  agree : ours = false → Agree side b b'
  rules : b'.rules = b.rules
  grows : b.registry.changes.sent <:+ b'.registry.changes.sent

namespace Sided

variable {b b' b'' : Balancer}

theorem trans (h : Sided side ours b b') (h' : Sided side ours b' b'') : Sided side ours b b'' where
  apart := h'.apart
  agree := fun hours => (h.agree hours).trans (h'.agree hours)
  rules := h'.rules.trans h.rules
  grows := h.grows.trans h'.grows

variable (hb : b.Apart side)

include hb

theorem refl : Sided side ours b b := ⟨hb, fun _ => .refl b, rfl, List.suffix_refl _⟩

theorem of_registry {r : Registry}
    (h : Registry.Leads (RegistryAction.On side ours) b.registry r) :
    Sided side ours b { b with registry := r } where
  apart := ⟨h.apart hb.registry, hb.lists⟩
  agree := by
    rintro rfl
    exact { Agree.refl b with registry := h.agree hb.registry }
  rules := rfl
  grows := h.grows

theorem of_sink (ms : List Measurement) (h : ours = false → ∀ m ∈ ms, side.Unread m) :
    Sided side ours b { b with sink := b.sink.measure ms } where
  apart := ⟨hb.registry, hb.lists⟩
  agree := fun hours => { Agree.refl b with sink := Sink.agree_of_unread b.sink (h hours) }
  rules := rfl
  grows := List.suffix_refl _

theorem count {name : String} {tags : Tags} {n : Nat}
    (h : ours = false → ∀ tag ∈ tags, side.tags tag = false) :
    Sided side ours b (b.count name tags n) := by
  refine of_sink hb [.count name tags n] ?_
  intro hours m hm
  rw [List.mem_singleton.mp hm]
  exact Side.unread_count name n (h hours)

/-- Neither clock nor script nor the world is looked at. -/
theorem of_aside (script : List ScriptedPick) (seen : List (List Status)) (clock rolled lapsed : Nat) :
    Sided side ours b { b with script, seen, clock, rolled, lapsed } :=
  ⟨⟨hb.registry, hb.lists⟩, fun _ => { Agree.refl b with }, rfl, List.suffix_refl _⟩

theorem turn {service : String} (h : side.services service = ours) (serial n : Nat) :
    Sided side ours b (b.turn serial service n).2 where
  apart := ⟨hb.registry, hb.lists⟩
  agree := by
    intro hours
    refine { Agree.refl b with cursors := ?_ }
    intro other otherService hother
    have hne : ¬(serial, service) = (other, otherService) := by
      intro heq
      rw [(Prod.mk.inj heq).2, hother, hours] at h
      cases h
    simp only [Balancer.turn, cursor, Table.get?_put, if_neg hne]
  rules := rfl
  grows := List.suffix_refl _

theorem connect {record : Instance} (h : side.has ours record = true) :
    Sided side ours b (b.connect record).2 :=
  of_registry hb (.single (a := .connect record) h)

theorem disconnect {id : String} (h : side.ids id = ours) :
    Sided side ours b (b.disconnect id).2 := by
  have hdone : Sided side ours b { b with registry := (RegistryAction.run b.registry (.disconnect id)).1 } :=
    of_registry hb (.single (a := .disconnect id) h)
  rw [RegistryAction.run_disconnect] at hdone
  rw [disconnect_eq]
  refine hdone.trans (of_sink hdone.apart _ ?_)
  intro hours m hm
  unfold missed at hm
  split at hm
  · refine Side.unread_underflows ?_ m hm
    intro x hx
    rw [List.mem_singleton.mp hx, h, hours]
  · cases hm

/-- The lists of one side are changed. -/
theorem of_discovery {d : Discovery} (hfailing : d.failing = b.discovery.failing)
    (hlists : ∀ service, side.services service ≠ ours → d.list service = b.discovery.list service)
    (hrecords : ∀ service, side.services service = ours → ∀ record ∈ d.list service,
      side.has ours record = true) : Sided side ours b { b with discovery := d } where
  apart := by
    refine ⟨hb.registry, ?_⟩
    intro service record hrecord
    by_cases hservice : side.services service = ours
    · rw [hservice]
      exact hrecords service hservice record hrecord
    · rw [hlists service hservice] at hrecord
      exact hb.lists service record hrecord
  agree := by
    rintro rfl
    refine { Agree.refl b with lists := fun service hservice => hlists service ?_, failing := hfailing }
    rw [hservice]
    exact Bool.noConfusion
  rules := rfl
  grows := List.suffix_refl _

theorem add {record : Instance} (h : side.has ours record = true) :
    Sided side ours b { b with discovery := b.discovery.add record } := by
  obtain ⟨-, hours⟩ := Side.has_iff.mp h
  refine of_discovery hb rfl ?_ ?_
  · intro service hservice
    rw [Discovery.list_add, if_neg]
    rintro rfl
    exact hservice hours
  · intro service hservice other hother
    have hbefore := hb.lists service
    rw [hservice] at hbefore
    rw [Discovery.list_add] at hother
    split at hother
    · rcases Discovery.mem_place hother with rfl | hother
      · exact h
      · exact hbefore other hother
    · exact hbefore other hother

theorem remove {service : String} (h : side.services service = ours) (id : String) :
    Sided side ours b { b with discovery := (b.discovery.remove service id).2 } := by
  refine of_discovery hb (Discovery.failing_remove _ _ _) ?_ ?_
  · intro other hother
    rw [Discovery.list_remove, if_neg]
    rintro rfl
    exact hother h
  · intro other hother record hrecord
    have hbefore := hb.lists other
    rw [hother] at hbefore
    rw [Discovery.list_remove] at hrecord
    split at hrecord
    · exact hbefore record (List.mem_filter.mp hrecord).1
    · exact hbefore record hrecord

theorem replace {service : String} (h : side.services service = ours) {records : List Instance}
    (hrecords : ∀ record ∈ records, side.has ours record = true) :
    Sided side ours b { b with discovery := b.discovery.replace service records } := by
  refine of_discovery hb rfl ?_ ?_
  · intro other hother
    rw [Discovery.list_replace, if_neg]
    rintro rfl
    exact hother h
  · intro other hother record hrecord
    rw [Discovery.list_replace] at hrecord
    split at hrecord
    · exact hrecords record hrecord
    · rw [← hother]
      exact hb.lists other record hrecord

end Sided

theorem apart_new (side : Side) (ambient : Ambient) : (new ambient).Apart side := by
  refine ⟨Registry.apart_empty side, ?_⟩
  intro service record hrecord
  cases hrecord

/-- Instances are listed, each on its side. -/
theorem apart_addAll {b : Balancer} (hb : b.Apart side) {records : List Instance}
    (h : ∀ record ∈ records, side.has (side.ids record.id) record = true) :
    Apart side { b with discovery := records.foldl Discovery.add b.discovery } := by
  induction records generalizing b with
  | nil => exact hb
  | cons record rest ih =>
      have hfirst := (Sided.add hb (h record List.mem_cons_self)).apart
      exact ih hfirst fun other hother => h other (List.mem_cons_of_mem _ hother)

/-! ### Choosing -/

section Choosing

variable {b : Balancer} {chooser : Chooser} {a : Algorithm} {service : String}
variable (hb : b.Apart side) (hrule : chooser.rule = .ofAlgorithm a)
variable (hservice : side.services service = ours)

include hb

variable (ours) in
theorem sided_sleep (d : Duration) : Sided side ours b (b.sleep d) := by
  unfold sleep
  exact .of_aside hb b.script b.seen _ b.rolled b.lapsed

include hrule hservice

theorem sided_pick (request : Request) (pool : List Status) :
    Sided side ours b (pick chooser service request pool b).2 := by
  have hroll : Sided side ours b (b.roll pool.length).2 :=
    .of_aside hb b.script b.seen b.clock (b.rolled + 1) b.lapsed
  have hturn : Sided side ours b (b.turn chooser.serial service pool.length).2 := .turn hb hservice _ _
  unfold pick
  rw [hrule]
  cases a with
  | random => exact hroll
  | weightedRandom => exact hroll
  | roundRobin => exact hturn
  | weightedRoundRobin => exact hturn
  | _ => exact .refl hb

theorem sided_choose (policy : Policy) (request : Request) (candidates : List Status) :
    Sided side ours b (b.choose chooser service policy request candidates).2 := by
  have hkeeps : (surroundings chooser service policy request).Keeps (Sided side ours b) := by
    refine ⟨?_, ?_⟩
    · intro pool t ht
      exact ht.trans (sided_pick ht.apart hrule hservice request pool)
    · intro t ht
      exact ht.trans (sided_sleep ours ht.apart policy.backoff)
  have hended := attempt_keeps hkeeps ⟨service, policy.lenient, candidates⟩ (tries policy) (.refl hb)
  rw [choose_ofAlgorithm hrule, chooseByAttempts_eq]
  refine hended.trans (.of_sink hended.apart _ ?_)
  intro hours
  exact Side.unread_exhaustion (hservice.trans hours) policy _

/-- What is chosen for a service is on its side. -/
theorem has_of_choose {policy : Policy} {request : Request} {candidates : List Status}
    {record : Instance} (h : (b.choose chooser service policy request candidates).1 = .ok record) :
    side.has ours record = true := by
  have hkeeps : (surroundings chooser service policy request).Keeps
      fun t => t.registry = b.registry := keeps_registry hrule b.registry
  rw [answer_choose_ofAlgorithm hrule, answerOf_eq_ok_iff] at h
  obtain ⟨t, ht, c, hc, rfl⟩ := attempt_chosen hkeeps (s := b) rfl h
  have hall : c ∈ b.registry.all service := by
    have hreachable := mem_of_mem_intersect hc
    rw [show (surroundings chooser service policy request).registry t = b.registry from ht]
      at hreachable
    exact (b.registry.reachable_sublist policy.lenient service).subset hreachable
  rw [← hservice]
  exact hb.registry.has_of_mem_all hall

end Choosing

/-! ### Selecting -/

section Selecting

variable {b : Balancer} {bound : BoundRoute} {a : Algorithm} {service : String} {request : Request}
variable (hb : b.Apart side) (hrule : bound.chooser.rule = .ofAlgorithm a)
variable (hservice : side.services service = ours)
variable (hevicted : ∀ id ∈ b.rules.evicted bound.policy.ruleSet, side.ids id = ours)

include hb hservice

theorem has_of_listed : ∀ record ∈ b.listed service, side.has ours record = true := by
  intro record hrecord
  unfold listed Discovery.lookUp at hrecord
  split at hrecord
  · rename_i records heq
    split at heq
    · cases heq
    · cases heq
      rw [← hservice]
      exact hb.lists service record hrecord
  · cases hrecord

include hevicted

variable (request) in
theorem leads_matched :
    Registry.Leads (RegistryAction.On side ours) b.registry
      (b.matched service request bound.policy).2 := by
  have hseen : Registry.Leads (RegistryAction.On side ours) b.registry (b.observed service) :=
    .single (a := .observe service (b.listed service)) ⟨hservice, has_of_listed hb hservice⟩
  refine hseen.trans (leads_matching request ?_ _)
  intro rule hrule id hid
  exact hevicted id (List.mem_filterMap.mpr ⟨rule, hrule, hid⟩)

variable (request) in
theorem leads_offered :
    Registry.Leads (RegistryAction.On side ours) b.registry
      (b.offered service request bound.policy).2 := by
  refine (leads_matched request hb hservice hevicted).trans (leads_statusesOf ?_ _)
  intro record hrecord
  exact has_of_listed hb hservice record (mem_listed_of_mem_found hrecord)

include hrule

theorem sided_decide : Sided side ours b (b.decide service request bound).2.2 := by
  have htags : ours = false → ∀ tag ∈ [("service", service)], side.tags tag = false := by
    intro hours
    simpa [Side.tags] using hservice.trans hours
  by_cases hlisted : b.listed service = []
  · rw [decide_of_unlisted hlisted]
    exact .count hb htags
  · by_cases hfound : b.found service request bound.policy = []
    · rw [decide_of_unfound hlisted hfound]
      have hmatched := Sided.of_registry hb (leads_matched request hb hservice hevicted)
      exact hmatched.trans (.count hmatched.apart htags)
    · rw [decide_of_found hfound]
      have hoffered := Sided.of_registry hb (leads_offered request hb hservice hevicted)
      have hpicked := hoffered.trans (sided_choose hoffered.apart hrule hservice bound.policy request
        (b.offered service request bound.policy).1)
      exact hpicked.trans (.of_aside hpicked.apart _ _ _ _ _)

/-- What is decided for a service is on its side. -/
theorem has_of_decide {record : Instance} (h : (b.decide service request bound).1 = .ok record) :
    side.has ours record = true := by
  rw [← result_select_eq_decide, result_select] at h
  split at h
  · cases h
  · split at h
    · cases h
    · have hoffered := Sided.of_registry hb (leads_offered request hb hservice hevicted)
      exact has_of_choose hoffered.apart hrule hservice h

variable (request) in
theorem sided_opened :
    let decided := b.decide service request bound
    Sided side ours b (opened decided.1 decided.2.2) := by
  intro decided
  have hdecided : Sided side ours b decided.2.2 := sided_decide hb hrule hservice hevicted
  cases hresult : decided.1 with
  | error f => exact hdecided
  | ok record =>
      exact hdecided.trans (.connect hdecided.apart (has_of_decide hb hrule hservice hevicted hresult))

variable (request) in
theorem sided_select : Sided side ours b (b.select service request bound).2 := by
  have hopened := sided_opened request hb hrule hservice hevicted
  rw [select_eq]
  dsimp only
  rw [← sink_opened (b.decide service request bound).1]
  refine hopened.trans (.of_sink hopened.apart _ ?_)
  intro hours
  refine Side.unread_outcomes (hservice.trans hours) _ _ ?_
  intro f hf
  rw [← result_select_eq_decide] at hf
  exact service_of_failure_select hrule hf

/-- What is selected for a service is on its side. -/
theorem has_of_select {record : Instance} (h : (b.select service request bound).1 = .ok record) :
    side.has ours record = true := by
  rw [result_select_eq_decide] at h
  exact has_of_decide hb hrule hservice hevicted h

end Selecting

/-! ### Routing -/

section Routing

variable {b : Balancer} {bound : BoundRoute} {a : Algorithm} {request : Request}
variable (hb : b.Apart side) (hrule : bound.chooser.rule = .ofAlgorithm a)
variable (hservice : side.services request.serviceText = ours)
variable (hevicted : ∀ id ∈ b.rules.evicted bound.policy.ruleSet, side.ids id = ours)

include hb

/-- A failure is counted under its service. -/
theorem sided_countFailure {f : Failure} (h : side.services f.service = ours) (a : Algorithm) :
    Sided side ours b (b.countFailure f a) := by
  refine .count hb ?_
  intro hours
  simpa [Side.tags] using h.trans hours

theorem sided_forwarded [Url.DomainNames] {service : String} (hservice : side.services service = ours)
    (request : Request) (bound : BoundRoute) {result : Except Failure Instance}
    (hresult : ∀ record, result = .ok record → side.has ours record = true) :
    Sided side ours b (forwarded request bound service result b).2 := by
  cases result with
  | error f => exact .refl hb
  | ok record =>
      dsimp only [forwarded]
      cases forwardTarget request.target record with
      | some target => exact .refl hb
      | none =>
          have hcounted := sided_countFailure hb (f := .invalidTarget service record.id) hservice
            bound.algorithm
          exact hcounted.trans
            (.disconnect hcounted.apart (Side.has_iff.mp (hresult record rfl)).1)

include hrule hservice hevicted

theorem sided_route [Url.DomainNames] : Sided side ours b (b.route request bound).2.2 := by
  unfold Request.serviceText at hservice
  cases hasked : request.service? with
  | none =>
      rw [hasked] at hservice
      unfold route
      rw [hasked]
      exact sided_countFailure hb (f := .noInstances "") hservice bound.algorithm
  | some service =>
      rw [hasked] at hservice
      have hselected : Sided side ours b (b.select service request bound).2 :=
        sided_select request hb hrule hservice hevicted
      have hrouted : (b.route request bound).2.2 = (forwarded request bound service
          (b.select service request bound).1 (b.select service request bound).2).2 :=
        congrArg Prod.snd (route_eq hasked)
      rw [hrouted]
      refine hselected.trans (sided_forwarded hselected.apart hservice request bound ?_)
      intro record hok
      exact has_of_select hb hrule hservice hevicted hok

/-- What is routed to is on the side of the service. -/
theorem has_of_route [Url.DomainNames] {record : Instance} (h : (b.route request bound).1 = .ok record) :
    side.has ours record = true := by
  obtain ⟨service, hasked, hselect⟩ := select_of_route h
  unfold Request.serviceText at hservice
  rw [hasked] at hservice
  exact has_of_select hb hrule hservice hevicted hselect

end Routing

end Balancer

end LoadBalancer

import Mathlib
import LoadBalancer.Proofs.Balancer.Twins
import LoadBalancer.Proofs.Session.Sides
import LoadBalancer.Session.Command

/-!
# Two sessions that are the same to us

A step of ours, in two sessions that are the same to us, has the same answer in both and leaves them the same
to us.

* `Session.twin_release`, `twin_exchange`, `twin_routed`, `twin_routeTimes` and others – the parts of steps;
* `Reply.Same` – two answers are the same to us; changes of health are, as far as no reader has lost any;
* `SessionStep.alike_run` – **one step**, one kind of step at a time;
* `SessionStep.same_run` – the same, with what is announced.
-/

namespace LoadBalancer

variable {side : Side} {ours : Bool}

namespace Session

variable {s s' : Session}

/-! ### What is read of it -/

namespace Alike

variable (h : Alike side s s')

include h

theorem prepare [Url.DomainNames] (name : String) (text : RequestText) :
    s'.prepare name text = s.prepare name text := by
  unfold Session.prepare route?
  rw [h.routes]

theorem held? {name : String} (hname : side.names name = true) : s'.held? name = s.held? name := by
  unfold Session.held?
  rw [h.held name hname]

theorem selection? {name : String} (hname : side.names name = true) :
    s'.selection? name = s.selection? name := by
  unfold Session.selection?
  rw [h.held name hname]

theorem chooser? (algorithm : String) : s'.chooser? (some algorithm) = s.chooser? (some algorithm) := by
  unfold Session.chooser?
  rw [h.balancer.choosers]

theorem bind (policy : Policy) : s'.balancer.bind policy = s.balancer.bind policy := by
  unfold Balancer.bind
  rw [h.balancer.choosers]

theorem hasDefaults (hd : s.HasDefaults) : s'.HasDefaults := by
  refine ⟨h.balancer.choosers.trans hd.choosers, ?_⟩
  rw [h.routes]
  exact hd.routes

/-! ### Parts of steps -/

theorem onBalancer {b b' : Balancer} (hb : Balancer.Agree side b b') :
    Alike side { s with balancer := b } { s' with balancer := b' } :=
  ⟨hb, h.routes, h.held⟩

theorem put (name : String) (value : Held) :
    Alike side { s with held := s.held.put name value } { s' with held := s'.held.put name value } := by
  refine ⟨h.balancer, h.routes, ?_⟩
  intro other hother
  simp only [Table.get?_put, h.held other hother]

theorem forget (name : String) : Alike side (s.forget name) (s'.forget name) := by
  refine ⟨h.balancer, h.routes, ?_⟩
  intro other hother
  simp only [Session.forget, Table.get?_erase, h.held other hother]

end Alike

section Parts

variable (h : Alike side s s')

include h

theorem twin_onRegistry {α : Type} {f : Registry → α × Registry}
    (hf : Twin (Registry.Agree side) (f s.balancer.registry) (f s'.balancer.registry)) :
    Twin (Alike side) (s.onRegistry f) (s'.onRegistry f) :=
  ⟨hf.1, h.onBalancer (h.balancer.onRegistry hf.2)⟩

theorem twin_close {id : String} (hid : side.ids id = true) :
    Twin (Alike side) (s.close id) (s'.close id) := by
  obtain ⟨hanswer, hafter⟩ := Balancer.twin_disconnect h.balancer hid
  exact ⟨hanswer, h.onBalancer hafter⟩

theorem twin_connect {record : Instance} (hrecord : side.has true record = true) (times : Nat) :
    Twin (Alike side) (s.connect record times) (s'.connect record times) := by
  induction times generalizing s s' with
  | zero => exact ⟨h.balancer.registry.connections (Side.ids_of_has hrecord), h⟩
  | succ times ih => exact ih (h.onBalancer (Balancer.twin_connect h.balancer hrecord).2)

theorem twin_mark {id : String} (hid : side.ids id = true) (health : Health) :
    Twin (Alike side) (s.mark id health) (s'.mark id health) :=
  twin_onRegistry h (Registry.twin_mark h.balancer.registry hid health)

theorem twin_markInTurn {id : String} (hid : side.ids id = true) (alive : Bool) (last : Option Health)
    (times : Nat) :
    Twin (Alike side) (s.markInTurn id alive last times) (s'.markInTurn id alive last times) := by
  induction times generalizing s s' alive last with
  | zero => exact .intro last h
  | succ times ih =>
      obtain ⟨hanswer, hafter⟩ := twin_mark h hid (Health.ofVerdict (some alive))
      have hlater := ih hafter (!alive) (s'.mark id (Health.ofVerdict (some alive))).1
      rw [hanswer] at hlater
      simp only [markInTurn, hanswer]
      exact hlater

theorem twin_parts {name : String} (hname : side.names name = true) :
    Twin (Alike side) (s.parts name) (s'.parts name) := by
  unfold parts
  rw [h.selection? hname]
  cases s.selection? name with
  | error e => exact .intro _ h
  | ok selection => exact .intro (Except.ok selection.2) (h.put name _)

variable (hs : s.Apart side)

include hs

theorem alike_hold {name : String} (hname : side.names name = true) (value : Held) :
    Alike side (s.hold name value) (s'.hold name value) := by
  unfold hold
  rw [h.held name hname]
  cases hget : s.held.get? name with
  | none => exact h.put name value
  | some old => exact (twin_close h ((hs.held name old hget).trans hname)).2.put name value

theorem alike_keep {name : Option String} {record : Instance} (hname : side.hasName true name = true)
    (hrecord : side.has true record = true) : Alike side (s.keep name record) (s'.keep name record) := by
  cases name with
  | some name => exact alike_hold h hs (Side.hasName_some.mp hname) _
  | none => exact (twin_close h (Side.ids_of_has hrecord)).2

theorem twin_settle {name : Option String} {record : Instance} (hname : side.hasName true name = true)
    (hrecord : side.has true record = true) :
    Twin (Alike side) (s.settle name record) (s'.settle name record) := by
  refine ⟨?_, alike_keep h hs hname hrecord⟩
  simp only [settle, h.balancer.registry.connections (Side.ids_of_has hrecord)]

theorem twin_release {name : String} (hname : side.names name = true) :
    Twin (Alike side) (s.release name) (s'.release name) := by
  unfold release
  rw [h.held? hname]
  cases hheld : s.held? name with
  | error e => exact .intro _ h
  | ok value =>
      have hid := (hs.held name value (get?_of_held? hheld)).trans hname
      exact (twin_close (h.forget name) hid).map Except.ok

theorem twin_exchange {name : String} (hname : side.names name = true) (ending : Ending) :
    Twin (Alike side) (s.exchange name ending) (s'.exchange name ending) := by
  unfold exchange
  rw [h.selection? hname]
  cases hselection : s.selection? name with
  | error e => exact .intro _ h
  | ok selection =>
      have hid := (hs.held name selection.1 (get?_of_selection? hselection)).trans hname
      have hlater : Alike side
          { s with balancer := { s.balancer with clock := s.balancer.clock + ending.duration } }
          { s' with balancer := { s'.balancer with clock := s'.balancer.clock + ending.duration } } :=
        h.onBalancer { h.balancer with }
      refine ⟨?_, (twin_close (hlater.forget name) hid).2⟩
      simp only [h.balancer.registry.connections hid]

theorem alike_openConnection {name : String} {record : Instance} (hname : side.names name = true)
    (hrecord : side.has true record = true) :
    Alike side (s.openConnection name record) (s'.openConnection name record) := by
  obtain ⟨-, hopened⟩ := Balancer.twin_connect h.balancer hrecord
  exact alike_hold (h.onBalancer hopened)
    ((Sided.of_balancer hs (.connect hs.balancer hrecord) _ _).apart hs) hname _

/-! ### Selecting -/

theorem twin_choose {chooser : Chooser} {a : Algorithm} (hrule : chooser.rule = .ofAlgorithm a)
    (hrolls : a.rolls = false) {service : String} (hservice : side.services service = true)
    (policy : Policy) (request : Request) (records : List Instance) (times : Nat) :
    Twin (Alike side) (s.choose chooser service policy request records times)
      (s'.choose chooser service policy request records times) := by
  induction times generalizing s s' with
  | zero => exact .intro [] h
  | succ times ih =>
      obtain ⟨hfirst, hafter⟩ := Balancer.twin_choose hrule hrolls hservice policy request hs.balancer
        h.balancer (unseen records)
      have hkept := Sided.of_balancer hs (Balancer.sided_choose hs.balancer hrule hservice policy request
        (unseen records)) s.serviceReaders s.askedAt
      obtain ⟨hlater, hend⟩ := ih (h.onBalancer hafter) (hkept.apart hs)
      rw [choose_succ, choose_succ]
      exact ⟨congrArg₂ List.cons hfirst hlater, hend⟩

section Bound

variable {bound : BoundRoute} {a : Algorithm} {request : Request} {service : String}
variable (hrule : bound.chooser.rule = .ofAlgorithm a) (hrolls : a.rolls = false)
variable (hevicted : ∀ id ∈ s.balancer.rules.evicted bound.policy.ruleSet, side.ids id = true)

include hrule hrolls hevicted

theorem twin_selected {heldName : Option String} (hname : side.hasName true heldName = true)
    (hservice : side.services service = true) :
    let answer := fun t : Session => t.balancer.select service request bound
    Twin (Alike side) (selected heldName (answer s).1 { s with balancer := (answer s).2 })
      (selected heldName (answer s').1 { s' with balancer := (answer s').2 }) := by
  intro answer
  obtain ⟨hresult, hafter⟩ := Balancer.twin_select request h.balancer hs.balancer hrule hrolls
    hservice hevicted
  have hdone := Sided.of_balancer hs (Balancer.sided_select request hs.balancer hrule hservice
    hevicted) s.serviceReaders s.askedAt
  dsimp only [answer]
  rw [hresult]
  cases hchosen : (s.balancer.select service request bound).1 with
  | error f => exact .intro _ (h.onBalancer hafter)
  | ok record =>
      exact (twin_settle (h.onBalancer hafter) (hdone.apart hs) hname
        (Balancer.has_of_select hs.balancer hrule hservice hevicted hchosen)).map Except.ok

variable (hservice : side.services request.serviceText = true)

include hservice

theorem twin_routed [Url.DomainNames] {heldName : Option String}
    (hname : side.hasName true heldName = true) :
    let answer := fun t : Session => t.balancer.route request bound
    Twin (Alike side)
      (routed heldName ((answer s).1, (answer s).2.1) { s with balancer := (answer s).2.2 })
      (routed heldName ((answer s').1, (answer s').2.1) { s' with balancer := (answer s').2.2 }) := by
  intro answer
  obtain ⟨hresult, hafter⟩ := Balancer.twin_route h.balancer hs.balancer hrule hrolls hservice hevicted
  have hdone := Sided.of_balancer hs (Balancer.sided_route hs.balancer hrule hservice hevicted)
    s.serviceReaders s.askedAt
  dsimp only [answer] at hresult hafter ⊢
  rw [hresult]
  cases hchosen : (s.balancer.route request bound).1 with
  | error f => exact .intro _ (h.onBalancer hafter)
  | ok record =>
      exact (twin_settle (h.onBalancer hafter) (hdone.apart hs) hname
        (Balancer.has_of_route hs.balancer hrule hservice hevicted hchosen)).map
          fun chosen => Except.ok (Except.ok chosen, (s.balancer.route request bound).2.1.target)

/-- By induction on how often a request is routed. -/
theorem twin_routeTimes [Url.DomainNames] {names : Nat → Option String} {n i : Nat}
    (hnames : ∀ k < n, side.hasName true (names (i + k)) = true) :
    Twin (Alike side) (routeTimes bound request names n i s)
      (routeTimes bound request names n i s') := by
  induction n generalizing i s s' with
  | zero => exact .intro [] h
  | succ n ih =>
      obtain ⟨hresult, hafter⟩ :=
        Balancer.twin_route h.balancer hs.balancer hrule hrolls hservice hevicted
      obtain ⟨hanswer, -⟩ := Prod.mk.inj hresult
      have hhas : ∀ record, (s.balancer.route request bound).1 = .ok record →
          side.has true record = true :=
        fun record => Balancer.has_of_route hs.balancer hrule hservice hevicted
      have hdone := Sided.of_balancer hs (Balancer.sided_route hs.balancer hrule hservice hevicted)
        s.serviceReaders s.askedAt
      have hfirst : side.hasName true (names i) = true := hnames 0 (Nat.succ_pos n)
      have hkept := hdone.trans (.keepChosen (hdone.apart hs) hfirst hhas)
      have halike : Alike side
          (keepChosen (names i) (s.balancer.route request bound).1
            { s with balancer := (s.balancer.route request bound).2.2 })
          (keepChosen (names i) (s.balancer.route request bound).1
            { s' with balancer := (s'.balancer.route request bound).2.2 }) := by
        cases hchosen : (s.balancer.route request bound).1 with
        | error f => exact h.onBalancer hafter
        | ok record => exact alike_keep (h.onBalancer hafter) (hdone.apart hs) hfirst (hhas record hchosen)
      have hrest : ∀ k < n, side.hasName true (names (i + 1 + k)) = true := by
        intro k hk
        rw [Nat.add_right_comm, Nat.add_assoc]
        exact hnames (k + 1) (Nat.succ_lt_succ hk)
      rw [← hkept.balancer.rules] at hevicted
      obtain ⟨hlater, hend⟩ := ih halike (hkept.apart hs) hevicted hrest
      rw [routeTimes_succ, routeTimes_succ]
      dsimp only at hanswer ⊢
      rw [hanswer]
      exact ⟨congrArg₂ List.cons rfl hlater, hend⟩

end Bound

end Parts

end Session

/-! ### Answers -/

/-- Two answers are the same to us. Of changes of health, those about our instances are, if no reader has
lost any. -/
def Reply.Same (side : Side) : Reply → Reply → Prop
  | .healthChanges batch, .healthChanges batch' =>
    batch.lost = 0 → batch'.lost = 0 →
      batch'.items.filter (side.ids ·.id) = batch.items.filter (side.ids ·.id)
  | a, a' => a' = a

theorem Reply.Same.of_eq {a a' : Reply} (h : a' = a) : Reply.Same side a a' := by
  subst h
  cases a' with
  | healthChanges batch => exact fun _ _ => rfl
  | _ => rfl

/-! ### Steps -/

namespace SessionStep

variable {s s' : Session}

open Session

/-- The answer is about one side, and not about everything that has happened. -/
def isPromised : SessionStep → Bool
  | .serviceChanges _ => false
  | .slept => false
  | .seen => false
  | _ => true

theorem admits_of_alike [Url.DomainNames] (h : Alike side s s') (t : SessionStep) :
    side.admits ours s' t = side.admits ours s t := by
  have hask : ∀ set, side.mayAsk ours s' set = side.mayAsk ours s set := by
    intro set
    unfold Side.mayAsk
    rw [h.balancer.rules]
  have hroute : ∀ name text service,
      side.mayRoute ours s' name text service = side.mayRoute ours s name text service := by
    intro name text service
    unfold Side.mayRoute Side.mayUse
    simp only [h.prepare, hask]
  cases t with
  | route name text heldName => simp only [Side.admits, hroute]
  | routeMany name text times heldName => simp only [Side.admits, hroute]
  | select name service text heldName => simp only [Side.admits, hroute]
  | matching request set => exact hask set
  | choose algorithm service policy request records times => cases algorithm <;> rfl
  | _ => rfl

variable (hs : s.Apart side)

include hs

/-- **One step** of ours that does not concern everything, one kind of step at a time. -/
theorem alike_run [Url.DomainNames] (hd : s.HasDefaults) (h : Alike side s s') {t : SessionStep}
    (ht : t.isCommon = false) (hadmits : side.admits true s t = true) :
    Alike side (t.run s) (t.run s') ∧ (t.isPromised = true → t.answer s' = t.answer s) := by
  have htold : ∀ {α : Type} (f : α → Reply) {p p' : α × Session}, Twin (Alike side) p p' →
      Alike side p.2 p'.2 ∧ (t.isPromised = true → f p'.1 = f p.1) :=
    fun f _ _ hp => ⟨hp.2, fun _ => congrArg f hp.1⟩
  cases t with
  | bind name policy => cases ht
  | count name tags n => cases ht
  | clearMetrics => cases ht
  | subscribe name => cases ht
  | healthChanges name => cases ht
  | route name text heldName =>
      obtain ⟨hroute, hname⟩ := Bool.and_eq_true_iff.mp hadmits
      refine htold .routed ?_
      cases hprepared : s.prepare name text with
      | error e =>
          rw [route_of_refused hprepared, route_of_refused ((h.prepare name text).trans hprepared)]
          exact .intro _ h
      | ok prepared =>
          obtain ⟨bound, request⟩ := prepared
          obtain ⟨hservice, hevicted, hrolls⟩ := of_mayUse (of_mayRoute hroute hprepared)
          rw [route_of_prepared hprepared, route_of_prepared ((h.prepare name text).trans hprepared)]
          exact twin_routed h hs (hd.routes name bound (get?_of_prepare hprepared)) (hrolls rfl)
            hevicted hservice hname
  | routeMany name text times heldName =>
      obtain ⟨hroute, hnames⟩ := Bool.and_eq_true_iff.mp hadmits
      refine htold .routedOften ?_
      cases hprepared : s.prepare name text with
      | error e =>
          rw [routeMany_of_refused hprepared,
            routeMany_of_refused ((h.prepare name text).trans hprepared)]
          exact .intro _ h
      | ok prepared =>
          obtain ⟨bound, request⟩ := prepared
          obtain ⟨hservice, hevicted, hrolls⟩ := of_mayUse (of_mayRoute hroute hprepared)
          rw [routeMany_of_prepared hprepared,
            routeMany_of_prepared ((h.prepare name text).trans hprepared)]
          refine (twin_routeTimes h hs (hd.routes name bound (get?_of_prepare hprepared)) (hrolls rfl)
            hevicted hservice ?_).map Except.ok
          intro k hk
          rw [Nat.zero_add]
          exact List.all_eq_true.mp hnames k (List.mem_range.mpr hk)
  | select name service text heldName =>
      obtain ⟨hroute, hname⟩ := Bool.and_eq_true_iff.mp hadmits
      refine htold .selected ?_
      cases hprepared : s.prepare name text with
      | error e =>
          rw [select_of_refused hprepared, select_of_refused ((h.prepare name text).trans hprepared)]
          exact .intro _ h
      | ok prepared =>
          obtain ⟨bound, request⟩ := prepared
          obtain ⟨hservice, hevicted, hrolls⟩ := of_mayUse (of_mayRoute hroute hprepared)
          rw [select_of_prepared hprepared, select_of_prepared ((h.prepare name text).trans hprepared)]
          exact twin_selected h hs (hd.routes name bound (get?_of_prepare hprepared)) (hrolls rfl)
            hevicted hname hservice
  | choose algorithm service policy request records times =>
      cases algorithm with
      | none => cases hadmits
      | some algorithm =>
          obtain ⟨hservice, hchoose⟩ := Bool.and_eq_true_iff.mp hadmits
          simp only [run, answer, h.chooser? algorithm]
          cases hchooser : s.chooser? (some algorithm) with
          | error e => exact ⟨h, fun _ => rfl⟩
          | ok chooser =>
              obtain ⟨a, hread, hrule⟩ := rule_of_chooser? hd hchooser
              have hrolls : a.rolls = false := by simpa [Side.mayChoose, hread] using hchoose
              exact htold (fun results => .chosen (.ok results))
                (twin_choose h hs hrule hrolls (beq_iff_eq.mp hservice) policy request records times)
  | openConnection name record =>
      obtain ⟨hname, hrecord⟩ := Bool.and_eq_true_iff.mp hadmits
      exact ⟨alike_openConnection h hs (beq_iff_eq.mp hname) hrecord, fun _ => rfl⟩
  | release name => exact htold .closed (twin_release h hs (beq_iff_eq.mp hadmits))
  | parts name => exact htold .selection (twin_parts h (beq_iff_eq.mp hadmits))
  | exchange name ending => exact htold .closed (twin_exchange h hs (beq_iff_eq.mp hadmits) ending)
  | observe service records =>
      exact ⟨h.onBalancer (h.balancer.onRegistry
        (RegistryAction.agree_observe h.balancer.registry service records)), fun _ => rfl⟩
  | status record =>
      exact htold .status (twin_onRegistry h (Registry.twin_statusOf h.balancer.registry hadmits))
  | connect record times => exact htold .number (twin_connect h hadmits times)
  | disconnect id => exact htold .number (twin_close h (beq_iff_eq.mp hadmits))
  | mark id health => exact htold .health (twin_mark h (beq_iff_eq.mp hadmits) health)
  | markInTurn id times =>
      exact htold .health (twin_markInTurn h (beq_iff_eq.mp hadmits) true none times)
  | evict id =>
      exact htold .flag
        (twin_onRegistry h (Registry.twin_evict h.balancer.registry (beq_iff_eq.mp hadmits)))
  | add record => exact ⟨h.onBalancer (h.balancer.add record), fun _ => rfl⟩
  | remove service id =>
      obtain ⟨hanswer, hafter⟩ := h.balancer.remove (beq_iff_eq.mp hadmits) id
      exact ⟨h.onBalancer hafter, fun _ => congrArg Reply.flag hanswer⟩
  | replace service records => exact ⟨h.onBalancer (h.balancer.replace service records), fun _ => rfl⟩
  | matching request set =>
      have hsame : s'.matching request set = s'.onRegistry (s.balancer.rules.matching request set) := by
        rw [Session.matching, h.balancer.rules]
      dsimp only [run, answer]
      rw [hsame]
      refine htold .texts (twin_onRegistry h ?_)
      refine Registry.twin_matching h.balancer.registry request ?_
      intro rule hrule id hid
      exact evicted_of_mayAsk hadmits id (List.mem_filterMap.mpr ⟨rule, hrule, hid⟩)
  | time name tags nanos =>
      exact ⟨h.onBalancer (h.balancer.measured [.time name tags nanos]), fun _ => rfl⟩
  | follow script => exact ⟨h.onBalancer { h.balancer with }, fun _ => rfl⟩
  | watch name => exact ⟨⟨h.balancer, h.routes, h.held⟩, fun _ => rfl⟩
  | serviceChanges name =>
      refine ⟨?_, Bool.noConfusion⟩
      simp only [run, Session.serviceChanges]
      split <;> split <;> exact ⟨h.balancer, h.routes, h.held⟩
  | slept => exact ⟨⟨h.balancer, h.routes, h.held⟩, Bool.noConfusion⟩
  | seen => exact ⟨h.onBalancer { h.balancer with }, Bool.noConfusion⟩

omit hs in
/-- A step of ours that concerns everything. -/
theorem agree_common [Url.DomainNames] (h : Agree side s s') {t : SessionStep} (ht : t.isCommon = true) :
    Agree side (t.run s) (t.run s') ∧ Reply.Same side (t.answer s) (t.answer s') := by
  cases t with
  | bind name policy =>
      simp only [run, answer, Session.bind, h.bind]
      cases s.balancer.bind policy with
      | ok bound =>
          refine ⟨⟨⟨h.balancer, ?_, h.held⟩, h.hears⟩, rfl⟩
          rw [h.routes]
      | error e => exact ⟨h, rfl⟩
  | count name tags n =>
      exact ⟨⟨h.onBalancer (h.balancer.measured [.count name tags n]), h.hears⟩, rfl⟩
  | clearMetrics =>
      exact ⟨⟨h.onBalancer { h.balancer with sink := h.balancer.sink.clear }, h.hears⟩, rfl⟩
  | subscribe name => exact ⟨⟨⟨h.balancer, h.routes, h.held⟩, h.hears.joined name⟩, rfl⟩
  | healthChanges name =>
      have hreads := h.hears name
      unfold unread? at hreads
      simp only [run, answer, Session.healthChanges]
      cases hget : s.healthReaders.get? name with
      | none =>
          cases hget' : s'.healthReaders.get? name with
          | none => exact ⟨h, fun _ _ => rfl⟩
          | some r' => simp [hget, hget'] at hreads
      | some r =>
          cases hget' : s'.healthReaders.get? name with
          | none => simp [hget, hget'] at hreads
          | some r' =>
              refine ⟨⟨⟨h.balancer, h.routes, h.held⟩, h.hears.joined name⟩, ?_⟩
              intro hlost hlost'
              rw [Channel.items_read hlost, Channel.items_read hlost', List.filter_reverse,
                List.filter_reverse]
              simpa [hget, hget'] using hreads
  | _ => cases ht

/-- **One step of ours.** -/
theorem same_run [Url.DomainNames] (hs' : s'.Apart side) (hd : s.HasDefaults) (h : Agree side s s')
    {t : SessionStep} (hadmits : side.admits true s t = true) :
    Agree side (t.run s) (t.run s') ∧
      (t.isPromised = true → Reply.Same side (t.answer s) (t.answer s')) := by
  cases ht : t.isCommon with
  | true =>
      obtain ⟨hafter, hsame⟩ := agree_common h ht
      exact ⟨hafter, fun _ => hsame⟩
  | false =>
      obtain ⟨hafter, hanswer⟩ := alike_run hs hd h.toAlike ht hadmits
      have hdone := sided_run hs hd ht hadmits
      have hdone' := sided_run hs' (h.hasDefaults hd) ht
        ((admits_of_alike h.toAlike t).trans hadmits)
      have hhears := hears_of_grown hs hs' hdone.readers hdone'.readers hdone.balancer.grows
        hdone'.balancer.grows h.balancer.registry hafter.balancer.registry h.hears
      exact ⟨⟨hafter, hhears⟩, fun hpromised => .of_eq (hanswer hpromised)⟩

end SessionStep

end LoadBalancer

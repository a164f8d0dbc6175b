import Mathlib
import LoadBalancer.Proofs.Balancer.Sides
import LoadBalancer.Proofs.Channel
import LoadBalancer.Proofs.Session.Accounting
import LoadBalancer.Proofs.Session.Composition

/-!
# Two sides of a session

Steps that name nothing but what is on one side. To us they are nothing, if it is the other side.

* `Session.Apart` – registry, service list and held connections keep to the sides;
* `Session.Agree` – two sessions are the same to us;
* `Session.Sided` – a session comes out of another by what one side does; `Session.Sided.agree` says that
  the other side is nothing to us;
* `Side.admits` – the steps of a side; `SessionStep.sided_run` – **one step**, one kind of step at a time.
-/

namespace LoadBalancer

variable {side : Side} {ours : Bool}

/-- The name, if there is one, is on a side. -/
def Side.hasName (side : Side) (ours : Bool) (name : Option String) : Bool :=
  name.all (side.names · == ours)

theorem Side.hasName_some {name : String} :
    side.hasName ours (some name) = true ↔ side.names name = ours := by
  simp [hasName]

namespace Session

variable {s s' s'' : Session}

/-! ### The sides are apart -/

/-- Registry, service list and held connections keep to the sides. No reader has come further than what
has been announced. -/
structure Apart (side : Side) (s : Session) : Prop where
  balancer : s.balancer.Apart side
  held : ∀ name h, s.held.get? name = some h → side.ids h.id = side.names name
  readers : ∀ name r, s.healthReaders.get? name = some r →
    r.passed ≤ s.balancer.registry.changes.sent.length

/-- A reader joins, or has read everything. -/
theorem Apart.joined (hs : s.Apart side) (name other : String) (r : Reader)
    (h : (s.healthReaders.put name s.balancer.registry.changes.subscribe).get? other = some r) :
    r.passed ≤ s.balancer.registry.changes.sent.length := by
  rw [Table.get?_put] at h
  split at h
  · cases h
    exact le_refl _
  · exact hs.readers other r h

/-! ### The same to us -/

/-- The changes of health that a reader has not read. -/
def unread? (s : Session) (name : String) : Option (List HealthChange) :=
  (s.healthReaders.get? name).map s.balancer.registry.changes.unread

/-- The second session is the same to us as the first, but for what is announced. -/
structure Alike (side : Side) (s s' : Session) : Prop where
  balancer : Balancer.Agree side s.balancer s'.balancer
  routes : s'.routes = s.routes
  held : ∀ name, side.names name = true → s'.held.get? name = s.held.get? name

/-- Every reader of the one has the same to read about our instances as the reader of that name of the
other. -/
def Hears (side : Side) (s s' : Session) : Prop :=
  ∀ name, (s'.unread? name).map (List.filter (side.ids ·.id)) =
    (s.unread? name).map (List.filter (side.ids ·.id))

/-- The second session is the same to us as the first. -/
structure Agree (side : Side) (s s' : Session) : Prop extends Alike side s s' where
  hears : Hears side s s'

namespace Alike

theorem refl (s : Session) : Alike side s s := ⟨.refl _, rfl, fun _ _ => rfl⟩

theorem symm (h : Alike side s s') : Alike side s' s where
  balancer := h.balancer.symm
  routes := h.routes.symm
  held := fun name hname => (h.held name hname).symm

theorem trans (h : Alike side s s') (h' : Alike side s' s'') : Alike side s s'' where
  balancer := h.balancer.trans h'.balancer
  routes := h'.routes.trans h.routes
  held := fun name hname => (h'.held name hname).trans (h.held name hname)

end Alike

namespace Agree

theorem refl (s : Session) : Agree side s s := ⟨.refl s, fun _ => rfl⟩

theorem symm (h : Agree side s s') : Agree side s' s :=
  ⟨h.toAlike.symm, fun name => (h.hears name).symm⟩

theorem trans (h : Agree side s s') (h' : Agree side s' s'') : Agree side s s'' :=
  ⟨h.toAlike.trans h'.toAlike, fun name => (h'.hears name).trans (h.hears name)⟩

end Agree

/-- A reader joins both, or has read everything in both. -/
theorem Hears.joined (h : Hears side s s') (name : String) :
    Hears side
      { s with healthReaders := s.healthReaders.put name s.balancer.registry.changes.subscribe }
      { s' with healthReaders := s'.healthReaders.put name s'.balancer.registry.changes.subscribe } := by
  intro other
  unfold unread?
  simp only [Table.get?_put]
  split
  · simp only [Option.map_some, Channel.unread_subscribe, List.filter_nil]
  · exact h other

/-! ### What one side does -/

/-- The second session comes out of the first by what one side does. -/
structure Sided (side : Side) (ours : Bool) (s s' : Session) : Prop where
  balancer : Balancer.Sided side ours s.balancer s'.balancer
  routes : s'.routes = s.routes
  readers : s'.healthReaders = s.healthReaders
  held : ∀ name, side.names name ≠ ours → s'.held.get? name = s.held.get? name
  places : ∀ name h, s'.held.get? name = some h → side.ids h.id = side.names name

/-- The same announcements about our instances are added to what is unread in both. -/
theorem hears_of_grown {t t' : Session} (hs : s.Apart side) (hs' : s'.Apart side)
    (hreaders : t.healthReaders = s.healthReaders) (hreaders' : t'.healthReaders = s'.healthReaders)
    (hgrows : s.balancer.registry.changes.sent <:+ t.balancer.registry.changes.sent)
    (hgrows' : s'.balancer.registry.changes.sent <:+ t'.balancer.registry.changes.sent)
    (hbefore : Registry.Agree side s.balancer.registry s'.balancer.registry)
    (hafter : Registry.Agree side t.balancer.registry t'.balancer.registry) (h : Hears side s s') :
    Hears side t t' := by
  obtain ⟨new, hnew⟩ := hgrows
  obtain ⟨new', hnew'⟩ := hgrows'
  have hsame : new'.filter (side.ids ·.id) = new.filter (side.ids ·.id) := by
    have hall := hafter.announced
    rw [← hnew, ← hnew', List.filter_append, List.filter_append, hbefore.announced] at hall
    exact List.append_cancel_right hall
  intro name
  have hname := h name
  unfold unread? at hname ⊢
  rw [hreaders, hreaders']
  cases hget : s.healthReaders.get? name with
  | none =>
      cases hget' : s'.healthReaders.get? name with
      | none => rfl
      | some r' => simp [hget, hget'] at hname
  | some r =>
      cases hget' : s'.healthReaders.get? name with
      | none => simp [hget, hget'] at hname
      | some r' =>
          simp only [hget, hget', Option.map_some, Option.some.injEq] at hname ⊢
          rw [Channel.unread_append hnew.symm (hs.readers name r hget),
            Channel.unread_append hnew'.symm (hs'.readers name r' hget'), List.filter_append,
            List.filter_append, hsame, hname]

namespace Sided

theorem trans (h : Sided side ours s s') (h' : Sided side ours s' s'') : Sided side ours s s'' where
  balancer := h.balancer.trans h'.balancer
  routes := h'.routes.trans h.routes
  readers := h'.readers.trans h.readers
  held := fun name hname => (h'.held name hname).trans (h.held name hname)
  places := h'.places

/-- The sides stay apart. -/
theorem apart (h : Sided side ours s s') (hs : s.Apart side) : s'.Apart side where
  balancer := h.balancer.apart
  held := h.places
  readers := by
    intro name r hget
    rw [h.readers] at hget
    exact (hs.readers name r hget).trans h.balancer.grows.length_le

/-- **The other side** is nothing to us. -/
theorem agree (h : Sided side false s s') (hs : s.Apart side) : Agree side s s' where
  balancer := h.balancer.agree rfl
  routes := h.routes
  held := by
    intro name hname
    refine h.held name ?_
    rw [hname]
    exact Bool.noConfusion
  hears := hears_of_grown hs hs rfl h.readers (List.suffix_refl _) h.balancer.grows (.refl _)
    (h.balancer.agree rfl).registry fun _ => rfl

variable (hs : s.Apart side)

include hs

theorem refl : Sided side ours s s := ⟨.refl hs.balancer, rfl, rfl, fun _ _ => rfl, hs.held⟩

/-- Only the balancer is acted on, and readers of changes of the service list. -/
theorem of_balancer {b : Balancer} (h : Balancer.Sided side ours s.balancer b)
    (serviceReaders : Table String Reader) (askedAt : Nat) :
    Sided side ours s { s with balancer := b, serviceReaders, askedAt } :=
  ⟨h, rfl, rfl, fun _ _ => rfl, hs.held⟩

theorem of_registry {r : Registry} (h : Registry.Leads (RegistryAction.On side ours) s.balancer.registry r) :
    Sided side ours s { s with balancer := { s.balancer with registry := r } } :=
  of_balancer hs (.of_registry hs.balancer h) _ _

/-! ### Connections -/

theorem close {id : String} (h : side.ids id = ours) : Sided side ours s (s.close id).2 :=
  of_balancer hs (.disconnect hs.balancer h) _ _

theorem put {name : String} {h : Held} (hname : side.names name = ours) (hid : side.ids h.id = ours) :
    Sided side ours s { s with held := s.held.put name h } where
  balancer := .refl hs.balancer
  routes := rfl
  readers := rfl
  held := by
    intro other hother
    simp only [Table.get?_put]
    rw [if_neg]
    rintro rfl
    exact hother hname
  places := by
    intro other old hget
    simp only [Table.get?_put] at hget
    split at hget
    · rename_i heq
      cases hget
      rw [hid, ← heq, hname]
    · exact hs.held other old hget

theorem forget {name : String} (hname : side.names name = ours) : Sided side ours s (s.forget name) where
  balancer := .refl hs.balancer
  routes := rfl
  readers := rfl
  held := by
    intro other hother
    simp only [Session.forget, Table.get?_erase]
    rw [if_neg]
    rintro rfl
    exact hother hname
  places := by
    intro other old hget
    simp only [Session.forget, Table.get?_erase] at hget
    split at hget
    · cases hget
    · exact hs.held other old hget

theorem hold {name : String} {h : Held} (hname : side.names name = ours) (hid : side.ids h.id = ours) :
    Sided side ours s (s.hold name h) := by
  unfold Session.hold
  cases hget : s.held.get? name with
  | none => exact put hs hname hid
  | some old =>
      have hclosed := close hs ((hs.held name old hget).trans hname)
      exact hclosed.trans (put (hclosed.apart hs) hname hid)

theorem keep {name : Option String} {record : Instance} (hname : side.hasName ours name = true)
    (hrecord : side.has ours record = true) : Sided side ours s (s.keep name record) := by
  obtain ⟨hid, -⟩ := Side.has_iff.mp hrecord
  cases name with
  | some name => exact hold hs (Side.hasName_some.mp hname) hid
  | none => exact close hs hid

theorem release {name : String} (hname : side.names name = ours) : Sided side ours s (s.release name).2 := by
  unfold Session.release
  split
  · rename_i h hh
    have hforgotten := forget hs hname
    exact hforgotten.trans
      (close (hforgotten.apart hs) ((hs.held name h (get?_of_held? hh)).trans hname))
  · exact refl hs

theorem parts {name : String} (hname : side.names name = ours) : Sided side ours s (s.parts name).2 := by
  unfold Session.parts
  split
  · rename_i h record hh
    exact put hs hname ((hs.held name h (get?_of_selection? hh)).trans hname)
  · exact refl hs

theorem exchange {name : String} (hname : side.names name = ours) (ending : Ending) :
    Sided side ours s (s.exchange name ending).2 := by
  unfold Session.exchange
  split
  · rename_i h record hh
    have hlater : Sided side ours s
        { s with balancer := { s.balancer with clock := s.balancer.clock + ending.duration } } :=
      of_balancer hs (.of_aside hs.balancer _ _ _ _ _) _ _
    have hforgotten := hlater.trans (forget (hlater.apart hs) hname)
    exact hforgotten.trans
      (close (hforgotten.apart hs) ((hs.held name h (get?_of_selection? hh)).trans hname))
  · exact refl hs

theorem openConnection {name : String} {record : Instance} (hname : side.names name = ours)
    (hrecord : side.has ours record = true) : Sided side ours s (s.openConnection name record) := by
  have hopened := of_balancer hs (.connect hs.balancer hrecord) s.serviceReaders s.askedAt
  exact hopened.trans (hold (hopened.apart hs) hname (Side.has_iff.mp hrecord).1)

theorem connect {record : Instance} (hrecord : side.has ours record = true) (times : Nat) :
    Sided side ours s (s.connect record times).2 := by
  induction times generalizing s with
  | zero => exact refl hs
  | succ times ih =>
      have hfirst := of_balancer hs (.connect hs.balancer hrecord) s.serviceReaders s.askedAt
      exact hfirst.trans (ih (hfirst.apart hs))

theorem markInTurn {id : String} (hid : side.ids id = ours) (alive : Bool) (last : Option Health)
    (times : Nat) : Sided side ours s (s.markInTurn id alive last times).2 := by
  induction times generalizing s alive last with
  | zero => exact refl hs
  | succ times ih =>
      have hfirst := of_registry hs (.single (a := .mark id (Health.ofVerdict (some alive))) hid)
      exact hfirst.trans (ih (hfirst.apart hs) _ _)

/-! ### Selecting -/

theorem choose {chooser : Chooser} {a : Algorithm} (hrule : chooser.rule = .ofAlgorithm a)
    {service : String} (hservice : side.services service = ours) (policy : Policy) (request : Request)
    (records : List Instance) (times : Nat) :
    Sided side ours s (s.choose chooser service policy request records times).2 := by
  induction times generalizing s with
  | zero => exact refl hs
  | succ times ih =>
      have hfirst := of_balancer hs (Balancer.sided_choose hs.balancer hrule hservice policy request
        (unseen records)) s.serviceReaders s.askedAt
      exact hfirst.trans (ih (hfirst.apart hs))

/-- A chosen instance is held or closed. -/
theorem keepChosen {name : Option String} {result : Except Failure Instance}
    (hname : side.hasName ours name = true)
    (hresult : ∀ record, result = .ok record → side.has ours record = true) :
    Sided side ours s (Session.keepChosen name result s) := by
  cases result with
  | ok record => exact keep hs hname (hresult record rfl)
  | error f => exact refl hs

section Bound

variable {bound : BoundRoute} {a : Algorithm} {request : Request} {service : String}
variable (hrule : bound.chooser.rule = .ofAlgorithm a)
variable (hevicted : ∀ id ∈ s.balancer.rules.evicted bound.policy.ruleSet, side.ids id = ours)

include hrule hevicted

theorem selected {heldName : Option String} (hname : side.hasName ours heldName = true)
    (hservice : side.services service = ours) :
    let answer := s.balancer.select service request bound
    Sided side ours s (Session.selected heldName answer.1 { s with balancer := answer.2 }).2 := by
  intro answer
  have hdone := of_balancer hs (Balancer.sided_select request hs.balancer hrule hservice hevicted)
    s.serviceReaders s.askedAt
  cases hresult : answer.1 with
  | error f => exact hdone
  | ok record =>
      exact hdone.trans (keep (hdone.apart hs) hname
        (Balancer.has_of_select hs.balancer hrule hservice hevicted hresult))

variable (hservice : side.services request.serviceText = ours)

include hservice

theorem routed [Url.DomainNames] {heldName : Option String} (hname : side.hasName ours heldName = true) :
    let answer := s.balancer.route request bound
    Sided side ours s
      (Session.routed heldName (answer.1, answer.2.1) { s with balancer := answer.2.2 }).2 := by
  intro answer
  have hdone := of_balancer hs (Balancer.sided_route hs.balancer hrule hservice hevicted)
    s.serviceReaders s.askedAt
  cases hresult : answer.1 with
  | error f => exact hdone
  | ok record =>
      exact hdone.trans (keep (hdone.apart hs) hname
        (Balancer.has_of_route hs.balancer hrule hservice hevicted hresult))

/-- By induction on how often a request is routed. -/
theorem routeTimes [Url.DomainNames] {names : Nat → Option String} {n i : Nat}
    (hnames : ∀ k < n, side.hasName ours (names (i + k)) = true) :
    Sided side ours s (Session.routeTimes bound request names n i s).2 := by
  induction n generalizing i s with
  | zero => exact refl hs
  | succ n ih =>
      have hdone := of_balancer hs (Balancer.sided_route hs.balancer hrule hservice hevicted)
        s.serviceReaders s.askedAt
      have hkept := hdone.trans (keepChosen (hdone.apart hs) (hnames 0 (Nat.succ_pos n))
        fun record => Balancer.has_of_route hs.balancer hrule hservice hevicted)
      rw [routeTimes_succ]
      refine hkept.trans (ih (hkept.apart hs) ?_ ?_)
      · rw [hkept.balancer.rules]
        exact hevicted
      · intro k hk
        rw [Nat.add_right_comm, Nat.add_assoc]
        exact hnames (k + 1) (Nat.succ_lt_succ hk)

end Bound

end Sided

end Session

/-! ### The steps of a side -/

namespace Side

/-- The instances that the rules of a set may forget are on a side; rules that are functions of the request
forget none. -/
def mayAsk (side : Side) (ours : Bool) (s : Session) (set : String) : Bool :=
  (s.balancer.rules.evicted set).all (side.ids · == ours)

/-- A request may be given to a route, for a service of a side. What is ours must not be chosen at
random. -/
def mayUse (side : Side) (ours : Bool) (s : Session) (bound : BoundRoute) (service : String) : Bool :=
  side.services service == ours && side.mayAsk ours s bound.policy.ruleSet &&
    !(ours && bound.algorithm.rolls)

/-- A named route may be used for the service of a request, if there are both. -/
def mayRoute [Url.DomainNames] (side : Side) (ours : Bool) (s : Session) (name : String)
    (text : RequestText) (service : Request → String) : Bool :=
  match s.prepare name text with
  | .ok (bound, request) => side.mayUse ours s bound (service request)
  | .error _ => true

/-- A named algorithm may be used, if there is one. -/
def mayChoose (ours : Bool) (algorithm : String) : Bool :=
  match Algorithm.read algorithm with
  | .ok a => !(ours && a.rolls)
  | .error _ => true

/-- The step names nothing but what is on a side. Steps that concern everything are ours, unless nothing of
what they leave is asked for. -/
def admits [Url.DomainNames] (side : Side) (ours : Bool) (s : Session) : SessionStep → Bool
  | .route name text heldName =>
    side.mayRoute ours s name text Request.serviceText && side.hasName ours heldName
  | .routeMany name text times heldName =>
    side.mayRoute ours s name text Request.serviceText &&
      (List.range times).all fun i => side.hasName ours (heldName i)
  | .select name service text heldName =>
    side.mayRoute ours s name text (fun _ => service) && side.hasName ours heldName
  | .choose (some algorithm) service _ _ _ _ =>
    side.services service == ours && mayChoose ours algorithm
  | .choose none _ _ _ _ _ => false
  | .openConnection name record => side.names name == ours && side.has ours record
  | .release name => side.names name == ours
  | .parts name => side.names name == ours
  | .exchange name _ => side.names name == ours
  | .observe service records => side.services service == ours && records.all (side.has ours)
  | .status record => side.has ours record
  | .connect record _ => side.has ours record
  | .disconnect id => side.ids id == ours
  | .mark id _ => side.ids id == ours
  | .markInTurn id _ => side.ids id == ours
  | .evict id => side.ids id == ours
  | .add record => side.has ours record
  | .remove service _ => side.services service == ours
  | .replace service records => side.services service == ours && records.all (side.has ours)
  | .matching _ set => side.mayAsk ours s set
  | .bind _ _ => ours
  | .count _ _ _ => ours
  | .clearMetrics => ours
  | .subscribe _ => ours
  | .healthChanges _ => ours
  | _ => true

end Side

namespace SessionStep

/-- The step concerns everything. -/
def isCommon : SessionStep → Bool
  | .bind _ _ => true
  | .count _ _ _ => true
  | .clearMetrics => true
  | .subscribe _ => true
  | .healthChanges _ => true
  | _ => false

open Session

section Run

variable {s : Session}

theorem evicted_of_mayAsk {set : String} (h : side.mayAsk ours s set = true) :
    ∀ id ∈ s.balancer.rules.evicted set, side.ids id = ours := by
  simpa [Side.mayAsk] using h

/-- What a side needs to use a route. -/
theorem of_mayUse {bound : BoundRoute} {service : String} (h : side.mayUse ours s bound service = true) :
    side.services service = ours ∧
      (∀ id ∈ s.balancer.rules.evicted bound.policy.ruleSet, side.ids id = ours) ∧
      (ours = true → bound.algorithm.rolls = false) := by
  simp only [Side.mayUse, Bool.and_eq_true, beq_iff_eq] at h
  obtain ⟨⟨hservice, hset⟩, hrolls⟩ := h
  refine ⟨hservice, evicted_of_mayAsk hset, ?_⟩
  rintro rfl
  simpa using hrolls

/-- A named route that may be used. -/
theorem of_mayRoute [Url.DomainNames] {name : String} {text : RequestText} {service : Request → String}
    {bound : BoundRoute} {request : Request} (h : side.mayRoute ours s name text service = true)
    (hprepared : s.prepare name text = .ok (bound, request)) :
    side.mayUse ours s bound (service request) = true := by
  unfold Side.mayRoute at h
  rw [hprepared] at h
  exact h

/-- The chooser of a named algorithm has the rule of that algorithm. -/
theorem rule_of_chooser? (hd : s.HasDefaults) {name : String} {chooser : Chooser}
    (h : s.chooser? (some name) = .ok chooser) :
    ∃ a, Algorithm.read name = .ok a ∧ chooser.rule = .ofAlgorithm a := by
  simp only [chooser?, Bind.bind, Except.bind] at h
  split at h
  · cases h
  · rename_i a ha
    rw [hd.choosers, Choosers.resolve_withDefaults] at h
    cases h
    exact ⟨a, ha, rfl⟩

variable (hs : s.Apart side) (hd : s.HasDefaults)

include hs hd

/-- **One step** of a side, one kind of step at a time. -/
theorem sided_run [Url.DomainNames] {t : SessionStep} (ht : t.isCommon = false)
    (h : side.admits ours s t = true) : Sided side ours s (t.run s) := by
  cases t with
  | bind name policy => cases ht
  | count name tags n => cases ht
  | clearMetrics => cases ht
  | subscribe name => cases ht
  | healthChanges name => cases ht
  | route name text heldName =>
      obtain ⟨hroute, hname⟩ := Bool.and_eq_true_iff.mp h
      dsimp only [run]
      cases hprepared : s.prepare name text with
      | error e =>
          rw [route_of_refused hprepared]
          exact .refl hs
      | ok prepared =>
          obtain ⟨bound, request⟩ := prepared
          obtain ⟨hservice, hevicted, -⟩ := of_mayUse (of_mayRoute hroute hprepared)
          rw [route_of_prepared hprepared]
          exact .routed hs (hd.routes name bound (get?_of_prepare hprepared)) hevicted hservice hname
  | routeMany name text times heldName =>
      obtain ⟨hroute, hnames⟩ := Bool.and_eq_true_iff.mp h
      dsimp only [run]
      cases hprepared : s.prepare name text with
      | error e =>
          rw [routeMany_of_refused hprepared]
          exact .refl hs
      | ok prepared =>
          obtain ⟨bound, request⟩ := prepared
          obtain ⟨hservice, hevicted, -⟩ := of_mayUse (of_mayRoute hroute hprepared)
          rw [routeMany_of_prepared hprepared]
          refine .routeTimes hs (hd.routes name bound (get?_of_prepare hprepared)) hevicted hservice ?_
          intro k hk
          rw [Nat.zero_add]
          exact List.all_eq_true.mp hnames k (List.mem_range.mpr hk)
  | select name service text heldName =>
      obtain ⟨hroute, hname⟩ := Bool.and_eq_true_iff.mp h
      dsimp only [run]
      cases hprepared : s.prepare name text with
      | error e =>
          rw [select_of_refused hprepared]
          exact .refl hs
      | ok prepared =>
          obtain ⟨bound, request⟩ := prepared
          obtain ⟨hservice, hevicted, -⟩ := of_mayUse (of_mayRoute hroute hprepared)
          rw [select_of_prepared hprepared]
          exact .selected hs (hd.routes name bound (get?_of_prepare hprepared)) hevicted hname hservice
  | choose algorithm service policy request records times =>
      cases algorithm with
      | none => cases h
      | some algorithm =>
          obtain ⟨hservice, -⟩ := Bool.and_eq_true_iff.mp h
          simp only [run]
          split
          · rename_i chooser hchooser
            obtain ⟨a, -, hrule⟩ := rule_of_chooser? hd hchooser
            exact .choose hs hrule (beq_iff_eq.mp hservice) policy request records times
          · exact .refl hs
  | openConnection name record =>
      obtain ⟨hname, hrecord⟩ := Bool.and_eq_true_iff.mp h
      exact .openConnection hs (beq_iff_eq.mp hname) hrecord
  | release name => exact .release hs (beq_iff_eq.mp h)
  | parts name => exact .parts hs (beq_iff_eq.mp h)
  | exchange name ending => exact .exchange hs (beq_iff_eq.mp h) ending
  | observe service records =>
      obtain ⟨hservice, hrecords⟩ := Bool.and_eq_true_iff.mp h
      exact .of_registry hs (.single (a := .observe service records)
        ⟨beq_iff_eq.mp hservice, List.all_eq_true.mp hrecords⟩)
  | status record => exact .of_registry hs (.single (a := .status record) h)
  | connect record times => exact .connect hs h times
  | disconnect id => exact .close hs (beq_iff_eq.mp h)
  | mark id health => exact .of_registry hs (.single (a := .mark id health) (beq_iff_eq.mp h))
  | markInTurn id times => exact .markInTurn hs (beq_iff_eq.mp h) true none times
  | evict id => exact .of_registry hs (.single (a := .evict id) (beq_iff_eq.mp h))
  | add record => exact .of_balancer hs (.add hs.balancer h) _ _
  | remove service id => exact .of_balancer hs (.remove hs.balancer (beq_iff_eq.mp h) id) _ _
  | replace service records =>
      obtain ⟨hservice, hrecords⟩ := Bool.and_eq_true_iff.mp h
      exact .of_balancer hs
        (.replace hs.balancer (beq_iff_eq.mp hservice) (List.all_eq_true.mp hrecords)) _ _
  | matching request set =>
      refine .of_registry hs (Balancer.leads_matching request ?_ _)
      intro rule hrule id hid
      exact evicted_of_mayAsk h id (List.mem_filterMap.mpr ⟨rule, hrule, hid⟩)
  | time name tags nanos =>
      refine .of_balancer hs (.of_sink hs.balancer [.time name tags nanos] ?_) _ _
      intro _ m hm
      rw [List.mem_singleton.mp hm]
      exact Side.unread_time name tags nanos
  | follow script => exact .of_balancer hs (.of_aside hs.balancer script _ _ _ _) _ _
  | watch name => exact .of_balancer hs (.refl hs.balancer) _ _
  | serviceChanges name =>
      simp only [run, Session.serviceChanges]
      split
      · exact .of_balancer hs (.refl hs.balancer) _ _
      · exact .refl hs
  | slept => exact .of_balancer hs (.refl hs.balancer) _ _
  | seen => exact .of_balancer hs (.of_aside hs.balancer _ [] _ _ _) _ _

/-- Every step of a side keeps the sides apart. -/
theorem apart_run [Url.DomainNames] {t : SessionStep} (h : side.admits ours s t = true) :
    (t.run s).Apart side := by
  cases t with
  | bind name policy =>
      simp only [run, Session.bind]
      split
      · exact ⟨hs.balancer, hs.held, hs.readers⟩
      · exact hs
  | count name tags n => exact ⟨⟨hs.balancer.registry, hs.balancer.lists⟩, hs.held, hs.readers⟩
  | clearMetrics => exact ⟨⟨hs.balancer.registry, hs.balancer.lists⟩, hs.held, hs.readers⟩
  | subscribe name => exact ⟨hs.balancer, hs.held, hs.joined name⟩
  | healthChanges name =>
      simp only [run, Session.healthChanges]
      split
      · exact ⟨hs.balancer, hs.held, hs.joined name⟩
      · exact hs
  | _ => exact (sided_run hs hd rfl h).apart hs

end Run

end SessionStep

end LoadBalancer

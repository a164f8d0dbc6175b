import Mathlib
import LoadBalancer.Proofs.Balancer.Plain
import LoadBalancer.Proofs.Session.Composition
import LoadBalancer.Proofs.Session.Move

/-!
# Two sessions, one with plain algorithms

What is done with two sessions of which the second one has bound its routes with the plain algorithms has the
same answer in both, as long as one cursor does not have to do for two.

* `Session.Plainer` – a session is another one whose routes were bound with the plain algorithms;
* `Session.Plainer.hold`, `release`, `exchange` and others – connections;
* `Suits`, `Spares` – an algorithm may be used for a service by a route, or directly;
* `Session.routings` – a named route with the service that it is used for;
* `Session.Plainer.route`, `select`, `routeMany`, `choose` – **selecting**.
-/

namespace LoadBalancer

variable {weighted : String → Bool}

namespace Session

/-! ### Two sessions -/

/-- The second session is the first one, but for its balancer, and for its routes, which go by the plain
algorithms. Each of them has the default chooser of its algorithm. -/
structure Plainer (weighted : String → Bool) (s s' : Session) : Prop where
  balancer : Balancer.Plainer weighted s.balancer s'.balancer
  routes : ∀ name, s'.routes.get? name = (s.routes.get? name).map BoundRoute.plain
  choosers : ∀ name bound, s.routes.get? name = some bound →
    bound.chooser = .ofAlgorithm bound.algorithm
  held : s'.held = s.held
  healthReaders : s'.healthReaders = s.healthReaders
  serviceReaders : s'.serviceReaders = s.serviceReaders
  askedAt : s'.askedAt = s.askedAt

variable {s s' : Session}

namespace Plainer

variable (h : Plainer weighted s s')

include h

theorem onBalancer {b b' : Balancer} (hb : Balancer.Plainer weighted b b') :
    Plainer weighted { s with balancer := b } { s' with balancer := b' } :=
  { h with balancer := hb }

theorem registry : s'.balancer.registry = s.balancer.registry := h.balancer.registry

theorem discovery : s'.balancer.discovery = s.balancer.discovery := by rw [h.balancer.rest]

theorem held? (name : String) : s'.held? name = s.held? name := by
  unfold Session.held?
  rw [h.held]

theorem selection? (name : String) : s'.selection? name = s.selection? name := by
  unfold Session.selection?
  rw [h.held]

theorem withHeld (held : Table String Held) :
    Plainer weighted { s with held } { s' with held } :=
  { h with held := rfl }

theorem forget (name : String) : Plainer weighted (s.forget name) (s'.forget name) := by
  unfold Session.forget
  rw [h.held]
  exact h.withHeld _

theorem onRegistry {α : Type} (f : Registry → α × Registry) :
    Twin (Plainer weighted) (s.onRegistry f) (s'.onRegistry f) := by
  unfold Session.onRegistry
  rw [h.registry]
  exact .intro _ (h.onBalancer (h.balancer.onRegistry _))

theorem onDiscovery {α : Type} (f : Discovery → α × Discovery) :
    Twin (Plainer weighted) (s.onDiscovery f) (s'.onDiscovery f) := by
  have hrest := congrArg
    (fun t : Balancer => { t with discovery := (f s.balancer.discovery).2 }) h.balancer.rest
  unfold Session.onDiscovery
  rw [h.discovery]
  exact .intro _ (h.onBalancer { h.balancer with rest := hrest })

/-! ### Connections -/

theorem close (id : String) : Twin (Plainer weighted) (s.close id) (s'.close id) := by
  obtain ⟨hanswer, hafter⟩ := h.balancer.disconnect id
  exact ⟨hanswer, h.onBalancer hafter⟩

theorem hold (name : String) (value : Held) :
    Plainer weighted (s.hold name value) (s'.hold name value) := by
  unfold Session.hold
  rw [h.held]
  cases s.held.get? name with
  | none =>
      dsimp only
      rw [h.held]
      exact h.withHeld _
  | some old =>
      have hclosed := (h.close old.id).2
      dsimp only
      rw [hclosed.held]
      exact hclosed.withHeld _

theorem keep (name : Option String) (record : Instance) :
    Plainer weighted (s.keep name record) (s'.keep name record) := by
  cases name with
  | none => exact (h.close record.id).2
  | some name => exact h.hold name _

theorem settle (name : Option String) (record : Instance) :
    Twin (Plainer weighted) (s.settle name record) (s'.settle name record) := by
  refine ⟨?_, h.keep name record⟩
  simp only [Session.settle, h.registry]

theorem release (name : String) : Twin (Plainer weighted) (s.release name) (s'.release name) := by
  unfold Session.release
  rw [h.held?]
  cases s.held? name with
  | error e => exact .intro _ h
  | ok held => exact ((h.forget name).close held.id).map Except.ok

theorem parts (name : String) : Twin (Plainer weighted) (s.parts name) (s'.parts name) := by
  unfold Session.parts
  rw [h.selection?, h.held]
  cases s.selection? name with
  | error e => exact .intro _ h
  | ok selection => exact .intro _ (h.withHeld _)

theorem exchange (name : String) (ending : Ending) :
    Twin (Plainer weighted) (s.exchange name ending) (s'.exchange name ending) := by
  unfold Session.exchange
  rw [h.selection?, h.registry]
  cases s.selection? name with
  | error e => exact .intro _ h
  | ok selection =>
      have hlater := h.onBalancer (h.balancer.later ending.duration)
      exact .intro _ ((hlater.forget name).close selection.1.id).2

theorem openConnection (name : String) (record : Instance) :
    Plainer weighted (s.openConnection name record) (s'.openConnection name record) :=
  (h.onBalancer (h.balancer.connect record).2).hold name ⟨record.id, none⟩

theorem connect (record : Instance) (times : Nat) :
    Twin (Plainer weighted) (s.connect record times) (s'.connect record times) := by
  induction times generalizing s s' with
  | zero => exact ⟨congrArg (fun r => r.connections record.id) h.registry, h⟩
  | succ times ih => exact ih (h.onBalancer (h.balancer.connect record).2)

theorem markInTurn (id : String) (alive : Bool) (last : Option Health) (times : Nat) :
    Twin (Plainer weighted) (s.markInTurn id alive last times) (s'.markInTurn id alive last times) := by
  induction times generalizing s s' alive last with
  | zero => exact .intro last h
  | succ times ih =>
      obtain ⟨hanswer, hafter⟩ := h.onRegistry (·.mark id (Health.ofVerdict (some alive)))
      have hlater := ih hafter (!alive) (s'.mark id (Health.ofVerdict (some alive))).1
      simp only [Session.markInTurn]
      rw [show (s.mark id (Health.ofVerdict (some alive))).1 =
        (s'.mark id (Health.ofVerdict (some alive))).1 from hanswer.symm]
      exact hlater

/-! ### What has happened -/

theorem subscribe (name : String) : Plainer weighted (s.subscribe name) (s'.subscribe name) := by
  refine { h with healthReaders := ?_ }
  unfold Session.subscribe
  rw [h.healthReaders, h.registry]

theorem healthChanges (name : String) :
    Twin (Plainer weighted) (s.healthChanges name) (s'.healthChanges name) := by
  unfold Session.healthChanges
  rw [h.healthReaders, h.registry]
  cases s.healthReaders.get? name with
  | none => exact .intro _ h
  | some r => exact .intro _ { h with healthReaders := rfl }

theorem watch (name : String) : Plainer weighted (s.watch name) (s'.watch name) := by
  refine { h with serviceReaders := ?_ }
  unfold Session.watch
  rw [h.serviceReaders, h.discovery]

theorem serviceChanges (name : String) :
    Twin (Plainer weighted) (s.serviceChanges name) (s'.serviceChanges name) := by
  unfold Session.serviceChanges
  rw [h.serviceReaders, h.discovery]
  cases s.serviceReaders.get? name with
  | none => exact .intro _ h
  | some r => exact .intro _ { h with serviceReaders := rfl }

theorem slept : Twin (Plainer weighted) s.slept s'.slept := by
  have hclock : s'.balancer.clock = s.balancer.clock := by rw [h.balancer.rest]
  unfold Session.slept
  rw [hclock, h.askedAt]
  exact .intro _ { h with askedAt := rfl }

theorem seen : Twin (Plainer weighted) s.seen s'.seen := by
  have hseen : s'.balancer.seen = s.balancer.seen := by rw [h.balancer.rest]
  have hrest := congrArg (fun t : Balancer => { t with seen := [] }) h.balancer.rest
  refine ⟨?_, h.onBalancer { h.balancer with rest := hrest }⟩
  unfold Session.seen
  rw [hseen]

/-! ### Rules, measurements and scripts -/

theorem matching (request : Request) (set : String) :
    Twin (Plainer weighted) (s.matching request set) (s'.matching request set) := by
  have hrules : s'.balancer.rules = s.balancer.rules := by rw [h.balancer.rest]
  unfold Session.matching
  rw [hrules]
  exact h.onRegistry _

theorem clearMetrics : Plainer weighted s.clearMetrics s'.clearMetrics := by
  have hrest := congrArg
    (fun t : Balancer => { t with sink := s'.balancer.sink.clear }) h.balancer.rest
  exact h.onBalancer { h.balancer with rest := hrest, sink := h.balancer.sink.clear }

theorem follow (script : List ScriptedPick) : Plainer weighted (s.follow script) (s'.follow script) := by
  have hrest := congrArg (fun t : Balancer => { t with script }) h.balancer.rest
  exact h.onBalancer { h.balancer with rest := hrest }

/-! ### Routes -/

theorem route? (name : String) : s'.route? name = (s.route? name).map BoundRoute.plain := by
  unfold Session.route?
  rw [h.routes]
  cases s.routes.get? name <;> rfl

theorem prepare [Url.DomainNames] (name : String) (text : RequestText) :
    s'.prepare name text = (s.prepare name text).map fun p => (p.1.plain, p.2) := by
  unfold Session.prepare
  rw [h.route?]
  cases s.route? name with
  | error e => rfl
  | ok bound => cases request? text <;> rfl

theorem bind (name : String) (policy : Policy) :
    (s'.bind name policy.plain).1 = (s.bind name policy).1.map BoundRoute.plain ∧
      Plainer weighted (s.bind name policy).2 (s'.bind name policy.plain).2 := by
  have hbind : ∀ t : Balancer, (∀ a, t.choosers.resolve a = .ok (.ofAlgorithm a)) → ∀ p : Policy,
      t.bind p = p.validate.map fun _ => ⟨p, .ofAlgorithm p.algorithm⟩ := by
    intro t ht p
    unfold Balancer.bind
    rw [ht]
    cases p.validate <;> rfl
  have hchoosers : ∀ a, s'.balancer.choosers.resolve a = .ok (.ofAlgorithm a) := by
    rw [h.balancer.rest]
    exact h.balancer.choosers
  unfold Session.bind
  rw [hbind s.balancer h.balancer.choosers, hbind s'.balancer hchoosers,
    show policy.plain.validate = policy.validate from rfl]
  cases policy.validate with
  | error e => exact ⟨rfl, h⟩
  | ok valid =>
      refine ⟨rfl, { h with routes := ?_, choosers := ?_ }⟩
      · intro other
        simp only [Except.map, Table.get?_put]
        split
        · rfl
        · exact h.routes other
      · intro other bound hget
        simp only [Except.map, Table.get?_put] at hget
        split at hget
        · cases hget
          rfl
        · exact h.choosers other bound hget

end Plainer

end Session

/-! ### Algorithms and services -/

/-- A route of the algorithm may be used for the service: turns are weighted for services with weighted
turns, and for no others. -/
def Suits (weighted : String → Bool) (e : Algorithm × String) : Prop :=
  (e.1 = .roundRobin → weighted e.2 = false) ∧ (e.1 = .weightedRoundRobin → weighted e.2 = true)

/-- The chooser of the algorithm may be asked about the service directly: for services with weighted turns
it does not pick in turn. -/
def Spares (weighted : String → Bool) (e : Algorithm × String) : Prop :=
  e.1 = .roundRobin ∨ e.1 = .weightedRoundRobin → weighted e.2 = false

namespace Session

/-- The algorithm of a named route, and the service that a request is for, if it is for one. -/
def routings [Url.DomainNames] (s : Session) (name : String) (text : RequestText)
    (service? : Request → Option String) : List (Algorithm × String) :=
  match s.prepare name text with
  | .ok (bound, request) => (service? request).toList.map (bound.algorithm, ·)
  | .error _ => []

variable {s s' : Session}

theorem mem_routings [Url.DomainNames] {name : String} {text : RequestText}
    {service? : Request → Option String}
    {bound : BoundRoute} {request : Request} (hprepared : s.prepare name text = .ok (bound, request))
    {service : String} (hservice : service? request = some service) :
    (bound.algorithm, service) ∈ s.routings name text service? := by
  unfold routings
  rw [hprepared]
  simp [hservice]

namespace Plainer

variable (h : Plainer weighted s s')

include h

/-- The chooser of a route is followed by that of the plain one. -/
theorem follows [Url.DomainNames] {name : String} {text : RequestText}
    {service? : Request → Option String}
    {bound : BoundRoute} {request : Request} (hprepared : s.prepare name text = .ok (bound, request))
    (hsuits : ∀ e ∈ s.routings name text service?, Suits weighted e) {service : String}
    (hservice : service? request = some service) :
    Chooser.Follows weighted service bound.chooser bound.plain.chooser := by
  obtain ⟨hplain, hweighted⟩ := hsuits _ (mem_routings hprepared hservice)
  rw [h.choosers name bound (get?_of_prepare hprepared)]
  exact Chooser.follows_plain hplain hweighted

/-- A chooser that is asked directly is followed by itself. -/
theorem follows_self {algorithm : Option String} {service : String} {chooser : Chooser}
    (hfound : s.chooser? algorithm = .ok chooser)
    (hspares : ∀ name a, algorithm = some name → Algorithm.read name = .ok a →
      Spares weighted (a, service)) :
    Chooser.Follows weighted service chooser chooser := by
  cases algorithm with
  | none =>
      -- the chooser of the script
      cases hfound
      exact Chooser.follows_of_ne (by rintro ⟨⟩)
  | some name =>
      simp only [chooser?, Bind.bind, Except.bind] at hfound
      split at hfound
      · cases hfound
      · rename_i a hread
        rw [h.balancer.choosers] at hfound
        cases hfound
        exact Chooser.follows_self (hspares name a rfl hread)

/-! ### Selecting -/

theorem routed (heldName : Option String) (result : Except Failure Instance × Request) :
    Twin (Plainer weighted) (Session.routed heldName result s) (Session.routed heldName result s') := by
  obtain ⟨f | record, request⟩ := result
  · exact .intro _ h
  · exact (h.settle heldName record).map fun chosen =>
      Except.ok (Except.ok chosen, request.target)

theorem selected (heldName : Option String) (result : Except Failure Instance) :
    Twin (Plainer weighted) (Session.selected heldName result s)
      (Session.selected heldName result s') := by
  cases result with
  | error f => exact .intro _ h
  | ok record => exact (h.settle heldName record).map Except.ok

theorem keepChosen (heldName : Option String) (result : Except Failure Instance) :
    Plainer weighted (Session.keepChosen heldName result s) (Session.keepChosen heldName result s') := by
  cases result with
  | error f => exact h
  | ok record => exact h.keep heldName record

theorem route [Url.DomainNames] {name : String} {text : RequestText} (heldName : Option String)
    (hsuits : ∀ e ∈ s.routings name text Request.service?, Suits weighted e) :
    Twin (Plainer weighted) (s.route name text heldName) (s'.route name text heldName) := by
  have hprepare := h.prepare name text
  cases hprepared : s.prepare name text with
  | error e =>
      rw [hprepared] at hprepare
      rw [route_of_refused hprepared, route_of_refused hprepare]
      exact .intro _ h
  | ok prepared =>
      obtain ⟨bound, request⟩ := prepared
      rw [hprepared] at hprepare
      obtain ⟨hresult, hafter⟩ :=
        h.balancer.route fun service hservice => h.follows hprepared hsuits hservice
      rw [route_of_prepared hprepared, route_of_prepared hprepare]
      dsimp only at hresult ⊢
      rw [hresult]
      exact (h.onBalancer hafter).routed heldName _

theorem select [Url.DomainNames] {name : String} {text : RequestText} (service : String)
    (heldName : Option String)
    (hsuits : ∀ e ∈ s.routings name text fun _ => some service, Suits weighted e) :
    Twin (Plainer weighted) (s.select name service text heldName)
      (s'.select name service text heldName) := by
  have hprepare := h.prepare name text
  cases hprepared : s.prepare name text with
  | error e =>
      rw [hprepared] at hprepare
      rw [select_of_refused hprepared, select_of_refused hprepare]
      exact .intro _ h
  | ok prepared =>
      obtain ⟨bound, request⟩ := prepared
      rw [hprepared] at hprepare
      obtain ⟨hresult, hafter⟩ := h.balancer.select request (h.follows hprepared hsuits rfl)
      rw [select_of_prepared hprepared, select_of_prepared hprepare]
      dsimp only at hresult ⊢
      rw [hresult]
      exact (h.onBalancer hafter).selected heldName _

/-- By induction on how often a request is routed. -/
theorem routeTimes [Url.DomainNames] {bound : BoundRoute} {request : Request} (name : Nat → Option String)
    (n i : Nat) (hc : n ≠ 0 → ∀ service, request.service? = some service →
      Chooser.Follows weighted service bound.chooser bound.plain.chooser) :
    Twin (Plainer weighted) (Session.routeTimes bound request name n i s)
      (Session.routeTimes bound.plain request name n i s') := by
  induction n generalizing i s s' with
  | zero => exact .intro [] h
  | succ n ih =>
      obtain ⟨hresult, hafter⟩ := h.balancer.route (hc (Nat.succ_ne_zero n))
      obtain ⟨hchosen, -⟩ := Prod.mk.inj hresult
      have hkept := (h.onBalancer hafter).keepChosen (name i) (s.balancer.route request bound).1
      obtain ⟨hlater, hend⟩ := ih hkept (i + 1) fun _ => hc (Nat.succ_ne_zero n)
      rw [routeTimes_succ, routeTimes_succ]
      dsimp only at hchosen ⊢
      rw [hchosen]
      exact ⟨congrArg₂ List.cons rfl hlater, hend⟩

theorem routeMany [Url.DomainNames] {name : String} {text : RequestText} (times : Nat)
    (heldName : Nat → Option String)
    (hsuits : times ≠ 0 → ∀ e ∈ s.routings name text Request.service?, Suits weighted e) :
    Twin (Plainer weighted) (s.routeMany name text times heldName)
      (s'.routeMany name text times heldName) := by
  have hprepare := h.prepare name text
  cases hprepared : s.prepare name text with
  | error e =>
      rw [hprepared] at hprepare
      rw [routeMany_of_refused hprepared, routeMany_of_refused hprepare]
      exact .intro _ h
  | ok prepared =>
      obtain ⟨bound, request⟩ := prepared
      rw [hprepared] at hprepare
      rw [routeMany_of_prepared hprepared, routeMany_of_prepared hprepare]
      exact (h.routeTimes heldName times 0 fun htimes service hservice =>
        h.follows hprepared (hsuits htimes) hservice).map Except.ok

/-- By induction on how often the chooser is asked. -/
theorem choose {chooser : Chooser} {service : String} (policy : Policy) (request : Request)
    (records : List Instance) (times : Nat)
    (hc : times ≠ 0 → Chooser.Follows weighted service chooser chooser) :
    Twin (Plainer weighted) (s.choose chooser service policy request records times)
      (s'.choose chooser service policy request records times) := by
  induction times generalizing s s' with
  | zero => exact .intro [] h
  | succ times ih =>
      obtain ⟨hresult, hafter⟩ := h.balancer.choose (hc (Nat.succ_ne_zero times)) policy
        policy.algorithm request (unseen records)
      obtain ⟨hlater, hend⟩ := ih (h.onBalancer hafter) fun _ => hc (Nat.succ_ne_zero times)
      rw [choose_succ, choose_succ]
      exact ⟨congrArg₂ List.cons hresult hlater, hend⟩

end Plainer

end Session

end LoadBalancer

import Mathlib
import LoadBalancer.Proofs.Balancer.Calls
import LoadBalancer.Proofs.Session.Composition
import LoadBalancer.Proofs.Session.Move

/-!
# Calls of choosers in a session

* `SessionStep.calls`, `SessionStep.callsAll` – the calls of a step, and of a run of steps;
* `Session.through_run`, `Session.through_runAll` – cursors move in these calls only;
* `Session.Reachable.sound_of_mem_calls` – every chooser finds a sound registry.
-/

namespace LoadBalancer

namespace Session

open Balancer

/-! ### Calls -/

/-- The calls of a request that is routed several times. -/
def routeTimesCalls [Url.DomainNames] (bound : BoundRoute) (request : Request)
    (name : Nat → Option String) : (n i : Nat) → Session → List Call
  | 0, _, _ => []
  | n + 1, i, s =>
    let answer := s.balancer.route request bound
    s.balancer.routeCalls request bound ++
      routeTimesCalls bound request name n (i + 1)
        (keepChosen (name i) answer.1 { s with balancer := answer.2.2 })

/-- The calls of a chooser that is called several times. -/
def chooseCalls (s : Session) (chooser : Chooser) (service : String) (policy : Policy)
    (request : Request) (records : List Instance) : (times : Nat) → List Call
  | 0 => []
  | times + 1 =>
    let call : Call := ⟨s.balancer, chooser, service, policy, request, unseen records⟩
    call :: chooseCalls { s with balancer := call.answered.2 } chooser service policy request records times

end Session

namespace SessionStep

/-- The calls of a step. -/
def calls [Url.DomainNames] (s : Session) : SessionStep → List Call
  | .route name text _ =>
    match s.prepare name text with
    | .ok (bound, request) => s.balancer.routeCalls request bound
    | .error _ => []
  | .routeMany name text times heldName =>
    match s.prepare name text with
    | .ok (bound, request) => Session.routeTimesCalls bound request heldName times 0 s
    | .error _ => []
  | .select name service text _ =>
    match s.prepare name text with
    | .ok (bound, request) => s.balancer.selectCalls service request bound
    | .error _ => []
  | .choose algorithm service policy request records times =>
    match s.chooser? algorithm with
    | .ok chooser => s.chooseCalls chooser service policy request records times
    | .error _ => []
  | _ => []

/-- The calls of steps in turn. -/
def callsAll [Url.DomainNames] (s : Session) : List SessionStep → List Call
  | [] => []
  | t :: rest => t.calls s ++ callsAll (t.run s) rest

end SessionStep

namespace Session

open Balancer

variable (s : Session)

/-! ### Connections -/

theorem through_hold (name : String) (h : Held) :
    Through s.balancer [] (s.hold name h).balancer := by
  unfold hold
  cases s.held.get? name with
  | none => exact .refl _
  | some old => exact through_disconnect s.balancer old.id

theorem through_keep (name : Option String) (record : Instance) :
    Through s.balancer [] (s.keep name record).balancer := by
  cases name with
  | none => exact through_disconnect s.balancer record.id
  | some name => exact through_hold s name ⟨record.id, some record⟩

theorem through_keepChosen (name : Option String) (result : Except Failure Instance) :
    Through s.balancer [] (keepChosen name result s).balancer := by
  cases result with
  | error f => exact .refl _
  | ok record => exact through_keep s name record

theorem through_connect (record : Instance) (times : Nat) :
    Through s.balancer [] (s.connect record times).2.balancer := by
  induction times generalizing s with
  | zero => exact .refl _
  | succ times ih =>
    exact (ih { s with balancer := (s.balancer.connect record).2 }).before
      (s.balancer.through_connect record)

/-! ### Selecting -/

theorem through_routeTimes [Url.DomainNames] (bound : BoundRoute) (request : Request)
    (name : Nat → Option String) (n i : Nat) :
    Through s.balancer (routeTimesCalls bound request name n i s)
      (routeTimes bound request name n i s).2.balancer := by
  induction n generalizing i s with
  | zero => exact .refl _
  | succ n ih =>
    rw [routeTimes_succ]
    have hkept := through_keepChosen
      { s with balancer := (s.balancer.route request bound).2.2 } (name i)
      (s.balancer.route request bound).1
    exact (through_route s.balancer request bound).trans (hkept.trans (ih _ (i + 1)))

theorem through_choose (chooser : Chooser) (service : String) (policy : Policy) (request : Request)
    (records : List Instance) (times : Nat) :
    Through s.balancer (s.chooseCalls chooser service policy request records times)
      (s.choose chooser service policy request records times).2.balancer := by
  induction times generalizing s with
  | zero => exact .refl _
  | succ times ih =>
    rw [choose_succ]
    let call : Call := ⟨s.balancer, chooser, service, policy, request, unseen records⟩
    exact Through.trans (.call call) (ih { s with balancer := call.answered.2 })

theorem through_routed (name : Option String) (result : Except Failure Instance × Request) :
    Through s.balancer [] (routed name result s).2.balancer := by
  obtain ⟨f | record, request⟩ := result
  · exact .refl _
  · exact through_keep s name record

theorem through_selected (name : Option String) (result : Except Failure Instance) :
    Through s.balancer [] (selected name result s).2.balancer := by
  cases result with
  | error f => exact .refl _
  | ok record => exact through_keep s name record

/-! ### All steps -/

/-- A step on the registry alone. -/
theorem through_act (a : RegistryAction) :
    Through s.balancer [] { s.balancer with registry := (RegistryAction.run s.balancer.registry a).1 } :=
  .quiet (fun hr => Registry.sound_run hr a) rfl

theorem through_markInTurn (id : String) (alive : Bool) (last : Option Health) (times : Nat) :
    Through s.balancer [] (s.markInTurn id alive last times).2.balancer := by
  induction times generalizing s alive last with
  | zero => exact .refl _
  | succ times ih =>
    have hmarked := through_act s (.mark id (Health.ofVerdict (some alive)))
    exact (ih (s.mark id (Health.ofVerdict (some alive))).2 _ _).before hmarked

/-- **In every step, cursors move in its calls only.** -/
theorem through_run [Url.DomainNames] (t : SessionStep) : Through s.balancer (t.calls s)
    (t.run s).balancer := by
  cases t with
  | bind name policy =>
    simp only [SessionStep.run, SessionStep.calls, bind]
    split <;> exact .refl _
  | route name text heldName =>
    simp only [SessionStep.run, SessionStep.calls]
    cases hprepared : s.prepare name text with
    | error e =>
      rw [route_of_refused hprepared]
      exact .refl _
    | ok prepared =>
      obtain ⟨bound, request⟩ := prepared
      rw [route_of_prepared hprepared]
      let answer := s.balancer.route request bound
      have hkept := through_routed { s with balancer := answer.2.2 } heldName (answer.1, answer.2.1)
      exact (through_route s.balancer request bound).after hkept
  | routeMany name text times heldName =>
    simp only [SessionStep.run, SessionStep.calls]
    cases hprepared : s.prepare name text with
    | error e =>
      rw [routeMany_of_refused hprepared]
      exact .refl _
    | ok prepared =>
      obtain ⟨bound, request⟩ := prepared
      rw [routeMany_of_prepared hprepared]
      exact through_routeTimes s bound request heldName times 0
  | select name service text heldName =>
    simp only [SessionStep.run, SessionStep.calls]
    cases hprepared : s.prepare name text with
    | error e =>
      rw [select_of_refused hprepared]
      exact .refl _
    | ok prepared =>
      obtain ⟨bound, request⟩ := prepared
      rw [select_of_prepared hprepared]
      let answer := s.balancer.select service request bound
      have hkept := through_selected { s with balancer := answer.2 } heldName answer.1
      exact (through_select s.balancer service request bound).after hkept
  | choose algorithm service policy request records times =>
    simp only [SessionStep.run, SessionStep.calls]
    cases s.chooser? algorithm with
    | error e => exact .refl _
    | ok chooser => exact through_choose s chooser service policy request records times
  | openConnection name record =>
    exact (through_hold { s with balancer := (s.balancer.connect record).2 } name
      ⟨record.id, none⟩).before (s.balancer.through_connect record)
  | release name =>
    simp only [SessionStep.run, SessionStep.calls, release]
    split
    · rename_i h hh
      exact through_disconnect s.balancer h.id
    · exact .refl _
  | parts name =>
    simp only [SessionStep.run, SessionStep.calls, parts]
    split <;> exact .refl _
  | exchange name ending =>
    simp only [SessionStep.run, SessionStep.calls, exchange]
    split
    · rename_i h record hh
      have hclosed := through_disconnect
        { s.balancer with clock := s.balancer.clock + ending.duration } h.id
      exact hclosed.before (.quiet (fun hr => hr) rfl)
    · exact .refl _
  | observe service records => exact through_act s (.observe service records)
  | status record => exact through_act s (.status record)
  | connect record times => exact through_connect s record times
  | disconnect id => exact through_disconnect s.balancer id
  | mark id health => exact through_act s (.mark id health)
  | markInTurn id times => exact through_markInTurn s id true none times
  | evict id => exact through_act s (.evict id)
  | matching request set => exact .quiet (Registry.Forgets.matching request _ _).sound rfl
  | healthChanges name =>
    simp only [SessionStep.run, SessionStep.calls, healthChanges]
    split <;> exact .refl _
  | serviceChanges name =>
    simp only [SessionStep.run, SessionStep.calls, serviceChanges]
    split <;> exact .refl _
  | _ => exact .quiet id rfl

/-- **In every run, cursors move in its calls only**, by induction on the steps. -/
theorem through_runAll [Url.DomainNames] (steps : List SessionStep) :
    Through s.balancer (SessionStep.callsAll s steps) (SessionStep.runAll s steps).balancer := by
  induction steps generalizing s with
  | nil => exact .refl _
  | cons t rest ih => exact (through_run s t).trans (ih (t.run s))

variable {s}

/-- Every chooser that is called in use finds a sound registry. -/
theorem Reachable.sound_of_mem_calls [Url.DomainNames] (h : s.Reachable) {t : SessionStep} {c : Call}
    (hc : c ∈ t.calls s) : c.balancer.registry.Sound :=
  ((through_run s t).sound h.sound).1 c hc

end Session

end LoadBalancer

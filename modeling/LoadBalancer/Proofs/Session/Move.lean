import Mathlib
import LoadBalancer.Proofs.Balancer.Effect
import LoadBalancer.Session.Step

/-!
# The moves that steps of a session are made of

Every step of a session comes apart into moves of a few kinds. In between, some connections are loose:
open, and held by nobody. An invariant of sessions has to be checked for the moves only.

* `Scope.AllowsStep`, `Session.Within` – steps and sessions whose strategies stay within a scope;
* `Session.Move`, `Session.Moves` – one move, and several, with the loose connections;
  `Session.moves_induction` carries an invariant from the one to the other;
* `Session.moves_run`, `Session.moves_runAll` – every step, and every run of steps, is made of moves,
  and leaves no connection loose;
* `Session.Reachable.runAll` – sessions in use stay in use;
* `Session.Reachable.sound`, `Session.Reachable.within` – what follows for all of them.
-/

namespace LoadBalancer

/-! ### Choosers within a scope -/

-- reading a name is not to be computed here
attribute [local irreducible] Choosers.registerNamed in
theorem Choosers.registerAll_cons (c : Choosers) (e : String × Strategy) (rest : List (String × Strategy)) :
    (c.registerAll (e :: rest)).2 = match c.registerNamed e.1 e.2 with
      | .ok c => (c.registerAll rest).2
      | .error _ => (c.registerAll rest).2 := by
  change Prod.snd (match c.registerNamed e.1 e.2 with
    | .ok c => (Except.ok () :: (c.registerAll rest).1, (c.registerAll rest).2)
    | .error f => (Except.error f :: (c.registerAll rest).1, (c.registerAll rest).2)) = _
  cases c.registerNamed e.1 e.2 with
  | ok c => rfl
  | error f => rfl

namespace Scope

variable {S : Scope}

/-- All choosers stay within the scope. -/
structure AllowsChoosers (S : Scope) (c : Choosers) : Prop where
  installed : ∀ a chooser, c.byAlgorithm.get? a = some chooser → S.AllowsRule chooser.rule
  fallback : ∀ chooser, c.fallback = some chooser → S.AllowsRule chooser.rule

theorem AllowsChoosers.resolve {c : Choosers} (h : S.AllowsChoosers c) {a : Algorithm}
    {chooser : Chooser} (hc : c.resolve a = .ok chooser) : S.AllowsRule chooser.rule := by
  unfold Choosers.resolve at hc
  split at hc
  · rename_i other heq
    cases hc
    rcases Option.or_eq_some_iff.mp heq with hfound | ⟨-, hfallback⟩
    · exact h.installed a chooser hfound
    · exact h.fallback chooser hfallback
  · cases hc

theorem AllowsChoosers.install {c : Choosers} (h : S.AllowsChoosers c) {s : Strategy}
    (hs : S.AllowsRule s.rule) (a : Algorithm) : S.AllowsChoosers (c.install a s) := by
  refine ⟨?_, h.fallback⟩
  intro a' chooser hget
  simp only [Choosers.install, Table.get?_put] at hget
  split at hget
  · cases hget
    exact hs
  · exact h.installed a' chooser hget

theorem AllowsChoosers.registerAll {entries : List (String × Strategy)} {c : Choosers}
    (h : S.AllowsChoosers c) (hs : ∀ e ∈ entries, S.AllowsRule e.2.rule) :
    S.AllowsChoosers (c.registerAll entries).2 := by
  induction entries generalizing c with
  | nil => exact h
  | cons e rest ih =>
      have hrest : ∀ e ∈ rest, S.AllowsRule e.2.rule :=
        fun e he => hs e (List.mem_cons_of_mem _ he)
      rw [Choosers.registerAll_cons]
      split
      · rename_i c' heq
        refine ih ?_ hrest
        simp only [Choosers.registerNamed, bind, Except.bind] at heq
        split at heq
        · cases heq
        · rename_i a ha
          unfold Choosers.register at heq
          split at heq
          · cases heq
          · cases heq
            exact h.install (hs e List.mem_cons_self) a
      · exact ih h hrest

/-- The choosers of a setup stay within the scope. -/
structure AllowsSetup (S : Scope) (setup : Setup) : Prop where
  choosers : S.AllowsChoosers setup.choosers
  registrations : ∀ e ∈ setup.registrations, S.AllowsRule e.2.rule

/-- A step stays within the scope: it opens and closes connections that nothing holds only as the
scope allows it, and so do the scripts that it lays down. Where no connection is closed, underflows are
not counted by hand either. -/
def AllowsStep (S : Scope) : SessionStep → Prop
  | .connect record _ => S.Allows (.connect record)
  | .disconnect id => S.Allows (.disconnect id)
  | .follow script => S.AllowsScript script
  | .count name _ _ => S.NeverCloses → name ≠ Metric.counterUnderflow
  | _ => True

theorem allowsSetup_any (setup : Setup) : any.AllowsSetup setup :=
  ⟨⟨fun _ _ _ => allowsRule_any _, fun _ _ => allowsRule_any _⟩, fun _ _ => allowsRule_any _⟩

theorem allowsStep_any (t : SessionStep) : any.AllowsStep t := by
  cases t with
  | follow script => exact allowsScript_any script
  | count name tags n => exact fun h => absurd trivial (h "")
  | _ => trivial

end Scope

/-- A run can be cut in two. -/
theorem SessionStep.runAll_append [Url.DomainNames] (s : Session) (before after : List SessionStep) :
    runAll s (before ++ after) = runAll (runAll s before) after := by
  induction before generalizing s with
  | nil => rfl
  | cons t rest ih => exact ih (t.run s)

namespace Session

open Balancer

/-! ### Sessions within a scope -/

/-- All that picks instances stays within a scope. Routes are valid, as they were when they were
bound. -/
structure Within (S : Scope) (s : Session) : Prop where
  choosers : S.AllowsChoosers s.balancer.choosers
  script : S.AllowsScript s.balancer.script
  routes : ∀ name route, s.routes.get? name = some route →
    route.policy.validate = .ok () ∧ S.AllowsRule route.chooser.rule

/-- In such a session, a rule within the scope stays there. -/
theorem Within.pick {S : Scope} {s : Session} (h : s.Within S) {rule : PickRule}
    (hrule : S.AllowsRule rule) : S.AllowsPick s.balancer.script rule :=
  ⟨fun _ => h.script, hrule⟩

/-- What binding a policy answers. -/
theorem of_bind_eq_ok {b : Balancer} {policy : Policy} {route : BoundRoute}
    (h : b.bind policy = .ok route) :
    route.policy.validate = .ok () ∧ b.choosers.resolve route.policy.algorithm = .ok route.chooser := by
  cases hv : policy.validate with
  | error e =>
      simp only [Balancer.bind, hv, Bind.bind, Except.bind] at h
      cases h
  | ok u =>
      cases hc : b.choosers.resolve policy.algorithm with
      | error e =>
          simp only [Balancer.bind, hv, hc, Bind.bind, Except.bind] at h
          cases h
      | ok chooser =>
          simp only [Balancer.bind, hv, hc, Bind.bind, Except.bind, pure, Except.pure] at h
          cases h
          exact ⟨hv, hc⟩

/-! ### Moves -/

/-- The smallest changes of a session, with the ids of the connections that are loose. -/
inductive Move (S : Scope) : List String × Session → List String × Session → Prop
  /-- Nothing but the balancer acts. -/
  | act {loose : List String} {s : Session} {b : Balancer} (h : Evolves S s.balancer b) :
      Move S (loose, s) (loose, { s with balancer := b })
  | script {loose : List String} {s : Session} {script : List ScriptedPick}
      (h : S.AllowsScript script) :
      Move S (loose, s) (loose, { s with balancer := { s.balancer with script } })
  | bind {loose : List String} {s : Session} {name : String} {policy : Policy} {route : BoundRoute}
      (h : s.balancer.bind policy = .ok route) :
      Move S (loose, s) (loose, { s with routes := s.routes.put name route })
  | connect {loose : List String} {s : Session} {record : Instance} :
      Move S (loose, s) (record.id :: loose, { s with balancer := (s.balancer.connect record).2 })
  | close {loose : List String} {s : Session} {id : String} :
      Move S (id :: loose, s) (loose, (s.close id).2)
  /-- What is held under a name comes loose. -/
  | take {loose : List String} {s : Session} {name : String} {h : Held}
      (hget : s.held.get? name = some h) : Move S (loose, s) (h.id :: loose, s.forget name)
  /-- A loose connection is held under a name that is free. -/
  | put {loose : List String} {s : Session} {name : String} {h : Held}
      (hget : s.held.get? name = none) :
      Move S (h.id :: loose, s) (loose, { s with held := s.held.put name h })
  /-- A loose connection takes the place of another one. -/
  | swap {loose : List String} {s : Session} {name : String} {h old : Held}
      (hget : s.held.get? name = some old) :
      Move S (h.id :: loose, s) (old.id :: loose, { s with held := s.held.put name h })
  /-- The instance of a held selection is given away. -/
  | strip {loose : List String} {s : Session} {name : String} {h : Held}
      (hget : s.held.get? name = some h) :
      Move S (loose, s) (loose, { s with held := s.held.put name { h with record := none } })
  | listen {loose : List String} {s : Session} {healthReaders serviceReaders : Table String Reader}
      {askedAt : Nat} :
      Move S (loose, s) (loose, { s with healthReaders, serviceReaders, askedAt })

/-- Several moves. -/
abbrev Moves (S : Scope) : List String × Session → List String × Session → Prop :=
  Relation.ReflTransGen (Move S)

/-- A move leaves the session within the scope. -/
theorem within_move {S : Scope} {loose loose' : List String} {s s' : Session}
    (h : Move S (loose, s) (loose', s')) (hw : s.Within S) : s'.Within S := by
  cases h with
  | act h =>
      refine ⟨?_, hw.script.of_suffix h.script, hw.routes⟩
      rw [h.choosers]
      exact hw.choosers
  | script h => exact ⟨hw.choosers, h, hw.routes⟩
  | bind h =>
      obtain ⟨hvalid, hresolve⟩ := of_bind_eq_ok h
      refine ⟨hw.choosers, hw.script, ?_⟩
      intro name' route' hget
      simp only [Table.get?_put] at hget
      split at hget
      · cases hget
        exact ⟨hvalid, hw.choosers.resolve hresolve⟩
      · exact hw.routes name' route' hget
  | close =>
      rename_i id
      have hclosed : Evolves Scope.any s.balancer (s.balancer.disconnect id).2 :=
        Evolves.disconnect trivial
      refine ⟨?_, hw.script.of_suffix hclosed.script, hw.routes⟩
      show S.AllowsChoosers (s.balancer.disconnect id).2.choosers
      rw [hclosed.choosers]
      exact hw.choosers
  | _ => exact ⟨hw.choosers, hw.script, hw.routes⟩

/-- **Invariants.**  What every move keeps is kept by several, by induction on them. -/
theorem moves_induction {S : Scope} {P : List String → Session → Prop}
    (hstep : ∀ {loose loose' s s'}, Move S (loose, s) (loose', s') → P loose s → P loose' s')
    {loose loose' : List String} {s s' : Session} (h : Moves S (loose, s) (loose', s'))
    (hs : P loose s) : P loose' s' := by
  suffices ∀ p, Moves S (loose, s) p → P p.1 p.2 from this _ h
  intro p hp
  induction hp with
  | refl => exact hs
  | tail _ hlast ih => exact hstep hlast ih

theorem within_moves {S : Scope} {loose loose' : List String} {s s' : Session}
    (h : Moves S (loose, s) (loose', s')) (hw : s.Within S) : s'.Within S :=
  moves_induction (P := fun _ s => s.Within S) within_move h hw

/-! ### What becomes of an open connection -/

section Held

variable {S : Scope} {loose : List String}

/-- A loose connection is held under a name; the one that was held there is closed. -/
theorem moves_hold (s : Session) (name : String) (h : Held) :
    Moves S (h.id :: loose, s) (loose, s.hold name h) := by
  unfold hold
  cases hget : s.held.get? name with
  | none => exact .single (.put hget)
  -- the old connection comes loose in the same move, so the order of names in the table stays
  | some old => exact .tail (.single (.swap hget)) .close

theorem moves_keep (s : Session) (name : Option String) (record : Instance) :
    Moves S (record.id :: loose, s) (loose, s.keep name record) := by
  cases name with
  | some name => exact moves_hold s name ⟨record.id, some record⟩
  | none => exact .single .close

/-- What is held under a name is closed. -/
theorem moves_forget_close (s : Session) {name : String} {h : Held}
    (hget : s.held.get? name = some h) :
    Moves S (loose, s) (loose, ((s.forget name).close h.id).2) :=
  .tail (.single (.take hget)) .close

theorem get?_of_held? {s : Session} {name : String} {h : Held} (hh : s.held? name = .ok h) :
    s.held.get? name = some h := by
  unfold held? at hh
  split at hh
  · rename_i other heq
    cases hh
    exact heq
  · cases hh

theorem get?_of_selection? {s : Session} {name : String} {h : Held} {record : Instance}
    (hh : s.selection? name = .ok (h, record)) : s.held.get? name = some h := by
  unfold selection? at hh
  split at hh
  · rename_i id other heq
    cases hh
    exact heq
  · cases hh

theorem moves_release (s : Session) (name : String) :
    Moves S (loose, s) (loose, (s.release name).2) := by
  unfold release
  split
  · rename_i h hh
    exact moves_forget_close s (get?_of_held? hh)
  · exact .refl

theorem moves_parts (s : Session) (name : String) :
    Moves S (loose, s) (loose, (s.parts name).2) := by
  unfold parts
  split
  · rename_i h record hh
    exact .single (.strip (get?_of_selection? hh))
  · exact .refl

theorem moves_exchange (s : Session) (name : String) (ending : Ending) :
    Moves S (loose, s) (loose, (s.exchange name ending).2) := by
  unfold exchange
  split
  · rename_i h record hh
    have hclock : Evolves S s.balancer
        { s.balancer with clock := s.balancer.clock + ending.duration } :=
      Evolves.of_eq rfl rfl rfl rfl
    refine .head (.act hclock) ?_
    exact moves_forget_close _ (get?_of_selection? (s := s) hh)
  · exact .refl

theorem moves_openConnection (s : Session) (name : String) (record : Instance) :
    Moves S (loose, s) (loose, s.openConnection name record) :=
  .head .connect (moves_hold _ name ⟨record.id, none⟩)

end Held

/-! ### Selecting -/

section Selecting

variable {S : Scope} {loose : List String} {s : Session}

/-- One connection is opened and comes loose. -/
theorem moves_opens {record : Instance} {b : Balancer} (h : Opens S s.balancer record b) :
    Moves S (loose, s) (record.id :: loose, { s with balancer := b }) := by
  obtain ⟨t, ht, hb⟩ := h
  exact .tail (.tail (.single (.act ht)) .connect) (.act hb)

variable (loose) in
/-- One call of a route, apart from what becomes of the connection. -/
theorem moves_route_ok [Url.DomainNames] (hw : s.Within S) {bound : BoundRoute}
    (hrule : S.AllowsRule bound.chooser.rule) {request : Request} {record : Instance}
    (h : (s.balancer.route request bound).1 = .ok record) :
    Moves S (loose, s)
      (record.id :: loose, { s with balancer := (s.balancer.route request bound).2.2 }) :=
  moves_opens (opens_route (hw.pick hrule) h)

variable (loose) in
theorem moves_route_error [Url.DomainNames] (hw : s.Within S) {bound : BoundRoute}
    (hrule : S.AllowsRule bound.chooser.rule) {request : Request} {f : Failure}
    (h : (s.balancer.route request bound).1 = .error f) :
    Moves S (loose, s) (loose, { s with balancer := (s.balancer.route request bound).2.2 }) := by
  rcases evolves_route (hw.pick hrule) h with hfailed | ⟨record, t, hopened, hclosed⟩
  · exact .single (.act hfailed)
  · rw [hclosed]
    exact .tail (moves_opens hopened) .close

/-- A prepared route is one of the session. -/
theorem get?_of_prepare [Url.DomainNames] {s : Session} {name : String} {text : RequestText}
    {bound : BoundRoute} {request : Request} (h : s.prepare name text = .ok (bound, request)) :
    s.routes.get? name = some bound := by
  cases hget : s.routes.get? name with
  | none =>
      simp only [prepare, route?, hget, Bind.bind, Except.bind] at h
      cases h
  | some other =>
      cases hread : request? text with
      | error e =>
          simp only [prepare, route?, hget, hread, Bind.bind, Except.bind] at h
          cases h
      | ok request' =>
          simp only [prepare, route?, hget, hread, Bind.bind, Except.bind, pure, Except.pure] at h
          cases h
          rfl

theorem allowsRule_of_prepare [Url.DomainNames] (hw : s.Within S) {name : String} {text : RequestText}
    {bound : BoundRoute} {request : Request} (h : s.prepare name text = .ok (bound, request)) :
    S.AllowsRule bound.chooser.rule :=
  (hw.routes name bound (get?_of_prepare h)).2

theorem moves_route [Url.DomainNames] (hw : s.Within S) (name : String) (text : RequestText)
    (heldName : Option String) : Moves S (loose, s) (loose, (s.route name text heldName).2) := by
  unfold route
  split
  · exact .refl
  · rename_i bound request hprepared
    have hrule := allowsRule_of_prepare hw hprepared
    split
    · rename_i record request' b heq
      have hopened := moves_route_ok loose hw hrule (congrArg Prod.fst heq)
      rw [heq] at hopened
      exact hopened.trans (moves_keep _ heldName record)
    · rename_i f request' b heq
      have hfailed := moves_route_error loose hw hrule (congrArg Prod.fst heq)
      rw [heq] at hfailed
      exact hfailed

theorem moves_select [Url.DomainNames] (hw : s.Within S) (name service : String) (text : RequestText)
    (heldName : Option String) :
    Moves S (loose, s) (loose, (s.select name service text heldName).2) := by
  unfold select
  split
  · exact .refl
  · rename_i bound request hprepared
    have hrule := allowsRule_of_prepare hw hprepared
    split
    · rename_i record b heq
      have hopened := opens_select (hw.pick hrule) (congrArg Prod.fst heq)
      rw [heq] at hopened
      exact (moves_opens hopened).trans (moves_keep _ heldName record)
    · rename_i f b heq
      have hfailed := evolves_select (hw.pick hrule) (congrArg Prod.fst heq)
      rw [heq] at hfailed
      exact .single (.act hfailed)

/-- Routing a request several times, by induction on how often. -/
theorem moves_routeTimes [Url.DomainNames] {bound : BoundRoute} (hrule : S.AllowsRule bound.chooser.rule)
    (request : Request) (name : Nat → Option String) (n i : Nat) (hw : s.Within S) :
    Moves S (loose, s) (loose, (routeTimes bound request name n i s).2) := by
  induction n generalizing i s with
  | zero => exact .refl
  | succ n ih =>
      simp only [routeTimes]
      cases hresult : (s.balancer.route request bound).1 with
      | ok record =>
          have hfirst := (moves_route_ok loose hw hrule hresult).trans
            (moves_keep _ (name i) record)
          exact hfirst.trans (ih (i + 1) (within_moves hfirst hw))
      | error f =>
          have hfirst := moves_route_error loose hw hrule hresult
          exact hfirst.trans (ih (i + 1) (within_moves hfirst hw))

theorem moves_routeMany [Url.DomainNames] (hw : s.Within S) (name : String) (text : RequestText)
    (times : Nat) (heldName : Nat → Option String) :
    Moves S (loose, s) (loose, (s.routeMany name text times heldName).2) := by
  unfold routeMany
  split
  · exact .refl
  · rename_i bound request hprepared
    exact moves_routeTimes (allowsRule_of_prepare hw hprepared) request heldName times 0 hw

theorem moves_choose {chooser : Chooser} (hrule : S.AllowsRule chooser.rule) (service : String)
    (policy : Policy) (request : Request) (records : List Instance) (times : Nat)
    (hw : s.Within S) :
    Moves S (loose, s) (loose, (s.choose chooser service policy request records times).2) := by
  induction times generalizing s with
  | zero => exact .refl
  | succ times ih =>
      have hfirst : Moves S (loose, s) (loose, { s with balancer :=
          (s.balancer.choose chooser service policy request (unseen records)).2 }) :=
        .single (.act (evolves_choose (hw.pick hrule) service policy request (unseen records)))
      exact hfirst.trans (ih (within_moves hfirst hw))

theorem allowsRule_of_chooser? (hw : s.Within S) {algorithm : Option String} {chooser : Chooser}
    (h : s.chooser? algorithm = .ok chooser) : S.AllowsRule chooser.rule := by
  cases algorithm with
  | none =>
      cases h
      trivial
  | some name =>
      simp only [chooser?, Bind.bind, Except.bind] at h
      split at h
      · cases h
      · exact hw.choosers.resolve h

end Selecting

/-! ### All steps -/

section Steps

variable {S : Scope} {loose : List String}

/-- An operation on the registry alone. -/
theorem moves_onRegistry {α : Type} (s : Session) {f : Registry → α × Registry}
    (h : Registry.Leads S.Allows s.balancer.registry (f s.balancer.registry).2) :
    Moves S (loose, s) (loose, (s.onRegistry f).2) :=
  .single (.act (Evolves.of_leads h))

theorem moves_onDiscovery {α : Type} (s : Session) (f : Discovery → α × Discovery) :
    Moves S (loose, s) (loose, (s.onDiscovery f).2) :=
  .single (.act (Evolves.of_eq rfl rfl rfl rfl))

theorem moves_mark (s : Session) (id : String) (health : Health) :
    Moves S (loose, s) (loose, (s.mark id health).2) :=
  moves_onRegistry s (.single (a := .mark id health) (S.ofQuiet _ trivial))

theorem moves_markInTurn (s : Session) (id : String) (alive : Bool) (last : Option Health)
    (times : Nat) : Moves S (loose, s) (loose, (s.markInTurn id alive last times).2) := by
  induction times generalizing s alive last with
  | zero => exact .refl
  | succ times ih => exact (moves_mark s id (Health.ofVerdict (some alive))).trans (ih _ _ _)

theorem moves_connect (s : Session) {record : Instance} (h : S.Allows (.connect record))
    (times : Nat) : Moves S (loose, s) (loose, (s.connect record times).2) := by
  induction times generalizing s with
  | zero => exact .refl
  | succ times ih =>
      have hfirst : Moves S (loose, s)
          (loose, { s with balancer := (s.balancer.connect record).2 }) :=
        .single (.act (Evolves.connect h))
      exact hfirst.trans (ih _)

variable (loose) in
/-- **Every step is made of moves**, one kind of step at a time. -/
theorem moves_run [Url.DomainNames] {s : Session} (hw : s.Within S) {t : SessionStep}
    (ht : S.AllowsStep t) : Moves S (loose, s) (loose, SessionStep.run s t) := by
  cases t with
  | bind name policy =>
      simp only [SessionStep.run, bind]
      split
      · rename_i route hroute
        exact .single (.bind hroute)
      · exact .refl
  | route name text heldName => exact moves_route hw name text heldName
  | routeMany name text times heldName => exact moves_routeMany hw name text times heldName
  | select name service text heldName => exact moves_select hw name service text heldName
  | choose algorithm service policy request records times =>
      simp only [SessionStep.run]
      split
      · rename_i chooser hchooser
        exact moves_choose (allowsRule_of_chooser? hw hchooser) service policy request records times hw
      · exact .refl
  | openConnection name record => exact moves_openConnection s name record
  | release name => exact moves_release s name
  | parts name => exact moves_parts s name
  | exchange name ending => exact moves_exchange s name ending
  | observe service records =>
      exact moves_onRegistry s (.single (a := .observe service records) (S.ofQuiet _ trivial))
  | status record =>
      exact moves_onRegistry s (.single (a := .status record) (S.ofQuiet _ trivial))
  | connect record times => exact moves_connect s ht times
  | disconnect id => exact .single (.act (Evolves.disconnect ht))
  | mark id health => exact moves_mark s id health
  | markInTurn id times => exact moves_markInTurn s id true none times
  | evict id => exact moves_onRegistry s (.single (a := .evict id) (S.ofQuiet _ trivial))
  | add record => exact moves_onDiscovery s _
  | remove service id => exact moves_onDiscovery s _
  | replace service records => exact moves_onDiscovery s _
  | matching request set => exact moves_onRegistry s (leads_matching request (fun _ _ _ _ => S.ofQuiet _ trivial) _)
  | count name tags n => exact .single (.act (Evolves.count ht tags n))
  | time name tags nanos => exact .single (.act (Evolves.time name tags nanos))
  | clearMetrics => exact .single (.act Evolves.clear)
  | follow script => exact .single (.script ht)
  | subscribe name => exact .single .listen
  | healthChanges name =>
      simp only [SessionStep.run, healthChanges]
      split
      · exact .single .listen
      · exact .refl
  | watch name => exact .single .listen
  | serviceChanges name =>
      simp only [SessionStep.run, serviceChanges]
      split
      · exact .single .listen
      · exact .refl
  | slept => exact .single .listen
  | seen => exact .single (.act (Evolves.of_eq rfl rfl rfl rfl))

/-- **Every run is made of moves**, by induction on its steps. -/
theorem moves_runAll [Url.DomainNames] {s : Session} (hw : s.Within S) {steps : List SessionStep}
    (hall : ∀ t ∈ steps, S.AllowsStep t) : Moves S ([], s) ([], SessionStep.runAll s steps) := by
  induction steps generalizing s with
  | nil => exact .refl
  | cons t rest ih =>
      have hfirst := moves_run [] hw (hall t List.mem_cons_self)
      exact hfirst.trans (ih (within_moves hfirst hw) fun u hu => hall u (List.mem_cons_of_mem _ hu))

theorem within_start {setup : Setup} (h : S.AllowsSetup setup) (ambient : Ambient) :
    (setup.start ambient).2.Within S where
  choosers := h.choosers.registerAll h.registrations
  script := by
    intro p hp
    cases hp
  routes := by
    intro name route hget
    cases hget

end Steps

/-! ### Sessions in use -/

/-- A move leaves the registry sound. -/
theorem sound_move {S : Scope} {loose loose' : List String} {s s' : Session}
    (h : Move S (loose, s) (loose', s')) (hs : s.balancer.registry.Sound) :
    s'.balancer.registry.Sound := by
  cases h with
  | act h => exact h.registry.sound hs
  | connect =>
      rename_i record
      exact Registry.sound_run hs (.connect record)
  | close =>
      rename_i id
      have hclosed : Evolves Scope.any s.balancer (s.balancer.disconnect id).2 :=
        Evolves.disconnect trivial
      exact hclosed.registry.sound hs
  | _ => exact hs

namespace Reachable

/-- What comes of a session in use is in use. -/
theorem runAll [Url.DomainNames] {s : Session} (h : s.Reachable) (steps : List SessionStep) :
    (SessionStep.runAll s steps).Reachable := by
  obtain ⟨setup, ambient, before, rfl⟩ := h
  exact ⟨setup, ambient, before ++ steps, (SessionStep.runAll_append _ _ _).symm⟩

/-- Moves lead to a session in use from one that has just started. -/
theorem moves [Url.DomainNames] {s : Session} (h : s.Reachable) : ∃ start : Session,
    start.Within .any ∧ start.balancer.registry.Sound ∧ Moves .any ([], start) ([], s) := by
  obtain ⟨setup, ambient, steps, rfl⟩ := h
  have hstart := within_start (Scope.allowsSetup_any setup) ambient
  exact ⟨_, hstart, Registry.sound_empty, moves_runAll hstart fun t _ => Scope.allowsStep_any t⟩

theorem within [Url.DomainNames] {s : Session} (h : s.Reachable) : s.Within .any := by
  obtain ⟨start, hstart, -, hmoves⟩ := h.moves
  exact within_moves hmoves hstart

theorem sound [Url.DomainNames] {s : Session} (h : s.Reachable) : s.balancer.registry.Sound := by
  obtain ⟨start, -, hsound, hmoves⟩ := h.moves
  exact moves_induction (P := fun _ s => s.balancer.registry.Sound) sound_move hmoves hsound

end Reachable

end Session

end LoadBalancer

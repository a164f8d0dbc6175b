import Mathlib
import LoadBalancer.Proofs.Balancer.Composition

/-!
# Metering and selection

What a balancer answers, and what becomes of it, does not depend on its meter: on where measurements go,
whether the registry has its own counted, and how long dispatches take. The counters that are increased
depend on the second of these alone.

* `Measurement.increments` – the counters among some measurements;
* `Meter`, `Balancer.metered` – a meter, and a balancer with another one;
* `Uniform` – something that is run with every meter has one answer, one state after it, and one list of
  increments; `Uniform.bind` puts two such runs together;
* `Balancer.uniform_choose`, `Balancer.uniform_select`, `Balancer.uniform_route` – **selecting and routing
  are of this kind**.
-/

namespace LoadBalancer

namespace Measurement

/-- It increases a counter. -/
def isIncrement : Measurement → Bool
  | count _ _ _ => true
  | time _ _ _ => false

/-- The counters that are increased by some measurements, in order. -/
def increments (ms : List Measurement) : List Measurement := ms.filter isIncrement

theorem increments_append (xs ys : List Measurement) :
    increments (xs ++ ys) = increments xs ++ increments ys := List.filter_append ..

end Measurement

open Measurement (increments increments_append)

/-- Where measurements go, whether the registry has its own counted, and how long dispatches take. -/
structure Meter where
  sink : Sink
  reportsUnderflow : Bool
  lapses : Nat → Nat

/-- The meter with its sink told of measurements. -/
def Meter.tell (m : Meter) (ms : List Measurement) : Meter := { m with sink := m.sink.measure ms }

theorem Meter.tell_tell (m : Meter) (xs ys : List Measurement) :
    (m.tell xs).tell ys = m.tell (xs ++ ys) := by
  simp only [tell, Sink.measure_append]

/-! ### Uniform runs -/

section Uniform

variable {σ α β : Type} {metered : σ → Meter → σ}

/-- What is run with every meter has one answer and leaves one state, apart from the meter. The sink is told
of measurements that do not depend on what it is, and the increments among them are the same however long
dispatches take. -/
def Uniform (metered : σ → Meter → σ) (run : Meter → α × σ) : Prop :=
  ∃ a s, ∀ reports, ∃ counts, ∀ lapses, ∃ ms, increments ms = counts ∧
    ∀ sink, run ⟨sink, reports, lapses⟩ = (a, metered s (Meter.tell ⟨sink, reports, lapses⟩ ms))

/-- A run that tells measurements which depend on the meter as they may. -/
theorem Uniform.tells {run : Meter → α × σ} (a : α) (s : σ)
    (told : Bool → (Nat → Nat) → List Measurement)
    (hcounts : ∀ reports l l', increments (told reports l) = increments (told reports l'))
    (hrun : ∀ m : Meter, run m = (a, metered s (m.tell (told m.reportsUnderflow m.lapses)))) :
    Uniform metered run := by
  refine ⟨a, s, fun reports => ⟨increments (told reports id), fun lapses => ?_⟩⟩
  exact ⟨told reports lapses, hcounts reports lapses id, fun sink => hrun ⟨sink, reports, lapses⟩⟩

/-- A run that measures the same with every meter. -/
theorem Uniform.measures {run : Meter → α × σ} (a : α) (s : σ) (ms : List Measurement)
    (h : ∀ m : Meter, run m = (a, metered s (m.tell ms))) : Uniform metered run :=
  .tells a s (fun _ _ => ms) (fun _ _ _ => rfl) h

/-- A run that measures nothing. -/
theorem Uniform.silent {run : Meter → α × σ} (a : α) (s : σ) (h : ∀ m, run m = (a, metered s m)) :
    Uniform metered run :=
  .measures a s [] h

/-- An answer alone. -/
theorem Uniform.pure (a : α) (s : σ) : Uniform metered fun m => (a, metered s m) :=
  .silent a s fun _ => rfl

/-- One run after another, whose measurements come last. -/
theorem Uniform.bind {first : Meter → α × σ} {run : Meter → β × σ} (hfirst : Uniform metered first)
    (next : α → σ → β × σ) (hrun : ∀ m, run m = next (first m).1 (first m).2)
    (hnext : ∀ a s, Uniform metered fun m => next a (metered s m)) : Uniform metered run := by
  obtain ⟨a, s, hfirst⟩ := hfirst
  obtain ⟨b, t, hnext⟩ := hnext a s
  refine ⟨b, t, fun reports => ?_⟩
  obtain ⟨counts, hfirst⟩ := hfirst reports
  obtain ⟨counts', hnext⟩ := hnext reports
  refine ⟨counts ++ counts', fun lapses => ?_⟩
  obtain ⟨ms, hcounts, hfirst⟩ := hfirst lapses
  obtain ⟨ms', hcounts', hnext⟩ := hnext lapses
  refine ⟨ms ++ ms', ?_, fun sink => ?_⟩
  · rw [increments_append, hcounts, hcounts']
  · rw [hrun, hfirst, ← Meter.tell_tell]
    exact hnext (sink.measure ms)

/-- A run whose answer is put into another form. -/
theorem Uniform.map {first : Meter → α × σ} {run : Meter → β × σ} (hfirst : Uniform metered first)
    (f : α → β) (hrun : ∀ m, run m = (f (first m).1, (first m).2)) : Uniform metered run :=
  hfirst.bind (fun a s => (f a, s)) hrun fun a s => .pure (f a) s

/-! ### Attempts -/

/-- Picks are uniform, and pauses and the registry have nothing to do with the meter. -/
structure Surroundings.IgnoresMeter (env : Surroundings σ) (metered : σ → Meter → σ) : Prop where
  registry : ∀ s m, env.registry (metered s m) = env.registry s
  pick : ∀ pool s, Uniform metered fun m => env.pick pool (metered s m)
  pause : ∀ s m, env.pause (metered s m) = metered (env.pause s) m

variable {env : Surroundings σ}

theorem uniform_pickFrom (h : env.IgnoresMeter metered) (lenient : Bool) (pool : List Status)
    (s : σ) : Uniform metered fun m => pickFrom env lenient pool (metered s m) := by
  let alive (index : Option Nat) (t : σ) : Option Status :=
    (index.bind fun i => pool[i]?).filter fun c => (env.registry t).isAlive lenient c.id
  unfold pickFrom
  split
  · exact .pure none s
  · refine (h.pick pool s).bind (fun index t => (alive index t, t)) (fun _ => rfl) ?_
    intro index t
    refine .silent (alive index t) t fun m => ?_
    simp only [alive, h.registry]

/-- By induction on the number of attempts. -/
theorem uniform_attempt (h : env.IgnoresMeter metered) (d : Demand) (tries : Nat) (s : σ) :
    Uniform metered fun m => attempt env d tries (metered s m) := by
  induction tries generalizing s with
  | zero => exact .pure _ s
  | succ left ih =>
      simp only [attempt_succ, h.registry]
      split
      · exact .pure _ s
      · refine (uniform_pickFrom h d.lenient (d.pool (env.registry s)) s).bind
          (env.resume d left (d.available (env.registry s)).length) (fun _ => rfl) ?_
        intro picked t
        cases picked with
        | some c => exact .pure _ t
        | none =>
            simp only [Surroundings.resume, h.pause]
            split
            · exact .silent _ t fun _ => rfl
            · exact ih (env.pause t)

end Uniform

namespace Balancer

/-- The balancer with another meter. -/
def metered (b : Balancer) (m : Meter) : Balancer :=
  { b with
    sink := m.sink
    reportsUnderflow := m.reportsUnderflow
    ambient := { b.ambient with lapses := m.lapses } }

variable (b : Balancer)

/-! ### Connections and picks -/

/-- Only whether underflows are counted depends on the meter. -/
theorem uniform_act (actions : List RegistryAction) :
    Uniform metered fun m => ((), (b.metered m).act actions) := by
  refine .tells () { b with registry := (RegistryAction.runAll b.registry actions).1 }
    (fun reports _ => if reports then underflows (RegistryAction.runAll b.registry actions).2 else [])
    (fun _ _ _ => rfl) fun m => ?_
  rw [act_eq, countUnderflows_eq_measure]
  obtain ⟨sink, reports, lapses⟩ := m
  cases reports <;> rfl

theorem uniform_disconnect (id : String) :
    Uniform metered fun m => (b.metered m).disconnect id := by
  refine (uniform_act b [.disconnect id]).bind (fun _ t => (t.registry.connections id, t)) ?_
    fun _ t => .pure (t.registry.connections id) t
  intro m
  rw [act_disconnect, ← answer_disconnect]

theorem uniform_follow (pool : List Status) : Uniform metered fun m => (b.metered m).follow pool := by
  refine (uniform_act { b with script := b.script.tail, seen := pool :: b.seen }
    (b.script.headD .first).actions).map (fun _ => (b.script.headD .first).index) ?_
  intro m
  refine Prod.ext ?_ (balancer_follow (b.metered m) pool)
  show ((b.metered m).follow pool).1 = (b.script.headD .first).index
  unfold follow metered
  cases b.script <;> rfl

theorem uniform_consult (advise : Nat → Request → List Status → Registry → Advice)
    (request : Request) (candidates : List Status) :
    Uniform metered fun m => (b.metered m).consult advise request candidates :=
  (uniform_act { b with asked := b.asked + 1 }
    (advise b.asked request candidates b.registry).actions).map
    (fun _ => (advise b.asked request candidates b.registry).answer) fun _ => rfl

theorem uniform_pick (chooser : Chooser) (service : String) (request : Request)
    (pool : List Status) :
    Uniform metered fun m => pick chooser service request pool (b.metered m) := by
  unfold pick
  cases chooser.rule with
  | random => exact .silent (some (b.roll pool.length).1) (b.roll pool.length).2 fun _ => rfl
  | cyclic =>
      let turned := b.turn chooser.serial service pool.length
      exact .silent (some turned.1) turned.2 fun _ => rfl
  | scripted => exact uniform_follow b pool
  | _ => exact .pure _ b

/-! ### Choosing -/

theorem metered_sleep (m : Meter) (d : Duration) : (b.metered m).sleep d = (b.sleep d).metered m := by
  unfold sleep metered
  rfl

theorem ignoresMeter_surroundings (chooser : Chooser) (service : String) (policy : Policy)
    (request : Request) :
    (surroundings chooser service policy request).IgnoresMeter metered where
  registry := fun _ _ => rfl
  pick := fun pool s => uniform_pick s chooser service request pool
  pause := fun s m => metered_sleep s m policy.backoff

theorem uniform_chooseByAttempts (chooser : Chooser) (service : String) (policy : Policy)
    (request : Request) (candidates : List Status) :
    Uniform metered fun m =>
      (b.metered m).chooseByAttempts chooser service policy request candidates := by
  simp only [chooseByAttempts_eq]
  refine (uniform_attempt (ignoresMeter_surroundings chooser service policy request)
    ⟨service, policy.lenient, candidates⟩ (tries policy) b).bind (fun outcome t =>
      (answerOf service policy outcome, { t with
        sink := t.sink.measure (exhaustion service policy (answerOf service policy outcome)) }))
    (fun _ => rfl) ?_
  intro outcome t
  exact .measures _ t (exhaustion service policy (answerOf service policy outcome)) fun _ => rfl

theorem uniform_choose (chooser : Chooser) (service : String) (policy : Policy) (request : Request)
    (candidates : List Status) :
    Uniform metered fun m => (b.metered m).choose chooser service policy request candidates := by
  unfold choose
  cases chooser.rule with
  | never => exact .pure _ b
  | outside advise => exact uniform_consult b advise request candidates
  | _ => exact uniform_chooseByAttempts b chooser service policy request candidates

/-! ### Selecting -/

/-- A decision after which the outcome has been measured. -/
def decideMeasured (service : String) (request : Request) (bound : BoundRoute) :
    Except Failure Instance × Balancer :=
  let decided := b.decide service request bound
  (decided.1, { decided.2.2 with
    sink := decided.2.2.sink.measure (outcomes bound.algorithm service decided.2.1 decided.1) })

theorem increments_outcomes (a : Algorithm) (service : String) (nanos nanos' : Nat)
    (result : Except Failure Instance) :
    increments (outcomes a service nanos result) = increments (outcomes a service nanos' result) := by
  cases result <;> rfl

/-- How long the dispatch takes is in the timer, and nowhere else. -/
theorem uniform_decideMeasured (service : String) (request : Request) (bound : BoundRoute) :
    Uniform metered fun m => (b.metered m).decideMeasured service request bound := by
  let measured := outcomes bound.algorithm service
  by_cases hlisted : b.listed service = []
  · refine .measures (.error (.noInstances service)) b
      (.count Metric.noInstances [("service", service)] 1 ::
        measured 0 (.error (.noInstances service))) fun m => ?_
    rw [decideMeasured, decide_of_unlisted (show (b.metered m).listed service = [] from hlisted)]
    rfl
  · by_cases hfound : b.found service request bound.policy = []
    · refine .measures (.error (.noCandidates service))
        { b with registry := (b.matched service request bound.policy).2 }
        (.count Metric.noCandidates [("service", service)] 1 ::
          measured 0 (.error (.noCandidates service))) fun m => ?_
      rw [decideMeasured, decide_of_unfound (show (b.metered m).listed service ≠ [] from hlisted)
        (show (b.metered m).found service request bound.policy = [] from hfound)]
      rfl
    · refine (uniform_choose { b with registry := (b.offered service request bound.policy).2 }
        bound.chooser service bound.policy request
        (b.offered service request bound.policy).1).bind (fun result t =>
          (result, { t.lapse.2 with sink := t.sink.measure (measured t.lapse.1 result) })) ?_ ?_
      · intro m
        rw [decideMeasured, decide_of_found
          (show (b.metered m).found service request bound.policy ≠ [] from hfound)]
        rfl
      · intro result t
        exact .tells result t.lapse.2 (fun _ lapses => measured (lapses t.lapsed) result)
          (fun _ l l' => increments_outcomes _ _ (l t.lapsed) (l' t.lapsed) result) fun _ => rfl

theorem uniform_select (service : String) (request : Request) (bound : BoundRoute) :
    Uniform metered fun m => (b.metered m).select service request bound := by
  simp only [select_eq]
  refine (uniform_decideMeasured b service request bound).bind
    (fun result t => (result, opened result t)) ?_ ?_
  · intro m
    unfold decideMeasured
    generalize (b.metered m).decide service request bound = decided
    obtain ⟨result, nanos, t⟩ := decided
    cases result <;> rfl
  · intro result t
    cases result with
    | ok record => exact .silent (.ok record) (t.connect record).2 fun _ => rfl
    | error f => exact .pure _ t

/-! ### Routing -/

theorem uniform_reject (f : Failure) (a : Algorithm) (id : String) :
    Uniform metered fun m => ((), (((b.metered m).countFailure f a).disconnect id).2) := by
  have hcount : Uniform metered fun m => ((), (b.metered m).countFailure f a) :=
    .measures () b [failed a f] fun _ => rfl
  exact hcount.bind (fun _ t => ((), (t.disconnect id).2)) (fun _ => rfl) fun _ t =>
    (uniform_disconnect t id).map (fun _ => ()) fun _ => rfl

/-- A route fails of itself for two reasons only, neither of which has to do with the meter. -/
theorem uniform_route [Url.DomainNames] (request : Request) (bound : BoundRoute) :
    Uniform metered fun m =>
      let routed := (b.metered m).route request bound
      ((routed.1, routed.2.1), routed.2.2) := by
  cases hservice : request.service? with
  | none =>
      let f := Failure.noInstances ""
      refine .measures (.error f, request) b [failed bound.algorithm f] fun _ => ?_
      unfold route
      rw [hservice]
      rfl
  | some service =>
      refine (uniform_select b service request bound).bind (forwarded request bound service)
        (fun _ => route_eq hservice) ?_
      intro selected t
      cases selected with
      | error f => exact .pure _ t
      | ok record =>
          dsimp only [forwarded]
          cases forwardTarget request.target record with
          | some target => exact .pure _ t
          | none =>
              exact (uniform_reject t (.invalidTarget service record.id) bound.algorithm
                record.id).map (fun _ => (.error (.invalidTarget service record.id), request))
                fun _ => rfl

end Balancer

end LoadBalancer

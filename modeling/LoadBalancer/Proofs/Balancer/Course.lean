import Mathlib
import LoadBalancer.Balancer.Selection
import LoadBalancer.Proofs.Attempts
import LoadBalancer.Proofs.Registry.Records

/-!
# The course of attempts

What attempts do, one after the other, and what decides how they end. The registry may be another one
after every pause. Which state an attempt begins in, what it picks and whether it fails are told
without the loop, as functions of the first state and the number of the attempt; the loop is then
measured against them.

* `Surroundings.before`, `Surroundings.proposal`, `Surroundings.Fails` – the state in which an attempt
  begins, the entry of its pool that is picked, and that no entry is;
* `Deed`, `Surroundings.recorded` – what attempts do to what they act on, and surroundings that keep a
  list of it; `Surroundings.deeds` is the list that there should be;
* `Surroundings.Ends` – the three ways in which attempts end;
* `Surroundings.attempt_recorded` – the loop keeps to all this, by induction on the attempts left;
* `Balancer.choice_of_attempts` – what follows for a choice under a policy.
-/

namespace LoadBalancer

namespace Demand

/-- Whatever is in the pool may get requests. -/
theorem isAlive_of_mem_pool {d : Demand} {r : Registry} (hr : r.Sound) {c : Status}
    (hc : c ∈ d.pool r) : r.isAlive d.lenient c.id = true := by
  have hreachable : c ∈ r.reachable d.lenient d.service := mem_of_mem_intersect hc
  exact ((Registry.mem_ids_reachable hr).mp (List.mem_map.mpr ⟨c, hreachable, rfl⟩)).2

/-- The candidates that a registry knows under the service. -/
def known (d : Demand) (r : Registry) : List Status :=
  d.candidates.filter fun c => c.id ∈ (r.all d.service).map Status.id

theorem mem_ids_known {d : Demand} {r : Registry} {x : String} :
    x ∈ (d.known r).map Status.id ↔
      x ∈ d.candidates.map Status.id ∧ x ∈ (r.all d.service).map Status.id := by
  constructor
  · intro hx
    obtain ⟨c, hc, rfl⟩ := List.mem_map.mp hx
    obtain ⟨hmem, hall⟩ := List.mem_filter.mp hc
    exact ⟨List.mem_map.mpr ⟨c, hmem, rfl⟩, by simpa using hall⟩
  · rintro ⟨hx, hall⟩
    obtain ⟨c, hc, rfl⟩ := List.mem_map.mp hx
    exact List.mem_map.mpr ⟨c, List.mem_filter.mpr ⟨hc, by simpa using hall⟩, rfl⟩

theorem length_available (d : Demand) (r : Registry) :
    (d.available r).length = ((d.known r).map Status.id).dedup.length :=
  length_intersect_filter d.candidates (r.all d.service)

theorem available_eq_nil_iff {d : Demand} {r : Registry} : d.available r = [] ↔ d.known r = [] := by
  rw [← List.length_eq_zero_iff, length_available, List.length_eq_zero_iff, List.dedup_eq_nil,
    List.map_eq_nil_iff]

/-- Without candidates there is no pool. -/
theorem pool_eq_nil_of_available {d : Demand} {r : Registry} (h : d.available r = []) :
    d.pool r = [] := by
  unfold pool
  rw [h]
  rfl

end Demand

/-! ### What attempts do -/

/-- Something that attempts do to what they act on. -/
inductive Deed where
  /-- An index into a pool is asked for. -/
  | pick (pool : List Status)
  | pause
  | count (name : String) (tags : Tags) (n : Nat)
  deriving DecidableEq

namespace Deed

/-- An index is asked for. -/
def isPick : Deed → Bool
  | pick _ => true
  | _ => false

/-- A counter is increased. -/
def isCount : Deed → Bool
  | count _ _ _ => true
  | _ => false

end Deed

namespace Surroundings

variable {σ : Type}

/-- The surroundings with a list of what was done to them. -/
def recorded (env : Surroundings σ) : Surroundings (σ × List Deed) where
  registry := fun t => env.registry t.1
  pick := fun pool t => ((env.pick pool t.1).1, (env.pick pool t.1).2, t.2 ++ [.pick pool])
  pause := fun t => (env.pause t.1, t.2 ++ [.pause])
  count := fun name tags n t => (env.count name tags n t.1, t.2 ++ [.count name tags n])

section Course

variable (env : Surroundings σ) (d : Demand)

/-- The state in which the next attempt begins, after one that has failed. -/
def next (s : σ) : σ :=
  env.pause (pickFrom env d.lenient (d.pool (env.registry s)) s).2

/-- The state in which attempt `k` begins, counted from zero, if all those before it have failed. -/
def before (s : σ) (k : Nat) : σ :=
  (env.next d)^[k] s

/-- The entry of the pool that is picked, if the index is one of the pool. -/
def proposal (s : σ) : Option Status :=
  (env.pick (d.pool (env.registry s)) s).1.bind fun i => (d.pool (env.registry s))[i]?

/-- An attempt fails and another one may follow: there are candidates, and none of them is picked. -/
def Fails (s : σ) : Prop :=
  d.known (env.registry s) ≠ [] ∧ env.proposal d s = none

/-- What one attempt does: an index is asked for, unless the pool is empty. -/
def asks (s : σ) : List Deed :=
  if (d.pool (env.registry s)).isEmpty then [] else [.pick (d.pool (env.registry s))]

/-- What the first attempts do, with one pause between any two of them. -/
def deeds : Nat → σ → List Deed
  | 0, _ => []
  | n + 1, s => env.asks d s ++ if n = 0 then [] else .pause :: deeds n (env.next d s)

/-- How attempts end, so many being allowed, with the number of the last one. -/
inductive Ends (tries : Nat) (s : σ) : Nat → Outcome → Prop
  | noCandidate {k : Nat} (h : d.known (env.registry (env.before d s k)) = []) :
      Ends tries s k .noCandidate
  | chosen {k : Nat} {c : Status} (h : env.proposal d (env.before d s k) = some c) :
      Ends tries s k (.chosen c.record)
  | exhausted {k : Nat} (hlast : k + 1 = tries) (h : env.Fails d (env.before d s k)) :
      Ends tries s k
        (.exhausted ((d.known (env.registry (env.before d s k))).map Status.id).dedup.length)

end Course

variable {env : Surroundings σ} {d : Demand} {s : σ}

/-- An attempt that was the last seen from the second state is the last seen from the first. -/
theorem Ends.of_next {tries k : Nat} {o : Outcome} (h : env.Ends d tries (env.next d s) k o) :
    env.Ends d (tries + 1) s (k + 1) o := by
  cases h with
  | noCandidate h => exact .noCandidate h
  | chosen h => exact .chosen h
  | exhausted hlast h => exact .exhausted (by omega) h

theorem deeds_one (s : σ) : env.deeds d 1 s = env.asks d s := by
  rw [deeds, if_pos rfl, List.append_nil]

theorem deeds_succ_succ (n : Nat) (s : σ) :
    env.deeds d (n + 2) s = env.asks d s ++ .pause :: env.deeds d (n + 1) (env.next d s) := by
  rw [deeds, if_neg (Nat.succ_ne_zero n)]

/-- No index is asked for without a pool. -/
theorem ne_nil_of_pick_mem_deeds {pool : List Status} {n : Nat} {s : σ}
    (h : .pick pool ∈ env.deeds d n s) : pool ≠ [] := by
  induction n generalizing s with
  | zero => cases h
  | succ n ih =>
      rw [deeds, List.mem_append] at h
      rcases h with hasked | hlater
      · unfold asks at hasked
        split at hasked
        · cases hasked
        · rename_i hsome
          obtain rfl : pool = _ := by simpa using hasked
          simpa using hsome
      · split at hlater
        · cases hlater
        · exact ih (by simpa using hlater)

/-- So many attempts ask for as many indices at most. -/
theorem countP_isPick_deeds_le (n : Nat) (s : σ) :
    (env.deeds d n s).countP Deed.isPick ≤ n := by
  induction n generalizing s with
  | zero => rfl
  | succ n ih =>
      have hasks : (env.asks d s).countP Deed.isPick ≤ 1 := by
        unfold asks
        split <;> simp [Deed.isPick]
      have hlater := ih (env.next d s)
      rw [deeds, List.countP_append]
      split
      · rw [List.countP_nil]
        omega
      · rw [List.countP_cons_of_neg (by simp [Deed.isPick])]
        omega

/-- Attempts leave the counters alone. -/
theorem countP_isCount_deeds (n : Nat) (s : σ) :
    (env.deeds d n s).countP Deed.isCount = 0 := by
  induction n generalizing s with
  | zero => rfl
  | succ n ih =>
      have hasks : (env.asks d s).countP Deed.isCount = 0 := by
        unfold asks
        split <;> simp [Deed.isCount]
      rw [deeds, List.countP_append, hasks]
      split
      · rfl
      · rw [List.countP_cons_of_neg (by simp [Deed.isCount]), ih]

/-! ### One attempt -/

/-- If the pick leaves the registry alone, what is picked is alive still, and is not refused. -/
theorem pickFrom_eq_proposal (hfixed : ∀ pool t, env.registry (env.pick pool t).2 = env.registry t)
    (hs : (env.registry s).Sound) :
    (pickFrom env d.lenient (d.pool (env.registry s)) s).1 = env.proposal d s := by
  unfold pickFrom proposal
  split
  · rename_i hempty
    rw [List.isEmpty_iff.mp hempty]
    cases (env.pick [] s).1 <;> rfl
  · show Option.filter _ ((env.pick (d.pool (env.registry s)) s).1.bind _) = _
    cases hc : (env.pick (d.pool (env.registry s)) s).1.bind
        fun i => (d.pool (env.registry s))[i]? with
    | none => rfl
    | some c =>
        obtain ⟨i, -, hi⟩ := Option.bind_eq_some_iff.mp hc
        have halive := Demand.isAlive_of_mem_pool hs (List.mem_of_getElem? hi)
        rw [Option.filter_some, hfixed, if_pos halive]

/-- Recording changes nothing but the list. -/
theorem pickFrom_recorded (log : List Deed) :
    pickFrom env.recorded d.lenient (d.pool (env.registry s)) (s, log) =
      ((pickFrom env d.lenient (d.pool (env.registry s)) s).1,
        (pickFrom env d.lenient (d.pool (env.registry s)) s).2, log ++ env.asks d s) := by
  unfold pickFrom asks
  split
  · rw [List.append_nil]
  · rfl

/-- Without candidates there is nothing to attempt. -/
theorem attempt_of_unknown (h : d.known (env.registry s) = []) (left : Nat) :
    attempt env d (left + 1) s = (.noCandidate, s) := by
  have hempty : (d.available (env.registry s)).isEmpty = true :=
    List.isEmpty_iff.mpr (Demand.available_eq_nil_iff.mpr h)
  simp only [attempt, hempty, if_true]

/-- What is picked is chosen. -/
theorem attempt_of_picked {c : Status} {t : σ}
    (h : pickFrom env d.lenient (d.pool (env.registry s)) s = (some c, t)) (left : Nat) :
    attempt env d (left + 1) s = (.chosen c.record, t) := by
  have hsome : (d.available (env.registry s)).isEmpty = false := by
    rw [List.isEmpty_eq_false_iff]
    intro hnil
    have hmem := mem_of_pickFrom (congrArg Prod.fst h)
    rw [Demand.pool_eq_nil_of_available hnil] at hmem
    cases hmem
  simp only [attempt, hsome, Bool.false_eq_true, if_false, h]

/-- After a failure there is another attempt, unless it was the last. -/
theorem attempt_of_failed (hk : d.known (env.registry s) ≠ []) {t : σ}
    (h : pickFrom env d.lenient (d.pool (env.registry s)) s = (none, t)) (left : Nat) :
    attempt env d (left + 1) s =
      if left = 0 then (.exhausted (d.available (env.registry s)).length, t)
      else attempt env d left (env.pause t) := by
  have hsome : (d.available (env.registry s)).isEmpty = false := by
    rw [List.isEmpty_eq_false_iff]
    exact fun hnil => hk (Demand.available_eq_nil_iff.mp hnil)
  rw [attempt]
  simp only [hsome, Bool.false_eq_true, if_false, h]

/-- An attempt that does not fail is the last one. -/
theorem attempt_of_decided
    (hfixed : ∀ pool t, env.registry (env.pick pool t).2 = env.registry t)
    (hs : (env.registry s).Sound) (hdecided : ¬env.Fails d s) (left : Nat) (log : List Deed) :
    env.Ends d (left + 1) s 0 (attempt env d (left + 1) s).1 ∧
      attempt env.recorded d (left + 1) (s, log) =
        ((attempt env d (left + 1) s).1, (attempt env d (left + 1) s).2,
          log ++ env.deeds d 1 s) := by
  rw [deeds_one]
  by_cases hk : d.known (env.registry s) = []
  · have hasks : env.asks d s = [] := by
      have hpool := Demand.pool_eq_nil_of_available (Demand.available_eq_nil_iff.mpr hk)
      unfold asks
      rw [hpool]
      rfl
    have hends := attempt_of_unknown hk left
    have hk' : d.known (env.recorded.registry (s, log)) = [] := hk
    have hrecorded := attempt_of_unknown hk' left
    rw [hends, hrecorded, hasks, List.append_nil]
    exact ⟨.noCandidate hk, rfl⟩
  · obtain ⟨c, hc⟩ : ∃ c, env.proposal d s = some c := by
      rw [← Option.ne_none_iff_exists']
      exact fun hnone => hdecided ⟨hk, hnone⟩
    have hpicked : pickFrom env d.lenient (d.pool (env.registry s)) s =
        (some c, (pickFrom env d.lenient (d.pool (env.registry s)) s).2) :=
      Prod.ext ((pickFrom_eq_proposal hfixed hs).trans hc) rfl
    have hlogged : pickFrom env.recorded d.lenient (d.pool (env.registry s)) (s, log) = _ :=
      pickFrom_recorded log
    rw [hpicked] at hlogged
    have hends := attempt_of_picked hpicked left
    have hrecorded : attempt env.recorded d (left + 1) (s, log) = (.chosen c.record, _) :=
      attempt_of_picked hlogged left
    rw [hends, hrecorded]
    exact ⟨.chosen (k := 0) hc, rfl⟩

/-- After an attempt that fails there is another one, unless it was the last. -/
theorem attempt_of_fails (hfixed : ∀ pool t, env.registry (env.pick pool t).2 = env.registry t)
    (hs : (env.registry s).Sound) (h : env.Fails d s) (left : Nat) (log : List Deed) :
    let asked := (pickFrom env d.lenient (d.pool (env.registry s)) s).2
    let last := Outcome.exhausted (d.available (env.registry s)).length
    attempt env d (left + 1) s =
        (if left = 0 then (last, asked) else attempt env d left (env.next d s)) ∧
      attempt env.recorded d (left + 1) (s, log) =
        if left = 0 then (last, asked, log ++ env.asks d s)
        else attempt env.recorded d left (env.next d s, log ++ env.asks d s ++ [.pause]) := by
  intro asked last
  have hfailed : pickFrom env d.lenient (d.pool (env.registry s)) s = (none, asked) :=
    Prod.ext ((pickFrom_eq_proposal hfixed hs).trans h.2) rfl
  have hlogged : pickFrom env.recorded d.lenient (d.pool (env.registry s)) (s, log) = _ :=
    pickFrom_recorded log
  rw [hfailed] at hlogged
  have hk' : d.known (env.recorded.registry (s, log)) ≠ [] := h.1
  exact ⟨attempt_of_failed h.1 hfailed left, attempt_of_failed hk' hlogged left⟩

/-! ### All attempts -/

/-- **The loop keeps to its course**, by induction on the attempts that are left: all attempts but the
last have failed, the last one ends as it should, and what is recorded is what all of them do. -/
theorem attempt_recorded (hfixed : ∀ pool t, env.registry (env.pick pool t).2 = env.registry t)
    (left : Nat) (log : List Deed) (hsound : ∀ k, (env.registry (env.before d s k)).Sound) :
    ∃ last ≤ left, (∀ k < last, env.Fails d (env.before d s k)) ∧
      env.Ends d (left + 1) s last (attempt env d (left + 1) s).1 ∧
      attempt env.recorded d (left + 1) (s, log) =
        ((attempt env d (left + 1) s).1, (attempt env d (left + 1) s).2,
          log ++ env.deeds d (last + 1) s) := by
  induction left generalizing s log with
  | zero =>
      refine ⟨0, le_refl _, fun k hk => absurd hk (Nat.not_lt_zero k), ?_⟩
      have hnow : (env.registry s).Sound := hsound 0
      by_cases hfails : env.Fails d s
      · obtain ⟨hends, hrecorded⟩ := attempt_of_fails hfixed hnow hfails 0 log
        rw [if_pos rfl] at hends hrecorded
        rw [hends, hrecorded]
        refine ⟨?_, by rw [deeds_one]⟩
        rw [Demand.length_available]
        exact .exhausted (k := 0) rfl hfails
      · exact attempt_of_decided hfixed hnow hfails 0 log
  | succ left ih =>
      have hnow : (env.registry s).Sound := hsound 0
      by_cases hfails : env.Fails d s
      · obtain ⟨hends, hrecorded⟩ := attempt_of_fails hfixed hnow hfails (left + 1) log
        rw [if_neg (Nat.succ_ne_zero left)] at hends hrecorded
        obtain ⟨last, hlast, hbefore, hlater, hdeeds⟩ :=
          ih (s := env.next d s) (log ++ env.asks d s ++ [.pause]) fun k => hsound (k + 1)
        refine ⟨last + 1, by omega, ?_, ?_, ?_⟩
        · intro k hk
          cases k with
          | zero => exact hfails
          | succ k => exact hbefore k (by omega)
        · rw [hends]
          exact hlater.of_next
        · rw [hrecorded, hends, hdeeds]
          rw [deeds_succ_succ]
          simp only [List.append_assoc, List.cons_append, List.nil_append]
      · exact ⟨0, Nat.zero_le _, fun k hk => absurd hk (Nat.not_lt_zero k),
          attempt_of_decided hfixed hnow hfails (left + 1) log⟩

/-! ### What the course says -/

section Verdict

variable {tries last : Nat} {o : Outcome}

theorem proposal_of_unknown (h : d.known (env.registry s) = []) : env.proposal d s = none := by
  unfold proposal
  rw [Demand.pool_eq_nil_of_available (Demand.available_eq_nil_iff.mpr h)]
  cases (env.pick [] s).1 <;> rfl

/-- The last attempt is the last one allowed, or does not fail. -/
theorem Ends.decided (h : env.Ends d tries s last o) :
    last + 1 = tries ∨ ¬env.Fails d (env.before d s last) := by
  cases h with
  | noCandidate hunknown => exact Or.inr fun hfails => hfails.1 hunknown
  | chosen hc =>
      refine Or.inr fun hfails => ?_
      rw [hfails.2] at hc
      cases hc
  | exhausted htries hfails => exact Or.inl htries

/-- Attempts end without candidates exactly if one of them finds none and nothing was picked before. -/
theorem Ends.noCandidate_iff (h : env.Ends d tries s last o) (hlast : last < tries)
    (hbefore : ∀ k < last, env.Fails d (env.before d s k)) :
    o = .noCandidate ↔ ∃ k < tries, d.known (env.registry (env.before d s k)) = [] ∧
      ∀ j < k, env.proposal d (env.before d s j) = none := by
  constructor
  · intro ho
    cases h with
    | noCandidate hk => exact ⟨last, hlast, hk, fun j hj => (hbefore j hj).2⟩
    | chosen hc => cases ho
    | exhausted htries hfails => cases ho
  · rintro ⟨k, hk, hunknown, hnone⟩
    have hle : last ≤ k := by
      by_contra hlt
      exact (hbefore k (by omega)).1 hunknown
    have hproposal : env.proposal d (env.before d s last) = none := by
      rcases Nat.lt_or_eq_of_le hle with hlt | rfl
      · exact hnone last hlt
      · exact proposal_of_unknown hunknown
    cases h with
    | noCandidate h => rfl
    | chosen hc =>
        rw [hproposal] at hc
        cases hc
    | exhausted htries hfails =>
        obtain rfl : last = k := by omega
        exact absurd hunknown hfails.1

/-- An instance is chosen exactly if an attempt picks it and all attempts before fail. -/
theorem Ends.chosen_iff (h : env.Ends d tries s last o) (hlast : last < tries)
    (hbefore : ∀ k < last, env.Fails d (env.before d s k)) {record : Instance} :
    o = .chosen record ↔ ∃ k < tries,
      (∃ c, env.proposal d (env.before d s k) = some c ∧ c.record = record) ∧
        ∀ j < k, env.Fails d (env.before d s j) := by
  constructor
  · intro ho
    cases h with
    | noCandidate hk => cases ho
    | chosen hc =>
        cases ho
        exact ⟨last, hlast, ⟨_, hc, rfl⟩, hbefore⟩
    | exhausted htries hfails => cases ho
  · rintro ⟨k, hk, ⟨c, hc, rfl⟩, hall⟩
    -- the attempt that picks the instance does not fail, so the last one is not after it
    have hle : last ≤ k := by
      by_contra hlt
      have hnone := (hbefore k (by omega)).2
      rw [hc] at hnone
      cases hnone
    cases h with
    | noCandidate hunknown =>
        rcases Nat.lt_or_eq_of_le hle with hlt | rfl
        · exact absurd hunknown (hall last hlt).1
        · rw [proposal_of_unknown hunknown] at hc
          cases hc
    | chosen hother =>
        rcases Nat.lt_or_eq_of_le hle with hlt | rfl
        · rw [(hall last hlt).2] at hother
          cases hother
        · rw [hc] at hother
          cases hother
          rfl
    | exhausted htries hfails =>
        obtain rfl : last = k := by omega
        rw [hfails.2] at hc
        cases hc

/-- Attempts are exhausted exactly if all of them fail. -/
theorem Ends.exhausted_iff (h : env.Ends d tries s last o) (hlast : last < tries)
    (hbefore : ∀ k < last, env.Fails d (env.before d s k)) {n : Nat} :
    o = .exhausted n ↔ (∀ k < tries, env.Fails d (env.before d s k)) ∧
      n = ((d.known (env.registry (env.before d s (tries - 1)))).map Status.id).dedup.length := by
  constructor
  · intro ho
    cases h with
    | noCandidate hk => cases ho
    | chosen hc => cases ho
    | exhausted htries hfails =>
        cases ho
        obtain rfl : last = tries - 1 := by omega
        refine ⟨?_, rfl⟩
        intro k hk
        rcases Nat.lt_or_eq_of_le (show k ≤ tries - 1 by omega) with hlt | rfl
        · exact hbefore k hlt
        · exact hfails
  · rintro ⟨hall, rfl⟩
    cases h with
    | noCandidate hunknown => exact absurd hunknown (hall last hlast).1
    | chosen hc =>
        rw [(hall last hlast).2] at hc
        cases hc
    | exhausted htries hfails =>
        obtain rfl : last = tries - 1 := by omega
        rfl

end Verdict

/-! ### A choice under a policy -/

/-- What is picked is the record that the registry has of a candidate that may get requests. -/
theorem record_of_proposal (hs : (env.registry s).Sound) {c : Status}
    (h : env.proposal d s = some c) :
    c.id ∈ (d.known (env.registry s)).map Status.id ∧
      ((env.registry s).known? c.id).map Entry.record = some c.record ∧
      (env.registry s).isAlive d.lenient c.id = true := by
  obtain ⟨i, -, hi⟩ := Option.bind_eq_some_iff.mp h
  have hmem := List.mem_of_getElem? hi
  obtain ⟨hcandidate, hall, -⟩ := Demand.mem_ids_pool.mp (List.mem_map.mpr ⟨c, hmem, rfl⟩)
  have hreachable : c ∈ (env.registry s).reachable d.lenient d.service :=
    mem_of_mem_intersect hmem
  obtain ⟨-, e, he, hstatus⟩ := Registry.known?_of_mem_all hs (List.mem_filter.mp hreachable).1
  refine ⟨Demand.mem_ids_known.mpr ⟨hcandidate, hall⟩, ?_, Demand.isAlive_of_mem_pool hs hmem⟩
  rw [he, ← hstatus]
  rfl

end Surroundings

namespace Balancer

/-- All attempts have failed. -/
def isExhausted : Except Failure Instance → Bool
  | .error (.retriesExhausted _ _ _) => true
  | _ => false

theorem tries_eq_succ (policy : Policy) : ∃ left, tries policy = left + 1 := by
  refine ⟨tries policy - 1, ?_⟩
  unfold tries
  omega

/-- The answer for an outcome of the attempts. -/
def answerOf (service : String) (policy : Policy) : Outcome → Except Failure Instance
  | .chosen record => .ok record
  | .noCandidate => .error (.noCandidates service)
  | .exhausted n => .error (.retriesExhausted service (tries policy) n)

section Choice

variable {σ : Type} {service : String} {policy : Policy} {o : Outcome}

theorem answerOf_eq_noCandidates_iff :
    answerOf service policy o = .error (.noCandidates service) ↔ o = .noCandidate := by
  cases o <;> simp [answerOf]

theorem answerOf_eq_ok_iff {record : Instance} :
    answerOf service policy o = .ok record ↔ o = .chosen record := by
  cases o <;> simp [answerOf]

theorem answerOf_eq_exhausted_iff {n m : Nat} :
    answerOf service policy o = .error (.retriesExhausted service n m) ↔
      n = tries policy ∧ o = .exhausted m := by
  cases o <;> simp [answerOf, eq_comm]

/-- A choice answers the outcome of its attempts. -/
theorem answer_chooseIn (env : Surroundings σ) (service : String) (policy : Policy)
    (candidates : List Status) (s : σ) :
    (chooseIn env service policy candidates s).1 = answerOf service policy
      (attempt env ⟨service, policy.lenient, candidates⟩ (tries policy) s).1 := by
  simp only [chooseIn]
  split
  · rename_i record t heq
    rw [heq]
    rfl
  · rename_i t heq
    rw [heq]
    rfl
  · rename_i n t heq
    rw [heq]
    rfl

/-- What is counted after the attempts. -/
def giveUp (service : String) (policy : Policy) (result : Except Failure Instance) : List Deed :=
  if isExhausted result then
    [.count Metric.maxTries [("algorithm", policy.algorithm.name), ("service", service)] 1]
  else []

theorem countP_isPick_giveUp (result : Except Failure Instance) :
    (giveUp service policy result).countP Deed.isPick = 0 := by
  unfold giveUp
  split <;> rfl

theorem countP_isCount_giveUp (result : Except Failure Instance) :
    (giveUp service policy result).countP Deed.isCount = if isExhausted result then 1 else 0 := by
  unfold giveUp
  split <;> rfl

theorem pick_notMem_giveUp (result : Except Failure Instance) (pool : List Status) :
    .pick pool ∉ giveUp service policy result := by
  unfold giveUp
  split <;> simp

/-- A recorded choice is the choice, with what the attempts do and what is counted after them. -/
theorem chooseIn_recorded {env : Surroundings σ} {candidates : List Status} {s : σ}
    (hfixed : ∀ pool t, env.registry (env.pick pool t).2 = env.registry t)
    (hsound : ∀ k, (env.registry (env.before ⟨service, policy.lenient, candidates⟩ s k)).Sound) :
    let d : Demand := ⟨service, policy.lenient, candidates⟩
    ∃ last < tries policy, (∀ k < last, env.Fails d (env.before d s k)) ∧
      env.Ends d (tries policy) s last (attempt env d (tries policy) s).1 ∧
      chooseIn env.recorded service policy candidates (s, []) =
        ((chooseIn env service policy candidates s).1, (chooseIn env service policy candidates s).2,
          env.deeds d (last + 1) s ++
            giveUp service policy (chooseIn env service policy candidates s).1) := by
  intro d
  obtain ⟨left, hleft⟩ := tries_eq_succ policy
  obtain ⟨last, hlast, hbefore, hends, hrecorded⟩ :=
    Surroundings.attempt_recorded (d := d) hfixed left [] hsound
  rw [← hleft, List.nil_append] at hrecorded
  refine ⟨last, by omega, hbefore, hleft ▸ hends, ?_⟩
  simp only [chooseIn]
  rw [show (⟨service, policy.lenient, candidates⟩ : Demand) = d from rfl, hrecorded]
  cases heq : attempt env d (tries policy) s with
  | mk o t =>
      cases o with
      | chosen record => rw [giveUp, if_neg (by simp [isExhausted]), List.append_nil]
      | noCandidate => rw [giveUp, if_neg (by simp [isExhausted]), List.append_nil]
      | exhausted n => rfl

end Choice

/-- **A choice by attempts.**  In surroundings whose registry is sound, as any registry in use is by
`Registry.sound_runAll`, and stays as it is while an instance is picked but may be any other after a
pause: there is no candidate exactly if some attempt knows none and nothing was picked before it; an
instance is chosen exactly if the first attempt that does not fail picks an entry of its pool, of which
it is the registry's record; and attempts are exhausted exactly if as many have failed as the policy
allows. An index is asked for once in each attempt that has
a pool, and one count is made if the attempts are exhausted; nothing else is done but to pause between
two attempts. -/
theorem choice_of_attempts {σ : Type} {env : Surroundings σ} (service : String) (policy : Policy)
    (candidates : List Status) {s : σ}
    (hfixed : ∀ pool t, env.registry (env.pick pool t).2 = env.registry t)
    (hsound : ∀ k, (env.registry (env.before ⟨service, policy.lenient, candidates⟩ s k)).Sound) :
    let d : Demand := ⟨service, policy.lenient, candidates⟩
    let max := max 1 policy.maxTries.toNat
    let seen := fun k => env.registry (env.before d s k)
    let known := fun k =>
      candidates.filter fun c => c.id ∈ ((seen k).all service).map Status.id
    let picked := fun k => env.proposal d (env.before d s k)
    let result := (chooseIn env service policy candidates s).1
    let recorded := chooseIn env.recorded service policy candidates (s, [])
    let deeds := recorded.2.2
    (result = .error (.noCandidates service) ↔
        ∃ k < max, known k = [] ∧ ∀ j < k, picked j = none) ∧
      (∀ record, result = .ok record ↔
        ∃ k < max, (∃ c, picked k = some c ∧ c.record = record) ∧
          ∀ j < k, known j ≠ [] ∧ picked j = none) ∧
      (∀ n m, result = .error (.retriesExhausted service n m) ↔
        (∀ k < max, known k ≠ [] ∧ picked k = none) ∧ n = max ∧
          m = ((known (max - 1)).map Status.id).dedup.length) ∧
      ((∃ record, result = .ok record) ∨ result = .error (.noCandidates service) ∨
        ∃ m, result = .error (.retriesExhausted service max m)) ∧
      (∀ k c, picked k = some c → c.id ∈ (known k).map Status.id ∧
        ((seen k).known? c.id).map Entry.record = some c.record ∧
        (seen k).isAlive policy.lenient c.id = true) ∧
      recorded.1 = result ∧ recorded.2.1 = (chooseIn env service policy candidates s).2 ∧
      (∃ made, 0 < made ∧ made ≤ max ∧
        (∀ k, k + 1 < made → known k ≠ [] ∧ picked k = none) ∧
        (made = max ∨ ¬(known (made - 1) ≠ [] ∧ picked (made - 1) = none)) ∧
        deeds = env.deeds d made s ++ giveUp service policy result) ∧
      (∀ pool, .pick pool ∈ deeds → pool ≠ []) ∧
      deeds.countP Deed.isPick ≤ max ∧
      deeds.countP Deed.isCount = if isExhausted result then 1 else 0 := by
  intro d max seen known picked result recorded deeds
  obtain ⟨last, hlast, hbefore, hends, hrecorded⟩ := chooseIn_recorded hfixed hsound
  have hanswer : result = answerOf service policy (attempt env d (tries policy) s).1 :=
    answer_chooseIn env service policy candidates s
  have hdeeds : deeds = env.deeds d (last + 1) s ++ giveUp service policy result :=
    congrArg (fun t => t.2.2) hrecorded
  refine ⟨?_, ?_, ?_, ?_, ?_, congrArg Prod.fst hrecorded, congrArg (fun t => t.2.1) hrecorded,
    ?_, ?_, ?_, ?_⟩
  · rw [hanswer, answerOf_eq_noCandidates_iff]
    exact hends.noCandidate_iff hlast hbefore
  · intro record
    rw [hanswer, answerOf_eq_ok_iff]
    exact hends.chosen_iff hlast hbefore
  · intro n m
    rw [hanswer, answerOf_eq_exhausted_iff, hends.exhausted_iff hlast hbefore, and_left_comm]
    rfl
  · rw [hanswer]
    cases (attempt env d (tries policy) s).1 with
    | chosen record => exact Or.inl ⟨record, rfl⟩
    | noCandidate => exact Or.inr (Or.inl rfl)
    | exhausted n => exact Or.inr (Or.inr ⟨n, rfl⟩)
  · intro k c hc
    exact Surroundings.record_of_proposal (hsound k) hc
  · refine ⟨last + 1, Nat.succ_pos last, hlast, fun k hk => hbefore k (by omega), ?_, hdeeds⟩
    exact hends.decided
  · intro pool hmem
    rw [hdeeds, List.mem_append] at hmem
    exact Surroundings.ne_nil_of_pick_mem_deeds
      (hmem.resolve_right (pick_notMem_giveUp result pool))
  · have hpicks : (env.deeds d (last + 1) s).countP Deed.isPick ≤ last + 1 :=
      Surroundings.countP_isPick_deeds_le (last + 1) s
    rw [hdeeds, List.countP_append, countP_isPick_giveUp]
    exact le_trans hpicks hlast
  · rw [hdeeds, List.countP_append, Surroundings.countP_isCount_deeds, countP_isCount_giveUp,
      Nat.zero_add]

/-- The one candidate is down at first and comes up in the pause, while picks are out of range every
second time: the second attempt fails and the third one succeeds. -/
theorem choice_of_attempts_revived :
    let record := Instance.plain "a" "users" "10.0.0.1" 80
    let down := (RegistryAction.runAll .empty [.observe "users" [record], .mark "a" .unhealthy]).1
    let up := (RegistryAction.runAll .empty [.observe "users" [record], .mark "a" .healthy]).1
    -- the state is the number of pauses and of picks
    let env : Surroundings (Nat × Nat) :=
      ⟨fun t => if t.1 = 0 then down else up, fun _ t => (some (1 - t.2), t.1, t.2 + 1),
        fun t => (t.1 + 1, t.2), fun _ _ _ t => t⟩
    let policy : Policy := { Policy.default with maxTries := 3 }
    let candidates : List Status := [⟨record, 0, .unknown⟩]
    (∀ pool t, env.registry (env.pick pool t).2 = env.registry t) ∧
      (chooseIn env "users" policy candidates (0, 0)).1 = .ok record := by
  intro record down up env policy candidates
  have hfixed : ∀ pool t, env.registry (env.pick pool t).2 = env.registry t := fun _ _ => rfl
  have hsound : ∀ t : Nat × Nat, (env.registry t).Sound := by
    intro t
    show (if t.1 = 0 then down else up).Sound
    split
    · exact Registry.sound_runAll Registry.sound_empty _
    · exact Registry.sound_runAll Registry.sound_empty _
  refine ⟨hfixed, ?_⟩
  refine ((choice_of_attempts "users" policy candidates hfixed fun k => hsound _).2.1 record).mpr
    ⟨2, by decide, ⟨⟨record, 0, .healthy⟩, ?_, rfl⟩, ?_⟩
  · decide
  · decide

end Balancer

end LoadBalancer

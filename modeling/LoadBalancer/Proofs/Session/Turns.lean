import Mathlib
import LoadBalancer.Proofs.Session.Calls

/-!
# Instances in turn

A cyclic chooser keeps a cursor for every service. The calls that move it are its turns: those for the
service in which there is something to pick from.

* `Call.isTurn`, `Call.turns` – the turns of a chooser for a service;
* `Call.answered_of_turn`, `Call.cursor_of_not_turn` – a turn answers the instance under the cursor and
  moves it by one, and no other call moves it;
* `Balancer.InTurn`, `Balancer.Through.inTurn` – the same for all calls on the way from one balancer to
  another;
* `count_window` – how often numbers in a row have a remainder;
* `Session.turns_in_order` – the turns of a session, by number, and how they spread over a pool that stays.
-/

namespace LoadBalancer

/-- The rule picks the instances in turn. -/
def PickRule.isCyclic : PickRule → Bool
  | cyclic => true
  | _ => false

theorem PickRule.isCyclic_iff {rule : PickRule} : rule.isCyclic = true ↔ rule = .cyclic := by
  cases rule <;> simp [isCyclic]

/-! ### Cursors that stay -/

namespace Balancer

variable {serial : Nat} {service : String} {chooser : Chooser} {other : String}

/-- The chooser has no turn for the service: it does not pick in turn, or it is another one, or asked for
another service. -/
def Elsewhere (serial : Nat) (service : String) (chooser : Chooser) (other : String) : Prop :=
  chooser.rule.isCyclic = true → (chooser.serial, other) ≠ (serial, service)

theorem cursors_act (b : Balancer) (actions : List RegistryAction) :
    (b.act actions).cursors = b.cursors := by
  rw [act_eq]

theorem cursor_pick (h : Elsewhere serial service chooser other) (b : Balancer) (request : Request)
    (pool : List Status) :
    (pick chooser other request pool b).2.cursor serial service = b.cursor serial service := by
  unfold pick
  cases hrule : chooser.rule with
  | cyclic =>
    have hne := h (PickRule.isCyclic_iff.mpr hrule)
    simp only [turn, cursor, Table.get?_put, if_neg hne]
  | scripted =>
    dsimp only
    rw [balancer_follow, cursor, cursors_act]
    rfl
  | _ => rfl

theorem cursor_chooseByAttempts (h : Elsewhere serial service chooser other) (b : Balancer)
    (policy : Policy) (request : Request) (candidates : List Status) :
    (b.chooseByAttempts chooser other policy request candidates).2.cursor serial service =
      b.cursor serial service := by
  have hkeeps : (surroundings chooser other policy request).Keeps
      fun t => t.cursor serial service = b.cursor serial service := by
    refine ⟨fun pool t ht => (cursor_pick h t request pool).trans ht, fun t ht => ?_⟩
    show (t.sleep policy.backoff).cursor serial service = _
    rw [cursor, cursors_sleep]
    exact ht
  rw [chooseByAttempts_eq]
  exact attempt_keeps hkeeps ⟨other, policy.lenient, candidates⟩ (tries policy) rfl

theorem cursor_choose (h : Elsewhere serial service chooser other) (b : Balancer) (policy : Policy)
    (request : Request) (candidates : List Status) :
    (b.choose chooser other policy request candidates).2.cursor serial service =
      b.cursor serial service := by
  unfold choose
  cases chooser.rule with
  | never => rfl
  | outside advise =>
    dsimp only [consult]
    rw [cursor, cursors_act]
    rfl
  | _ => exact cursor_chooseByAttempts h b policy request candidates

end Balancer

/-! ### Turns -/

namespace Call

/-- It is the turn of a chooser for a service: there is something to pick from. -/
def isTurn (serial : Nat) (service : String) (c : Call) : Bool :=
  c.chooser.rule.isCyclic && c.chooser.serial == serial && c.service == service && !c.pool.isEmpty

/-- The turns of a chooser for a service, among other calls. -/
def turns (serial : Nat) (service : String) (calls : List Call) : List Call :=
  calls.filter (isTurn serial service)

/-- The instance that is answered has an id. -/
def isFor (id : String) (c : Call) : Bool :=
  match c.answer with
  | .ok record => record.id == id
  | .error _ => false

variable {serial : Nat} {service : String} {c : Call}

theorem isTurn_iff :
    c.isTurn serial service = true ↔
      c.chooser.rule = .cyclic ∧ c.chooser.serial = serial ∧ c.service = service ∧ c.pool ≠ [] := by
  simp [isTurn, PickRule.isCyclic_iff, and_assoc]

/-- **A turn** answers the instance under the cursor, and moves the cursor by one. -/
theorem answered_of_turn (hr : c.balancer.registry.Sound) (h : c.isTurn serial service = true) :
    (∃ m, c.pool[c.balancer.cursor serial service % c.pool.length]? = some m ∧
        c.answer = .ok m.record) ∧
      c.answered.2.cursor serial service = c.balancer.cursor serial service + 1 := by
  obtain ⟨hrule, rfl, rfl, hpool⟩ := isTurn_iff.mp h
  have hlt : c.balancer.cursor c.chooser.serial c.service % c.pool.length < c.pool.length :=
    Nat.mod_lt _ (List.length_pos_of_ne_nil hpool)
  have hpick : Balancer.pick c.chooser c.service c.request c.pool c.balancer =
      (some (c.balancer.cursor c.chooser.serial c.service % c.pool.length),
        (c.balancer.turn c.chooser.serial c.service c.pool.length).2) := by
    unfold Balancer.pick
    rw [hrule]
    rfl
  have hm := List.getElem?_eq_getElem hlt
  have hanswered := answered_of_pick (a := .roundRobin) hrule hr hm (congrArg Prod.fst hpick)
  refine ⟨⟨_, hm, congrArg Prod.fst hanswered⟩, ?_⟩
  rw [hanswered, hpick]
  simp only [Balancer.turn, Balancer.cursor, Table.get?_put, if_true, Option.getD_some]

/-- No other call moves the cursor. -/
theorem cursor_of_not_turn (h : c.isTurn serial service = false) :
    c.answered.2.cursor serial service = c.balancer.cursor serial service := by
  by_cases helse : Balancer.Elsewhere serial service c.chooser c.service
  · exact Balancer.cursor_choose helse c.balancer c.policy c.request c.candidates
  · obtain ⟨hcyclic, hsame⟩ := not_forall.mp helse
    obtain ⟨rfl, rfl⟩ := Prod.mk.inj (not_not.mp hsame)
    have hrule := PickRule.isCyclic_iff.mp hcyclic
    have hpool : c.pool = [] := by
      by_contra hne
      rw [isTurn_iff.mpr ⟨hrule, rfl, rfl, hne⟩] at h
      cases h
    unfold Balancer.cursor
    rw [cursors_of_unreachable (a := .roundRobin) hrule hpool]

end Call

/-! ### Turns one after the other -/

namespace Balancer

open Call

variable {serial : Nat} {service : String}

/-- The turns among some calls answer the instances under a cursor that counts on by one. -/
structure InTurn (serial : Nat) (service : String) (start : Nat) (calls : List Call) (stop : Nat) :
    Prop where
  counts : stop = start + (turns serial service calls).length
  answers : ∀ n c, (turns serial service calls)[n]? = some c →
    ∃ m, c.pool[(start + n) % c.pool.length]? = some m ∧ c.answer = .ok m.record

theorem InTurn.append {start middle stop : Nat} {cs ds : List Call}
    (h : InTurn serial service start cs middle) (h' : InTurn serial service middle ds stop) :
    InTurn serial service start (cs ++ ds) stop := by
  have happend : turns serial service (cs ++ ds) = turns serial service cs ++ turns serial service ds :=
    List.filter_append ..
  refine ⟨?_, fun n c hc => ?_⟩
  · rw [happend, List.length_append, h'.counts, h.counts, Nat.add_assoc]
  · rw [happend, List.getElem?_append] at hc
    split at hc
    · exact h.answers n c hc
    · rename_i hn
      have hlater := h'.answers _ c hc
      rwa [h.counts, show start + (turns serial service cs).length +
        (n - (turns serial service cs).length) = start + n by omega] at hlater

theorem inTurn_call {c : Call} (hr : c.balancer.registry.Sound) :
    InTurn serial service (c.balancer.cursor serial service) [c]
      (c.answered.2.cursor serial service) := by
  cases hturn : c.isTurn serial service with
  | false =>
    have hnone : turns serial service [c] = [] := by simp [turns, hturn]
    refine ⟨?_, fun n d hd => ?_⟩
    · rw [hnone, cursor_of_not_turn hturn]
      rfl
    · rw [hnone] at hd
      cases hd
  | true =>
    have hone : turns serial service [c] = [c] := by simp [turns, hturn]
    obtain ⟨hanswer, hcursor⟩ := answered_of_turn hr hturn
    refine ⟨by rw [hone]; exact hcursor, fun n d hd => ?_⟩
    rw [hone] at hd
    cases n with
    | zero =>
      cases hd
      exact hanswer
    | succ n => cases hd

/-- **Calls of choosers take turns**, by induction on the way from one balancer to another. -/
theorem Through.inTurn {b b' : Balancer} {calls : List Call} (h : Through b calls b')
    (hr : b.registry.Sound) :
    InTurn serial service (b.cursor serial service) calls (b'.cursor serial service) := by
  induction h with
  | quiet _ hcursors =>
    refine ⟨?_, fun n c hc => by cases hc⟩
    unfold cursor
    rw [hcursors]
    rfl
  | call c => exact inTurn_call hr
  | trans h _ ih ih' => exact (ih hr).append (ih' (h.sound hr).2)

end Balancer

/-! ### Remainders in a row -/

theorem count_mod {k j : Nat} (h : j < k) (n : Nat) :
    Nat.count (fun x => x % k = j) n = n / k + if j < n % k then 1 else 0 := by
  have hmod := Nat.count_modEq_card n (Nat.zero_lt_of_lt h) j
  simpa only [Nat.ModEq, Nat.mod_eq_of_lt h] using hmod

/-- Of numbers in a row, as many have a remainder as the divisor goes into their number, rounded down or
up. -/
theorem count_window {k j : Nat} (h : j < k) (start n : Nat) :
    Nat.count (fun x => (start + x) % k = j) n = n / k ∨
      Nat.count (fun x => (start + x) % k = j) n = (n + k - 1) / k := by
  have hk : 0 < k := Nat.zero_lt_of_lt h
  have hadd := Nat.count_add (fun x => x % k = j) start n
  rw [count_mod h, count_mod h] at hadd
  -- both numbers by their quotients and remainders
  obtain ⟨a, r, hr, rfl⟩ : ∃ a r, r < k ∧ start = r + k * a :=
    ⟨start / k, start % k, Nat.mod_lt _ hk, (Nat.mod_add_div start k).symm⟩
  obtain ⟨q, t, ht, rfl⟩ : ∃ q t, t < k ∧ n = t + k * q :=
    ⟨n / k, n % k, Nat.mod_lt _ hk, (Nat.mod_add_div n k).symm⟩
  have hsum : r + k * a + (t + k * q) = r + t + k * (a + q) := by ring
  have hround : t + k * q + k - 1 = t + k - 1 + k * q := by omega
  have hdown : (t + k * q) / k = q := by
    rw [Nat.add_mul_div_left _ _ hk, Nat.div_eq_of_lt ht, Nat.zero_add]
  have hup : (t + k - 1 + k * q) / k = (if t = 0 then 0 else 1) + q := by
    rw [Nat.add_mul_div_left _ _ hk]
    split
    · rename_i hzero
      rw [Nat.div_eq_of_lt (by omega)]
    · rw [show t + k - 1 = t - 1 + k by omega, Nat.add_div_right _ hk, Nat.div_eq_of_lt (by omega)]
  rw [hsum, Nat.add_mul_div_left _ _ hk, Nat.add_mul_mod_self_left, Nat.add_mul_div_left _ _ hk,
    Nat.add_mul_mod_self_left, Nat.div_eq_of_lt hr, Nat.mod_eq_of_lt hr] at hadd
  rw [hdown, hround, hup]
  by_cases hcarry : r + t < k
  · rw [Nat.div_eq_of_lt hcarry, Nat.mod_eq_of_lt hcarry] at hadd
    split at hadd <;> split at hadd <;> split <;> omega
  · have hdiv : (r + t) / k = 1 := by
      rw [show r + t = r + t - k + k by omega, Nat.add_div_right _ hk, Nat.div_eq_of_lt (by omega)]
    have hmod : (r + t) % k = r + t - k := by
      rw [Nat.mod_eq_sub_mod (by omega), Nat.mod_eq_of_lt (by omega)]
    rw [hdiv, hmod] at hadd
    split at hadd <;> split at hadd <;> split <;> omega

/-- A list is counted by its positions. -/
theorem countP_eq_count {α : Type} {l : List α} {p : α → Bool} {q : Nat → Prop} [DecidablePred q]
    (h : ∀ n a, l[n]? = some a → (p a = true ↔ q n)) : l.countP p = Nat.count q l.length := by
  have hmap : l.map p = (List.range l.length).map fun n => decide (q n) := by
    refine List.ext_getElem (by simp) fun n hn hn' => ?_
    have hlt : n < l.length := by simpa using hn
    have hpq := h n l[n] (List.getElem?_eq_getElem hlt)
    simp only [List.getElem_map, List.getElem_range]
    by_cases hq : q n
    · simp [hq, hpq.mpr hq]
    · simp [hq, mt hpq.mp hq]
  have hcount := congrArg (List.countP id) hmap
  rw [List.countP_map, List.countP_map] at hcount
  exact hcount

/-! ### Sessions -/

namespace Session

open Balancer Call

/-- A turn is for the instance under the cursor. -/
theorem isFor_iff_of_turn {c : Call} {ids : List String} {k j : Nat} {m : Status}
    (hids : c.poolIds = ids) (hm : c.pool[k % c.pool.length]? = some m) (ha : c.answer = .ok m.record)
    (hj : j < ids.length) : c.isFor ids[j] = true ↔ k % ids.length = j := by
  have hlength : ids.length = c.pool.length := by rw [← hids, poolIds, List.length_map]
  have hid : ids[k % ids.length]? = some m.id := by
    rw [hlength, ← hids, poolIds, List.getElem?_map, hm]
    rfl
  obtain ⟨hlt, hget⟩ := List.getElem?_eq_some_iff.mp hid
  have hnodup : ids.Nodup := hids ▸ c.nodup_poolIds
  unfold isFor
  rw [ha]
  show (m.id == ids[j]) = true ↔ _
  rw [← hget, beq_iff_eq, hnodup.getElem_inj_iff]

/-- **Instances in turn.** Number the calls of a cyclic chooser for a service in which some candidate may
get requests, in whatever routes and with whatever candidates, from the beginning of a session on. The
call with number `n` answers the instance at position `n` modulo the size of its own pool, the different
reachable candidates in their order; the cursor stands at the number of these calls, so no other call has
moved it, and a target that comes to nothing has not moved it back. As long as the pool has the same ids,
every instance is answered once in as many of these calls as there are instances, and in any number of
them as often as their number divided by that of the instances, rounded down or up. -/
theorem turns_in_order [Url.DomainNames] (setup : Setup) (ambient : Ambient) (steps : List SessionStep)
    (serial : Nat) (service : String) :
    let start := (setup.start ambient).2
    let turns := Call.turns serial service (SessionStep.callsAll start steps)
    (SessionStep.runAll start steps).balancer.cursor serial service = turns.length ∧
      (∀ (n : Nat) (c : Call), turns[n]? = some c →
        ∃ m, c.pool[n % c.pool.length]? = some m ∧ c.answer = .ok m.record) ∧
      ∀ (i n : Nat) (ids : List String), i + n ≤ turns.length → (∀ c ∈ (turns.drop i).take n, c.poolIds = ids) → ∀ id ∈ ids,
        let times := ((turns.drop i).take n).countP (Call.isFor id)
        (n = ids.length → times = 1) ∧
          (times = n / ids.length ∨ times = (n + ids.length - 1) / ids.length) := by
  intro start turns
  have hinTurn : InTurn serial service 0 (SessionStep.callsAll start steps)
      ((SessionStep.runAll start steps).balancer.cursor serial service) :=
    (through_runAll start steps).inTurn Registry.sound_empty
  have hanswers : ∀ (n : Nat) (c : Call), turns[n]? = some c →
      ∃ m, c.pool[n % c.pool.length]? = some m ∧ c.answer = .ok m.record := by
    intro n c hc
    have hanswer := hinTurn.answers n c hc
    rwa [Nat.zero_add] at hanswer
  refine ⟨by rw [hinTurn.counts, Nat.zero_add], hanswers, ?_⟩
  intro i n ids hwindow hsame id hid times
  obtain ⟨j, hj, rfl⟩ := List.getElem_of_mem hid
  have hlength : ((turns.drop i).take n).length = n := by
    rw [List.length_take, List.length_drop]
    omega
  have htimes : times = Nat.count (fun x => (i + x) % ids.length = j) n := by
    have hcount : times = Nat.count (fun x => (i + x) % ids.length = j) ((turns.drop i).take n).length := by
      refine countP_eq_count fun x c hc => ?_
      have hx : x < n := by
        rw [← hlength]
        exact (List.getElem?_eq_some_iff.mp hc).1
      have hturn : turns[i + x]? = some c := by
        rwa [List.getElem?_take_of_lt hx, List.getElem?_drop] at hc
      obtain ⟨m, hm, ha⟩ := hanswers (i + x) c hturn
      exact isFor_iff_of_turn (hsame c (List.mem_of_getElem? hc)) hm ha hj
    rwa [hlength] at hcount
  have hspread := count_window hj i n
  rw [← htimes] at hspread
  refine ⟨?_, hspread⟩
  rintro rfl
  have hpos : 0 < ids.length := Nat.zero_lt_of_lt hj
  have hround : (ids.length + ids.length - 1) / ids.length = 1 := by
    rw [show ids.length + ids.length - 1 = ids.length - 1 + ids.length by omega,
      Nat.add_div_right _ hpos, Nat.div_eq_of_lt (by omega)]
  rcases hspread with hspread | hspread
  · rw [hspread, Nat.div_self hpos]
  · rw [hspread, hround]

/-- Two instances, one of which has an address that makes no URL: every second route comes to nothing, and
the turns go on. -/
theorem turns_in_order_misaddressed :
    let records := [Instance.plain "a" "users" "10.0.0.1" 80, Instance.plain "b" "users" "bad host" 80]
    let setup : Setup := ⟨.memory .empty, true, .withDefaults, [], .empty, records, []⟩
    let steps : List SessionStep :=
      [.bind "r" { Policy.default with fallbackToAll := true },
       .routeMany "r" ⟨"lb://users/", [], none, .empty⟩ 4 fun _ => none]
    let turns := Call.turns 1 "users" (SessionStep.callsAll (setup.start ⟨id, id⟩).2 steps)
    turns.length = 4 ∧ (∀ c ∈ (turns.drop 1).take 2, c.poolIds = ["a", "b"]) ∧
      ((turns.drop 1).take 2).countP (Call.isFor "b") = 1 := by
  intro records setup steps turns
  have hlength : turns.length = 4 := by decide +kernel
  have hsame : ∀ c ∈ (turns.drop 1).take 2, c.poolIds = ["a", "b"] := by decide +kernel
  obtain ⟨-, -, hspread⟩ := turns_in_order setup ⟨id, id⟩ steps 1 "users"
  have hb := hspread 1 2 ["a", "b"] (by rw [show _ = 4 from hlength]; decide) hsame "b" (by decide)
  exact ⟨hlength, hsame, hb.1 rfl⟩

end Session

end LoadBalancer

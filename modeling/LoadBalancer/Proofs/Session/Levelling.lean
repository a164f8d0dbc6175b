import Mathlib
import LoadBalancer.Proofs.Levels
import LoadBalancer.Proofs.Session.Calls

/-!
# Least loaded instances

A chooser of least loaded instances goes by the connections that are open when it is asked. As every
selection that is held opens one, the selections level them out.

* `Call.answered_of_leastLoaded` – the answer is the first of the least loaded instances in the pool;
* `Session.Fills` – selections fill up a pool, whatever else happens elsewhere;
* `Session.Fills.pours` – they put one connection after the other on the first of the least loaded;
* `Session.least_loaded_levels` – what follows for the connections, and for the order of the selections.
-/

namespace LoadBalancer

/-- The rule picks a least loaded instance. -/
def PickRule.isLeastLoaded : PickRule → Bool
  | leastLoaded => true
  | _ => false

theorem PickRule.isLeastLoaded_iff {rule : PickRule} :
    rule.isLeastLoaded = true ↔ rule = .leastLoaded := by
  cases rule <;> simp [isLeastLoaded]

namespace Call

variable {c : Call}

/-- The loads in the pool are the connections that are open. -/
theorem loads_pool (hr : c.balancer.registry.Sound) :
    c.pool.map Status.connections = c.poolIds.map c.balancer.registry.connections := by
  rw [poolIds, List.map_map]
  exact List.map_congr_left fun m hm => connections_of_mem_pool hr hm

/-- **The first of the least loaded instances** in the pool is the answer. -/
theorem answered_of_leastLoaded (hrule : c.chooser.rule = .leastLoaded)
    (hr : c.balancer.registry.Sound) (hpool : c.pool ≠ []) :
    ∃ i m, FirstLeast (c.poolIds.map c.balancer.registry.connections) i m.connections ∧
      c.pool[i]? = some m ∧ c.answer = .ok m.record := by
  cases hfrom : leastFrom 0 c.pool with
  | none => exact absurd (leastFrom_eq_none hfrom) hpool
  | some found =>
    obtain ⟨j, load⟩ := found
    obtain ⟨i, rfl, hleast⟩ := leastFrom_spec hfrom
    have hthere := hleast.there
    rw [List.getElem?_map] at hthere
    obtain ⟨m, hm, rfl⟩ := Option.map_eq_some_iff.mp hthere
    have hpick : (Balancer.pick c.chooser c.service c.request c.pool c.balancer).1 = some i := by
      unfold Balancer.pick
      rw [hrule]
      show leastLoaded c.pool = some i
      rw [leastLoaded, hfrom, Option.map_some, Nat.zero_add]
    rw [loads_pool hr] at hleast
    exact ⟨i, m, hleast, hm,
      congrArg Prod.fst (answered_of_pick (a := .leastConnections) hrule hr hm hpick)⟩

end Call

namespace Session

open Balancer

/-! ### Selections that fill up a pool -/

/-- Selections by choosers of least loaded instances fill up a pool of ids. Each is held, under a name
that holds none of the instances. What else happens neither opens nor closes connections to them. -/
inductive Fills [Url.DomainNames] (ids : List String) : Session → List SessionStep → List String → Prop
  | done {s : Session} : Fills ids s [] []
  | select {s : Session} {steps : List SessionStep} {picks : List String}
      {name service heldName : String} {text : RequestText} {chosen : Chosen}
      (hcalls : ∀ c ∈ SessionStep.calls s (.select name service text (some heldName)),
        c.chooser.rule.isLeastLoaded = true ∧ c.poolIds = ids)
      (hfree : ∀ h ∈ s.held.get? heldName, h.id ∉ ids)
      (hanswer : (s.select name service text (some heldName)).1 = .ok chosen)
      (rest : Fills ids (SessionStep.run s (.select name service text (some heldName))) steps picks) :
      Fills ids s (.select name service text (some heldName) :: steps) (chosen.id :: picks)
  | other {s : Session} {step : SessionStep} {steps : List SessionStep} {picks : List String}
      (hsame : ∀ id ∈ ids, (step.run s).balancer.registry.connections id =
        s.balancer.registry.connections id)
      (rest : Fills ids (step.run s) steps picks) : Fills ids s (step :: steps) picks

variable {s : Session} {name service heldName : String} {text : RequestText}

/-- What becomes of connections when one is held: at most the one that was held there is closed. -/
theorem connections_hold {id : String} (h : Held)
    (hfree : ∀ old ∈ s.held.get? heldName, old.id ≠ id) :
    (s.hold heldName h).balancer.registry.connections id = s.balancer.registry.connections id := by
  unfold hold
  cases hold : s.held.get? heldName with
  | none => rfl
  | some old =>
    show (s.balancer.disconnect old.id).2.registry.connections id = _
    rw [registry_disconnect, Registry.connections_disconnect, if_neg (hfree old hold), Nat.sub_zero]

/-- A selection that answers has called its chooser, and left the connection to what becomes of it. -/
theorem exists_call_of_answer [Url.DomainNames] {chosen : Chosen}
    (h : (s.select name service text (some heldName)).1 = .ok chosen) :
    ∃ c ∈ SessionStep.calls s (.select name service text (some heldName)), ∃ record,
      c.answer = .ok record ∧ record.id = chosen.id ∧
      (∀ x, c.balancer.registry.connections x = s.balancer.registry.connections x) ∧
      (c.chooser.rule = .leastLoaded → ∀ x, (∀ old ∈ s.held.get? heldName, old.id ≠ x) →
        (SessionStep.run s (.select name service text (some heldName))).balancer.registry.connections x =
          s.balancer.registry.connections x + if chosen.id = x then 1 else 0) := by
  cases hprepared : s.prepare name text with
  | error e =>
    rw [select_of_refused hprepared] at h
    cases h
  | ok prepared =>
    obtain ⟨bound, request⟩ := prepared
    have hselect : s.select name service text (some heldName) =
        selected (some heldName) (s.balancer.select service request bound).1
          { s with balancer := (s.balancer.select service request bound).2 } :=
      select_of_prepared hprepared
    cases hresult : (s.balancer.select service request bound).1 with
    | error f =>
      rw [hselect, hresult] at h
      cases h
    | ok record =>
      have hchosen : record.id = chosen.id := by
        rw [hselect, hresult] at h
        cases h
        rfl
      obtain ⟨c, hc, hanswer⟩ := exists_call_of_select hresult
      have hcalls : c ∈ SessionStep.calls s (.select name service text (some heldName)) := by
        simp only [SessionStep.calls, hprepared]
        exact hc
      refine ⟨c, hcalls, record, hanswer, hchosen, connections_of_mem_selectCalls hc, ?_⟩
      intro hrule x hfree
      have hbound : bound.chooser.rule = .ofAlgorithm .leastConnections := by
        obtain ⟨-, rfl⟩ := mem_selectCalls.mp hc
        exact hrule
      show (s.select name service text (some heldName)).2.balancer.registry.connections x = _
      rw [hselect, hresult, ← hchosen, ← connections_select_of_ok hbound hresult x]
      exact connections_hold (s := { s with balancer := (s.balancer.select service request bound).2 })
        ⟨record.id, some record⟩ hfree

namespace Fills

variable {ids : List String} {steps : List SessionStep} {picks : List String}

/-- Only different ids are filled up. -/
theorem nodup [Url.DomainNames] (h : Fills ids s steps picks) (hpicks : picks ≠ []) : ids.Nodup := by
  induction h with
  | done => exact absurd rfl hpicks
  | select hcalls _ hanswer _ _ =>
    obtain ⟨c, hc, -⟩ := exists_call_of_answer hanswer
    rw [← (hcalls c hc).2]
    exact c.nodup_poolIds
  | other _ _ ih => exact ih hpicks

/-- **Selections pour** one connection after the other on the first of the least loaded instances, by
induction on them. -/
theorem pours [Url.DomainNames] (h : Fills ids s steps picks) (hr : s.balancer.registry.Sound) :
    Pours ids s.balancer.registry.connections picks
      (SessionStep.runAll s steps).balancer.registry.connections := by
  induction h with
  | done => exact .done fun _ _ => rfl
  | @select s steps picks name service heldName text chosen hcalls hfree hanswer rest ih =>
    have hthrough := through_run s (.select name service text (some heldName))
    obtain ⟨hsound, hnext⟩ := hthrough.sound hr
    obtain ⟨c, hc, record, hrecord, hid, hnow, hafter⟩ := exists_call_of_answer hanswer
    have hrule := PickRule.isLeastLoaded_iff.mp (hcalls c hc).1
    have hpool : c.pool ≠ [] := by
      intro hnil
      rw [Call.answer_of_unreachable (a := .leastConnections) hrule hnil] at hrecord
      cases hrecord
    obtain ⟨i, m, hleast, hm, hmrecord⟩ := Call.answered_of_leastLoaded hrule (hsound c hc) hpool
    obtain rfl : m.record = record := Except.ok.inj (hmrecord.symm.trans hrecord)
    have hids : ids[i]? = some chosen.id := by
      rw [← (hcalls c hc).2, Call.poolIds, List.getElem?_map, hm, ← hid]
      rfl
    rw [(hcalls c hc).2, funext hnow] at hleast
    refine .pour hleast hids (fun x hx => hafter hrule x fun old hold hold' => ?_) (ih hnext)
    exact hfree old hold (hold' ▸ hx)
  | @other s step steps picks hsame rest ih =>
    have hlater := ih ((through_run s step).sound hr).2
    exact hlater.congr hsame

end Fills

/-- **Least loaded instances are levelled out.** In every session in use, a chooser of least loaded
instances answers the first in its pool, the different reachable candidates in their order, that has the
fewest connections in the registry at that moment; without a pool it fails. While selections that are held
fill up a pool of ids, and nothing else opens or closes connections to these, the connections at no time
come apart by more than one or more than they were; after as many selections as were lacking to the largest
number of connections they differ by one at most; and if they were equal, the selections go through the
pool in its order, again and again. -/
theorem least_loaded_levels [Url.DomainNames] (hs : s.Reachable) :
    (∀ step, ∀ c ∈ SessionStep.calls s step, c.chooser.rule = .leastLoaded →
      (c.pool = [] → c.answer = .error c.failure) ∧
      (c.pool ≠ [] → ∃ i m,
        FirstLeast (c.poolIds.map c.balancer.registry.connections) i m.connections ∧
          c.pool[i]? = some m ∧ c.answer = .ok m.record)) ∧
    ∀ ids steps picks, Fills ids s steps picks →
      let before := s.balancer.registry.connections
      let after := (SessionStep.runAll s steps).balancer.registry.connections
      spread after ids ≤ max 1 (spread before ids) ∧
        (shortage before ids ≤ picks.length → spread after ids ≤ 1) ∧
        ((∀ x ∈ ids, ∀ y ∈ ids, before x = before y) →
          ∀ n < picks.length, picks[n]? = ids[n % ids.length]?) := by
  refine ⟨?_, ?_⟩
  · intro step c hc hrule
    exact ⟨Call.answer_of_unreachable (a := .leastConnections) hrule,
      Call.answered_of_leastLoaded hrule (hs.sound_of_mem_calls hc)⟩
  · intro ids steps picks h before after
    have hpours := h.pours hs.sound
    refine ⟨hpours.spread_le, hpours.spread_le_one, fun hlevel n hn => ?_⟩
    have hsome : picks ≠ [] := List.ne_nil_of_length_pos (Nat.zero_lt_of_lt hn)
    exact hpours.cyclic (h.nodup hsome) hlevel hn

/-- Of two instances, one has two connections that are held elsewhere. Two selections level them out, and
the next three take turns; in between a connection to a third instance is opened. -/
theorem least_loaded_levels_pair :
    let a := Instance.plain "a" "users" "10.0.0.1" 80
    let b := Instance.plain "b" "users" "10.0.0.2" 80
    let setup : Setup := ⟨.memory .empty, true, .withDefaults, [], .empty, [a, b], []⟩
    let policy : Policy := { Policy.default with algorithm := .leastTime, fallbackToAll := true }
    let select := fun held => SessionStep.select "r" "users" ⟨"lb://users/", [], none, .empty⟩ (some held)
    let s := SessionStep.runAll (setup.start ⟨id, id⟩).2
      [.bind "r" policy, .openConnection "x" a, .openConnection "y" a]
    let first := [select "1", .connect (Instance.plain "c" "other" "10.0.0.3" 80) 1, select "2"]
    let second := [select "3", select "4", select "5"]
    (∀ c ∈ SessionStep.calls s (select "1"), ∃ i m,
        FirstLeast (c.poolIds.map c.balancer.registry.connections) i m.connections ∧
          c.pool[i]? = some m ∧ c.answer = .ok m.record) ∧
      shortage s.balancer.registry.connections ["a", "b"] = 2 ∧
      Fills ["a", "b"] s first ["b", "b"] ∧
      spread (SessionStep.runAll s first).balancer.registry.connections ["a", "b"] ≤ 1 ∧
      Fills ["a", "b"] (SessionStep.runAll s first) second ["a", "b", "a"] ∧
      ∀ n < 3, ["a", "b", "a"][n]? = ["a", "b"][n % 2]? := by
  intro a b setup policy select s first second
  have hs : s.Reachable := ⟨setup, ⟨id, id⟩, _, rfl⟩
  have hlevel : (SessionStep.runAll s first).Reachable := hs.runAll first
  have hcalls : ∀ c ∈ SessionStep.calls s (select "1"),
      c.chooser.rule.isLeastLoaded = true ∧ c.pool ≠ [] := by decide +kernel
  have hshort : shortage s.balancer.registry.connections ["a", "b"] = 2 := by decide +kernel
  have hequal : ∀ x ∈ ["a", "b"], ∀ y ∈ ["a", "b"],
      (SessionStep.runAll s first).balancer.registry.connections x =
        (SessionStep.runAll s first).balancer.registry.connections y := by decide +kernel
  have hfirst : Fills ["a", "b"] s first ["b", "b"] := by
    refine @Fills.select _ _ _ _ _ _ _ _ _ ⟨"b", 1⟩ ?_ ?_ ?_ (.other ?_
      (@Fills.select _ _ _ _ _ _ _ _ _ ⟨"b", 2⟩ ?_ ?_ ?_ .done)) <;> decide +kernel
  have hsecond : Fills ["a", "b"] (SessionStep.runAll s first) second ["a", "b", "a"] := by
    refine @Fills.select _ _ _ _ _ _ _ _ _ ⟨"a", 3⟩ ?_ ?_ ?_ (@Fills.select _ _ _ _ _ _ _ _ _ ⟨"b", 3⟩ ?_ ?_ ?_
      (@Fills.select _ _ _ _ _ _ _ _ _ ⟨"a", 4⟩ ?_ ?_ ?_ .done)) <;> decide +kernel
  obtain ⟨hanswers, hfills⟩ := least_loaded_levels hs
  obtain ⟨-, hturns⟩ := least_loaded_levels hlevel
  refine ⟨?_, hshort, hfirst, ?_, hsecond, ?_⟩
  · intro c hc
    have hleast := PickRule.isLeastLoaded_iff.mp (hcalls c hc).1
    exact (hanswers (select "1") c hc hleast).2 (hcalls c hc).2
  · refine (hfills ["a", "b"] first ["b", "b"] hfirst).2.1 ?_
    rw [hshort]
    exact le_refl 2
  · intro n hn
    exact (hturns ["a", "b"] second ["a", "b", "a"] hsecond).2.2 hequal n hn

end Session

end LoadBalancer

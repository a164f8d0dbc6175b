import Mathlib
import LoadBalancer.Balancer.Basic
import LoadBalancer.Proofs.Metrics.Measurement
import LoadBalancer.Proofs.Registry.Run
import LoadBalancer.Registry.Report

/-!
# Conservation of connections

Whatever is done to a registry, in whatever order, no connection gets lost: those that were opened,
and those that were to be closed in vain, are together those that were closed and those still open.

* `RegistryAction.balance_run`, `RegistryAction.balance_runAll` – the equation for one action, and
  along a run;
* `Balancer.underflows`, `Sink.total_countUnderflows` – the vain ones are what the sink counts as
  underflows;
* `RegistryAction.Tenure`, `RegistryAction.total_of_tenure` – the total of an entry counts the
  connections opened since the instance became known last;
* `Balancer.connections_conserved` – all of it, for every prefix of every run.
-/

namespace LoadBalancer

namespace RegistryAction

/-- The action opens a connection to an instance. -/
def opens (id : String) : RegistryAction → Bool
  | connect record => record.id = id
  | _ => false

/-- The action closes a connection to an instance, or is meant to. -/
def closes (id : String) : RegistryAction → Bool
  | disconnect other => other = id
  | _ => false

/-! ### The equation -/

/-- **One action.**  An instance without open connections misses the one that is to be closed; in all
other cases the number of open ones follows. -/
theorem balance_run (r : Registry) (a : RegistryAction) (x : String) :
    r.connections x + (if a.opens x then 1 else 0) + (run r a).2.count x =
      (if a.closes x then 1 else 0) + (run r a).1.connections x := by
  cases a with
  | observe service records => simp [run, opens, closes]
  | status record => simp [run, opens, closes]
  | connect record =>
      simp only [run, opens, closes, Registry.connections_connect, decide_eq_true_eq, List.count_nil]
      simp
  | disconnect id =>
      rw [run_disconnect]
      simp only [opens, closes, Registry.connections_disconnect, decide_eq_true_eq]
      by_cases hx : id = x
      · subst hx
        by_cases hzero : r.connections id = 0
        · simp [hzero]
        · simp only [hzero, if_false, if_true, List.count_nil, Bool.false_eq_true]
          omega
      · by_cases hzero : r.connections id = 0 <;> simp [hzero, hx]
  | mark id health => simp [run, opens, closes]
  | evict id => simp [run, opens, closes]

/-- **A whole run**, by induction on its actions. -/
theorem balance_runAll (r : Registry) (actions : List RegistryAction) (x : String) :
    r.connections x + actions.countP (opens x) + (runAll r actions).2.count x =
      actions.countP (closes x) + (runAll r actions).1.connections x := by
  induction actions generalizing r with
  | nil => simp [runAll]
  | cons a rest ih =>
      have hone := balance_run r a x
      have hrest := ih (run r a).1
      rw [runAll_cons, List.countP_cons, List.countP_cons, List.count_append]
      dsimp only
      omega

/-! ### Totals -/

/-- The total of an instance that is known after an action. -/
theorem total_run {r : Registry} {a : RegistryAction} {x : String} {e : Entry}
    (h : (run r a).1.known? x = some e) :
    e.total = r.read Entry.total 0 x + if a.opens x then 1 else 0 := by
  have hread : (run r a).1.read Entry.total 0 x = e.total := Registry.read_of_known? h
  rw [← hread]
  cases a with
  | observe service records => exact Registry.read_observe Registry.steady_total r service records x
  | status record => exact Registry.read_statusOf Registry.steady_total r record x
  | connect record =>
      have hk := Registry.known?_connect r record x
      simp only [run, opens, decide_eq_true_eq]
      split at hk
      · rename_i hid
        rw [Registry.read_of_known? hk, if_pos hid]
        unfold Registry.read
        cases r.known? x <;> rfl
      · rename_i hid
        rw [Registry.read_congr hk, if_neg hid, Nat.add_zero]
  | disconnect id =>
      rw [run_disconnect]
      exact Registry.read_disconnect (fun _ _ => rfl) r id x
  | mark id health => exact Registry.read_mark (fun _ _ => rfl) r id health x
  | evict id =>
      -- what has just been forgotten is not known, so `x` was not
      have hk := Registry.known?_evict r id x
      simp only [run] at h ⊢
      split at hk
      · rw [hk] at h
        cases h
      · exact Registry.read_congr hk

/-- `since` are the actions since an instance became known last: it is unknown before the first of
them, and known after every one of them. -/
structure Tenure (r : Registry) (id : String) (before since : List RegistryAction) : Prop where
  unknown : (runAll r before).1.known? id = none
  known : ∀ part, part ≠ [] → part <+: since → (runAll r (before ++ part)).1.known? id ≠ none

/-- A run up to which an instance is known has a tenure of it, and the total of the instance is the
number of connections opened in it. The induction is on the last action. -/
theorem total_of_tenure {r : Registry} {x : String} (hr : r.known? x = none)
    (actions : List RegistryAction) {e : Entry} (h : (runAll r actions).1.known? x = some e) :
    ∃ before since, actions = before ++ since ∧ Tenure r x before since ∧
      e.total = since.countP (opens x) := by
  induction actions using List.reverseRecOn generalizing e with
  | nil =>
      simp only [runAll] at h
      rw [hr] at h
      cases h
  | append_singleton rest a ih =>
      have hlast := h
      rw [runAll_snoc] at hlast
      have htotal := total_run hlast
      cases hk : (runAll r rest).1.known? x with
      | none =>
          -- the tenure begins with `a`
          rw [Registry.read_of_unknown hk] at htotal
          refine ⟨rest, [a], rfl, ⟨hk, ?_⟩, ?_⟩
          · intro part hne hpart
            have hpart' : part = [a] := by
              rcases List.prefix_cons_iff.mp hpart with hnil | ⟨t, ht, htp⟩
              · exact absurd hnil hne
              · rw [ht, List.prefix_nil.mp htp]
            rw [hpart', h]
            simp
          · rw [htotal, List.countP_singleton, Nat.zero_add]
      | some e' =>
          obtain ⟨before, since, rfl, htenure, hsince⟩ := ih hk
          rw [Registry.read_of_known? hk] at htotal
          refine ⟨before, since ++ [a], by rw [List.append_assoc], ⟨htenure.unknown, ?_⟩, ?_⟩
          · intro part hne hpart
            rcases List.prefix_concat_iff.mp hpart with hfull | hshort
            · rw [hfull, ← List.append_assoc, h]
              simp
            · exact htenure.known part hne hshort
          · rw [htotal, hsince, List.countP_append, List.countP_singleton]

end RegistryAction

/-! ### Underflows in the sink -/

/-- The sink with an underflow counted for each of some ids. -/
def Sink.countUnderflows (s : Sink) (ids : List String) : Sink :=
  ids.foldl (fun s id => s.count Metric.counterUnderflow [("instance", id)] 1) s

namespace Balancer

/-- Underflows, as they are counted. -/
def underflows (ids : List String) : List Measurement :=
  ids.map fun id => .count Metric.counterUnderflow [("instance", id)] 1

theorem countUnderflows_eq_measure (s : Sink) (ids : List String) :
    s.countUnderflows ids = s.measure (underflows ids) := by
  rw [Sink.measure, underflows, List.foldl_map]
  rfl

/-- Each of them adds to the underflows of its own instance. -/
theorem sumAdds_underflows (ids : List String) (x : String) :
    Measurement.sumAdds Metric.counterUnderflow [("instance", x)] (underflows ids) = ids.count x := by
  induction ids with
  | nil => rfl
  | cons id rest ih =>
      have hpasses : Sink.passes [("instance", x)] (Labels.ofList [("instance", id)]) = (id == x) := by
        simp [Sink.passes, Labels.ofList]
      rw [underflows, List.map_cons, ← underflows, Measurement.sumAdds_cons, ih, Measurement.adds,
        hpasses, List.count_cons]
      simp only [decide_true, Bool.true_and]
      exact Nat.add_comm _ _

end Balancer

/-- In memory, the underflows of an instance grow by those that are counted for it. -/
theorem Sink.total_countUnderflows (t : Tally Labels) (ids : List String) (x : String) :
    ((memory t).countUnderflows ids).total Metric.counterUnderflow [("instance", x)] =
      ((memory t).total Metric.counterUnderflow [("instance", x)] + ids.count x) % size64 := by
  rw [Balancer.countUnderflows_eq_measure, total_measure, Balancer.sumAdds_underflows]

namespace Balancer

open RegistryAction

/-- Counting underflows touches nothing but the sink. -/
theorem countUnderflows_eq (b : Balancer) (ids : List String) :
    b.countUnderflows ids =
      { b with sink := if b.reportsUnderflow then b.sink.countUnderflows ids else b.sink } := by
  unfold countUnderflows
  split
  · rename_i hreports
    clear hreports
    unfold Sink.countUnderflows
    induction ids generalizing b with
    | nil => rfl
    | cons id rest ih => exact ih (b.count Metric.counterUnderflow [("instance", id)] 1)
  · rfl

theorem act_eq (b : Balancer) (actions : List RegistryAction) :
    b.act actions =
      { b with
        registry := (runAll b.registry actions).1
        sink := if b.reportsUnderflow then b.sink.countUnderflows (runAll b.registry actions).2
          else b.sink } := by
  simp only [act, countUnderflows_eq]

/-- Actions in turn are the first ones, and then the others. -/
theorem act_append (b : Balancer) (xs ys : List RegistryAction) :
    b.act (xs ++ ys) = (b.act xs).act ys := by
  simp only [act_eq, runAll_append]
  cases b.reportsUnderflow with
  | false => rfl
  | true => simp only [if_true, Sink.countUnderflows, List.foldl_append]

theorem act_connect (b : Balancer) (record : Instance) :
    b.act [.connect record] = (b.connect record).2 := by
  rw [act_eq]
  simp only [runAll, run, connect, List.append_nil, Sink.countUnderflows, List.foldl_nil, ite_self]

theorem act_disconnect (b : Balancer) (id : String) :
    b.act [.disconnect id] = (b.disconnect id).2 := by
  have hans := Registry.answer_disconnect b.registry id
  rw [act_eq, runAll_cons, run_disconnect]
  unfold disconnect
  by_cases hzero : b.registry.connections id = 0
  · rw [if_pos hzero] at hans ⊢
    rw [show b.registry.disconnect id = (none, (b.registry.disconnect id).2) from
      Prod.ext hans rfl]
    simp only [countUnderflows_eq, runAll, List.append_nil]
  · rw [if_neg hzero] at hans ⊢
    rw [show b.registry.disconnect id =
      (some (b.registry.connections id - 1), (b.registry.disconnect id).2) from Prod.ext hans rfl]
    simp only [runAll, List.append_nil, Sink.countUnderflows, List.foldl_nil, ite_self]

/-! ### Answers -/

theorem registry_connect (b : Balancer) (record : Instance) :
    (b.connect record).2.registry = (b.registry.connect record).2 := rfl

theorem registry_disconnect (b : Balancer) (id : String) :
    (b.disconnect id).2.registry = (b.registry.disconnect id).2 := by
  rw [← act_disconnect, act_eq, runAll_cons, run_disconnect]
  rfl

/-- A connection that is open can be closed without an underflow. -/
theorem sink_disconnect {b : Balancer} {id : String} (h : b.registry.connections id ≠ 0) :
    (b.disconnect id).2.sink = b.sink := by
  rw [← act_disconnect, act_eq, runAll_cons, run_disconnect, if_neg h]
  simp only [runAll, List.append_nil, Sink.countUnderflows, List.foldl_nil, ite_self]

/-- Opening a connection answers the number of connections that are open after it. -/
theorem answer_connect (b : Balancer) (record : Instance) :
    (b.connect record).1 = (b.connect record).2.registry.connections record.id := by
  rw [registry_connect, Registry.connections_connect, if_pos rfl]
  exact Registry.answer_connect b.registry record

/-- Closing a connection answers the number of connections that are open after it. -/
theorem answer_disconnect (b : Balancer) (id : String) :
    (b.disconnect id).1 = (b.disconnect id).2.registry.connections id := by
  have hans := Registry.answer_disconnect b.registry id
  rw [registry_disconnect, Registry.connections_disconnect, if_pos rfl]
  unfold disconnect
  split
  · rename_i n registry heq
    rw [heq] at hans
    split at hans
    · cases hans
    · exact Option.some.inj hans
  · rename_i registry heq
    rw [heq] at hans
    split at hans
    · rename_i hzero
      rw [hzero]
    · cases hans

/-! ### The main statement -/

theorem registry_act (b : Balancer) (actions : List RegistryAction) :
    (b.act actions).registry = (runAll b.registry actions).1 := by
  rw [act_eq]

/-- Starting from nothing, the sink counts the connections that were to be closed in vain. There are
too few of them to leave the range of a counter. -/
theorem underflows_act_new (ambient : Ambient) {actions : List RegistryAction} (x : String)
    (h : actions.length < size64) :
    ((Balancer.new ambient).act actions).sink.total Metric.counterUnderflow [("instance", x)] =
      (runAll .empty actions).2.count x := by
  have hlength : (runAll .empty actions).2.count x < size64 := by
    have hcount := List.count_le_length (a := x) (l := (runAll .empty actions).2)
    have hmissed := length_missed_le .empty actions
    omega
  rw [act_eq]
  refine (Sink.total_countUnderflows .empty (runAll .empty actions).2 x).trans ?_
  rw [show (Sink.memory .empty).total Metric.counterUnderflow [("instance", x)] = 0 from rfl,
    Nat.zero_add, Nat.mod_eq_of_lt hlength]

/-- What a snapshot shows of an instance after a run. -/
theorem report_of_snapshot (actions : List RegistryAction) {service x : String}
    {report : InstanceReport} (hmem : report ∈ (runAll .empty actions).1.snapshot service)
    (hid : report.id = x) :
    report.connections = (runAll .empty actions).1.connections x ∧
      report.connections ≤ report.total ∧
      ∃ before since, actions = before ++ since ∧ Tenure .empty x before since ∧
        report.total = since.countP (opens x) := by
  obtain ⟨e, he, rfl⟩ := List.mem_map.mp hmem
  obtain ⟨id, hmember, hknown⟩ := List.mem_filterMap.mp he
  have hsound := Registry.sound_runAll Registry.sound_empty actions id e hknown
  have hx : id = x := hsound.keyed.symm.trans hid
  subst hx
  refine ⟨(Registry.connections_of_known? hknown).symm, hsound.opened, ?_⟩
  exact total_of_tenure rfl actions hknown

/-- **Conservation.**  After every prefix of a run of fewer than 2^64 operations on a fresh registry
that reports to a sink in memory: what was opened and what was counted as underflow is together what
was closed and what is open. Opening and closing are steps of such a run, and answer the number of
connections that are open after them. A snapshot shows as the total of an instance how many
connections were opened since it became known last. -/
theorem connections_conserved (ambient : Ambient) (actions : List RegistryAction) (x : String)
    (h : actions.length < size64) :
    ∀ done, done <+: actions →
      let b := (Balancer.new ambient).act done
      done.countP (opens x) + b.sink.total Metric.counterUnderflow [("instance", x)] =
          done.countP (closes x) + b.registry.connections x ∧
        (∀ record,
          (b.connect record).2 = (Balancer.new ambient).act (done ++ [.connect record]) ∧
          (b.connect record).1 = (b.connect record).2.registry.connections record.id ∧
          1 ≤ (b.connect record).1) ∧
        (∀ id,
          (b.disconnect id).2 = (Balancer.new ambient).act (done ++ [.disconnect id]) ∧
          (b.disconnect id).1 = (b.disconnect id).2.registry.connections id) ∧
        ∀ service report, report ∈ b.registry.snapshot service → report.id = x →
          report.connections = b.registry.connections x ∧
          report.connections ≤ report.total ∧
          ∃ before since, done = before ++ since ∧ Tenure .empty x before since ∧
            report.total = since.countP (opens x) := by
  intro done hdone b
  have hregistry : b.registry = (runAll .empty done).1 := registry_act (Balancer.new ambient) done
  refine ⟨?_, ?_, ?_, ?_⟩
  · have hbalance := balance_runAll .empty done x
    have hshort : done.length < size64 := lt_of_le_of_lt hdone.length_le h
    rw [show Registry.connections .empty x = 0 from rfl, Nat.zero_add] at hbalance
    rw [hregistry, underflows_act_new ambient x hshort]
    exact hbalance
  · intro record
    refine ⟨?_, answer_connect b record, ?_⟩
    · rw [act_append, act_connect]
    · rw [show (b.connect record).1 = (b.registry.connect record).1 from rfl,
        Registry.answer_connect]
      omega
  · intro id
    refine ⟨?_, answer_disconnect b id⟩
    rw [act_append, act_disconnect]
  · intro service report hmem hid
    rw [hregistry] at hmem ⊢
    exact report_of_snapshot done hmem hid

/-- A connection too many is closed, and the instance forgotten and opened anew. -/
theorem connections_conserved_reopened :
    let record := Instance.plain "a" "users" "10.0.0.1" 80
    let actions : List RegistryAction :=
      [.connect record, .disconnect "a", .disconnect "a", .evict "a", .connect record]
    let b := (Balancer.new ⟨id, id⟩).act actions
    actions.length < size64 ∧
      actions.countP (opens "a") + b.sink.total Metric.counterUnderflow [("instance", "a")] =
        actions.countP (closes "a") + b.registry.connections "a" :=
  ⟨by decide, (connections_conserved ⟨id, id⟩ _ "a" (by decide) _ (List.prefix_refl _)).1⟩

end Balancer

end LoadBalancer

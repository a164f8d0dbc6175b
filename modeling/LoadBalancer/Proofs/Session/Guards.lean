import Mathlib
import LoadBalancer.Proofs.Session.Move
import LoadBalancer.Proofs.Table
import LoadBalancer.Registry.Report

/-!
# Held selections are the open connections

In a session whose strategies neither open nor close connections themselves, the registry counts for
every instance exactly the connections to it that are held.

* `Session.guards` – the instances of the connections that are held, one entry for each;
* `Session.Balanced` – the invariant, in the middle of a step: the registry counts what is held and
  what is loose, and no underflow has been counted;
* `Session.balanced_move`, `Session.balanced_moves` – every move keeps it;
* `Session.connections_are_held` – what follows for every run of steps.
-/

namespace LoadBalancer

/-- The choosers of the algorithms act on nothing. -/
theorem Scope.allowsChoosers_withDefaults (S : Scope) : S.AllowsChoosers .withDefaults := by
  suffices ∀ (as : List Algorithm) (c : Choosers), S.AllowsChoosers c →
      S.AllowsChoosers (as.foldl (fun c a => c.install a (.ofAlgorithm a)) c) by
    refine this Algorithm.all .empty ⟨?_, ?_⟩
    · intro a chooser h
      cases h
    · intro chooser h
      cases h
  intro as
  induction as with
  | nil =>
      intro c hc
      exact hc
  | cons a rest ih =>
      intro c hc
      exact ih _ (hc.install (S.allowsRule_ofAlgorithm a) a)

namespace Session

/-! ### Guards -/

/-- The ids of the instances that connections are held to, one for each connection. -/
def guards (s : Session) : List String := s.held.values.map Held.id

theorem guards_perm_of_get? {s : Session} {name : String} {h : Held}
    (hget : s.held.get? name = some h) : s.guards.Perm (h.id :: (s.forget name).guards) :=
  (Table.values_perm_of_get? hget).map Held.id

theorem guards_put_perm (s : Session) (name : String) (h : Held) :
    ({ s with held := s.held.put name h } : Session).guards.Perm
      (h.id :: (s.forget name).guards) :=
  (Table.values_put_perm s.held name h).map Held.id

theorem forget_of_get?_eq_none {s : Session} {name : String} (hget : s.held.get? name = none) :
    s.forget name = s := by
  unfold forget
  rw [Table.erase_of_get?_eq_none hget]

/-! ### The invariant -/

/-- The registry counts the connections that are loose or held, and has never missed one. -/
structure Balanced (loose : List String) (s : Session) : Prop where
  counts : ∀ id, s.balancer.registry.connections id = loose.count id + s.guards.count id
  underflow : Metric.counterUnderflow ∉ s.balancer.sink.counted

/-- **One move.**  A loose connection that is closed is one of those the registry counts. -/
theorem balanced_move {loose loose' : List String} {s s' : Session}
    (h : Move .quiet (loose, s) (loose', s')) (hb : Balanced loose s) : Balanced loose' s' := by
  cases h with
  | act h =>
      refine ⟨?_, ?_⟩
      · intro id
        exact (h.connections id).trans (hb.counts id)
      · intro hc
        exact hb.underflow (h.underflow Scope.neverCloses_quiet hc)
  | connect =>
      rename_i record
      refine ⟨?_, hb.underflow⟩
      intro id
      show (s.balancer.registry.connect record).2.connections id = _ + s.guards.count id
      rw [Registry.connections_connect, hb.counts id, List.count_cons]
      simp only [beq_iff_eq]
      omega
  | close =>
      rename_i id
      -- the connection is loose, so it is counted, and closing it is no underflow
      have hopen : s.balancer.registry.connections id ≠ 0 := by
        rw [hb.counts id, List.count_cons_self]
        omega
      refine ⟨?_, ?_⟩
      · intro x
        show (s.balancer.disconnect id).2.registry.connections x = _ + s.guards.count x
        have hx := hb.counts x
        rw [List.count_cons] at hx
        simp only [beq_iff_eq] at hx
        rw [Balancer.registry_disconnect, Registry.connections_disconnect, hx]
        split <;> omega
      · show Metric.counterUnderflow ∉ (s.balancer.disconnect id).2.sink.counted
        rw [Balancer.sink_disconnect hopen]
        exact hb.underflow
  | take hget =>
      refine ⟨?_, hb.underflow⟩
      intro id
      have hperm := (guards_perm_of_get? hget).count_eq id
      have hid := hb.counts id
      rw [List.count_cons] at hperm ⊢
      exact hid.trans (by omega)
  | put hget =>
      rename_i name h
      refine ⟨?_, hb.underflow⟩
      intro id
      have hperm := (guards_put_perm s name h).count_eq id
      have hid := hb.counts id
      rw [forget_of_get?_eq_none hget] at hperm
      rw [List.count_cons] at hperm hid
      exact hid.trans (by omega)
  | swap hget =>
      rename_i name h old
      refine ⟨?_, hb.underflow⟩
      intro id
      have hold := (guards_perm_of_get? hget).count_eq id
      have hnew := (guards_put_perm s name h).count_eq id
      have hid := hb.counts id
      rw [List.count_cons] at hold hnew hid ⊢
      exact hid.trans (by omega)
  | strip hget =>
      rename_i name h
      refine ⟨?_, hb.underflow⟩
      intro id
      have hold := (guards_perm_of_get? hget).count_eq id
      have hnew := (guards_put_perm s name { h with record := none }).count_eq id
      exact (hb.counts id).trans (by rw [hnew, hold])
  | _ => exact ⟨hb.counts, hb.underflow⟩

theorem balanced_moves {loose loose' : List String} {s s' : Session}
    (h : Moves .quiet (loose, s) (loose', s')) (hb : Balanced loose s) : Balanced loose' s' :=
  moves_induction balanced_move h hb

theorem balanced_start {setup : Setup} (h : Metric.counterUnderflow ∉ setup.sink.counted)
    (ambient : Ambient) : Balanced [] (setup.start ambient).2 :=
  ⟨fun _ => rfl, h⟩

/-! ### What the invariant says -/

/-- Counted over all instances there are as many connections as are held. -/
theorem Balanced.stats_connections {s : Session} (h : Balanced [] s) :
    s.balancer.registry.stats.connections = s.held.size := by
  have hcounts : ∀ id, s.balancer.registry.connections id = s.guards.count id := by
    intro id
    rw [h.counts id, List.count_nil, Nat.zero_add]
  have hvalues : s.balancer.registry.entries.values.map Entry.connections =
      s.balancer.registry.entries.keys.map s.guards.count := by
    simp only [Table.values, Table.keys, List.map_map]
    refine List.map_congr_left ?_
    intro e he
    have hknown : s.balancer.registry.known? e.1 = some e.2 := Table.get?_eq_some_iff.mpr he
    show e.2.connections = s.guards.count e.1
    rw [← Registry.connections_of_known? hknown, hcounts]
  have hkeys : ∀ id ∈ s.guards, id ∈ s.balancer.registry.entries.keys := by
    intro id hid
    have hpos := List.count_pos_iff.mpr hid
    rw [← hcounts id] at hpos
    rw [← Table.contains_iff]
    cases hknown : s.balancer.registry.known? id with
    | none =>
        rw [Registry.connections_of_unknown hknown] at hpos
        omega
    | some e => exact Option.isSome_iff_exists.mpr ⟨e, hknown⟩
  show sumOf (s.balancer.registry.entries.values.map Entry.connections) = s.held.size
  rw [hvalues]
  refine (sumOf_map_count s.balancer.registry.entries.nodup hkeys).trans ?_
  unfold guards Table.values Table.size
  rw [List.length_map, List.length_map]

/-- Releasing answers the number of other connections to the instance that are held. -/
theorem Balanced.release_answer {s : Session} (h : Balanced [] s) {name : String} {held : Held}
    (hget : s.held.get? name = some held) :
    (s.release name).1 = .ok ((s.forget name).guards.count held.id) := by
  have hheld : s.held? name = .ok held := by
    unfold held?
    rw [hget]
  have hafter := balanced_moves (.tail (.single (.take hget)) .close) h
  have hclosed := hafter.counts held.id
  rw [List.count_nil, Nat.zero_add] at hclosed
  unfold release
  rw [hheld]
  show Except.ok ((s.forget name).balancer.disconnect held.id).1 = _
  rw [Balancer.answer_disconnect]
  exact congrArg Except.ok hclosed

/-- What a connection is held to is not forgotten. -/
theorem Balanced.not_mem_of_evict {s : Session} (h : Balanced [] s) {id : String}
    (hevicted : (s.evict id).1 = true) : id ∉ s.guards := by
  obtain ⟨-, hzero⟩ := (Registry.evict_iff s.balancer.registry id).mp hevicted
  rw [h.counts id, List.count_nil, Nat.zero_add] at hzero
  exact List.count_eq_zero.mp hzero

/-! ### The main statement -/

/-- **Held selections are the open connections.**  After every run of steps of a session whose
strategies neither open nor close connections: the registry counts for every instance the connections
that are held to it, and in all as many as are held. Releasing one answers the number of others that
are held to its instance; an instance that is held is not forgotten; and no underflow was ever
counted. -/
theorem connections_are_held [Url.DomainNames] {setup : Setup} (hsetup : Scope.quiet.AllowsSetup setup)
    (hsink : Metric.counterUnderflow ∉ setup.sink.counted) (ambient : Ambient)
    {steps : List SessionStep} (hsteps : ∀ t ∈ steps, Scope.quiet.AllowsStep t) :
    let s := SessionStep.runAll (setup.start ambient).2 steps
    (∀ id, s.balancer.registry.connections id = s.guards.count id) ∧
      s.balancer.registry.stats.connections = s.held.size ∧
      (∀ name held, s.held.get? name = some held →
        (s.release name).1 = .ok ((s.forget name).guards.count held.id)) ∧
      (∀ id, (s.evict id).1 = true → id ∉ s.guards) ∧
      Metric.counterUnderflow ∉ s.balancer.sink.counted ∧
      ∀ filter, s.balancer.sink.total Metric.counterUnderflow filter = 0 := by
  intro s
  have hmoves : Moves .quiet ([], (setup.start ambient).2) ([], s) :=
    moves_runAll (within_start hsetup ambient) hsteps
  have hbalanced : Balanced [] s := balanced_moves hmoves (balanced_start hsink ambient)
  refine ⟨?_, hbalanced.stats_connections, ?_, ?_, hbalanced.underflow, ?_⟩
  · intro id
    rw [hbalanced.counts id, List.count_nil, Nat.zero_add]
  · intro name held hget
    exact hbalanced.release_answer hget
  · intro id hevicted
    exact hbalanced.not_mem_of_evict hevicted
  · intro filter
    exact Sink.total_of_not_counted hbalanced.underflow filter

/-- Two connections are opened, one takes the place of the other, and forgetting is tried. -/
theorem connections_are_held_replaced :
    let record := Instance.plain "a" "users" "10.0.0.1" 80
    let setup : Setup := ⟨.memory .empty, true, .withDefaults, [], .empty, [record], []⟩
    let steps : List SessionStep :=
      [.bind "r" .default, .openConnection "x" record, .openConnection "y" record,
       .openConnection "x" record, .evict "a"]
    let s := SessionStep.runAll (setup.start ⟨id, id⟩).2 steps
    (∀ id, s.balancer.registry.connections id = s.guards.count id) ∧ s.guards = ["a", "a"] :=
  ⟨(connections_are_held ⟨Scope.allowsChoosers_withDefaults _, by simp⟩ (by decide) ⟨id, id⟩
      (by simp [Scope.AllowsStep])).1, by decide⟩

end Session

end LoadBalancer

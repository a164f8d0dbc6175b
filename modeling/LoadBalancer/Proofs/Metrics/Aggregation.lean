import Mathlib
import LoadBalancer.Proofs.Metrics.Measurement

/-!
# Measurements in memory are summed up exactly

Measurements are merged into series as they come in, and what is read back is put together from series. It is
the same as if all measurements since the last time that they were forgotten were looked through one by one.

* `Tags.text?`, `Tags.Has` – the text that tags have for a name, and tags with all pairs of a filter;
  `Sink.passes_ofList` says that labels made of tags pass for the same filters;
* `Measurement.increment?`, `Measurement.observation?` – what a measurement counts for under a filter;
* `SinkAction`, `SinkAction.sinceClear` – what is done to measurements in memory, and the measurements since they
  were last forgotten; `SinkAction.runAll_eq` says that nothing else is left;
* `Measurement.sum_by_text` – **totals by the texts of a tag** add up;
* `SinkAction.Reordered` – one change of the order of tags or of calls, which changes nothing that is read;
* `SinkAction.memory_aggregates` – all of this, about a run.
-/

namespace LoadBalancer

/-! ### Tags -/

namespace Tags

/-- The text that tags have for a name: of several, the last one. -/
def text? (tags : Tags) (name : String) : Option String := (tags.filter (·.1 = name)).getLast?.map Prod.snd

/-- The tags have all pairs of a filter. -/
def Has (tags filter : Tags) : Prop := ∀ pair ∈ filter, tags.text? pair.1 = some pair.2

instance (tags filter : Tags) : Decidable (tags.Has filter) :=
  inferInstanceAs (Decidable (∀ pair ∈ filter, tags.text? pair.1 = some pair.2))

theorem has_nil (tags : Tags) : tags.Has [] := by
  intro pair hpair
  cases hpair

theorem has_cons {tags filter : Tags} {key text : String} :
    tags.Has ((key, text) :: filter) ↔ tags.text? key = some text ∧ tags.Has filter :=
  List.forall_mem_cons

/-- Names that are there have a text. -/
theorem exists_text {tags : Tags} {key : String} (h : key ∈ tags.map Prod.fst) :
    ∃ text, tags.text? key = some text := by
  obtain ⟨pair, hpair, hkey⟩ := List.mem_map.mp h
  have hne : tags.filter (·.1 = key) ≠ [] :=
    List.ne_nil_of_mem (List.mem_filter.mpr ⟨hpair, decide_eq_true hkey⟩)
  refine ⟨((tags.filter (·.1 = key)).getLast hne).2, ?_⟩
  rw [text?, List.getLast?_eq_some_getLast hne]
  rfl

/-- If no name comes twice, every pair counts. -/
theorem text?_eq_some_iff {tags : Tags} (h : (tags.map Prod.fst).Nodup) {name text : String} :
    tags.text? name = some text ↔ (name, text) ∈ tags := by
  constructor
  · intro htext
    obtain ⟨pair, hlast, rfl⟩ := Option.map_eq_some_iff.mp htext
    obtain ⟨hmem, hname⟩ := List.mem_filter.mp (List.mem_of_getLast? hlast)
    rw [← of_decide_eq_true hname]
    exact hmem
  · intro hmem
    obtain ⟨other, hother⟩ := exists_text (List.mem_map.mpr ⟨_, hmem, rfl⟩)
    obtain ⟨pair, hlast, rfl⟩ := Option.map_eq_some_iff.mp hother
    obtain ⟨hpair, hname⟩ := List.mem_filter.mp (List.mem_of_getLast? hlast)
    have hsame : pair = (name, text) := List.inj_on_of_nodup_map h hpair hmem (of_decide_eq_true hname)
    rw [hother, hsame]

/-- If no name comes twice, the order of tags does not matter. -/
theorem text?_of_perm {tags tags' : Tags} (h : tags.Perm tags') (hnodup : (tags.map Prod.fst).Nodup)
    (name : String) : tags'.text? name = tags.text? name := by
  have hnodup' : (tags'.map Prod.fst).Nodup := (h.map Prod.fst).nodup_iff.mp hnodup
  refine Option.ext fun text => ?_
  rw [text?_eq_some_iff hnodup, text?_eq_some_iff hnodup', h.mem_iff]

theorem has_of_perm {tags tags' : Tags} (h : tags.Perm tags') (hnodup : (tags.map Prod.fst).Nodup)
    (filter : Tags) : tags'.Has filter ↔ tags.Has filter := by
  refine forall₂_congr fun pair _ => ?_
  rw [text?_of_perm h hnodup]

end Tags

/-- Labels made of tags have all pairs of a filter exactly if the tags have. -/
theorem Sink.passes_ofList (filter tags : Tags) :
    passes filter (Labels.ofList tags) = decide (tags.Has filter) := by
  rw [Bool.eq_iff_iff, decide_eq_true_eq, passes, List.all_eq_true]
  refine forall₂_congr fun pair _ => ?_
  rw [beq_iff_eq, Labels.get?_ofList]
  rfl

/-! ### What measurements count for -/

namespace Measurement

/-- The amount of an increment of a counter whose tags have all pairs of a filter. -/
def increment? (name : String) (filter : Tags) : Measurement → Option Nat
  | count other tags n => if other = name ∧ tags.Has filter then some n else none
  | time _ _ _ => none

/-- The time that is observed by a timer whose tags have all pairs of a filter. -/
def observation? (name : String) (filter : Tags) : Measurement → Option Nat
  | count _ _ _ => none
  | time other tags nanos => if other = name ∧ tags.Has filter then some nanos else none

/-- The amount of an increment of a counter, whatever its tags. -/
def amount? (name : String) : Measurement → Option Nat
  | count other _ n => if other = name then some n else none
  | time _ _ _ => none

/-- The text of a tag of an increment of a counter. -/
def tagText? (name key : String) : Measurement → Option String
  | count other tags _ => if other = name then tags.text? key else none
  | time _ _ _ => none

theorem increment?_nil (name : String) (m : Measurement) : m.increment? name [] = m.amount? name := by
  cases m with
  | count other tags n => simp only [increment?, amount?, tags.has_nil, and_true]
  | time other tags nanos => rfl

theorem adds_eq (name : String) (filter : Tags) (m : Measurement) :
    m.adds name filter = (m.increment? name filter).getD 0 := by
  cases m with
  | count other tags n =>
      simp only [adds, increment?, Sink.passes_ofList, Bool.and_eq_true, decide_eq_true_eq]
      split <;> rfl
  | time other tags nanos => rfl

theorem times_eq (name : String) (filter : Tags) (m : Measurement) :
    m.times name filter = (m.observation? name filter).toList := by
  cases m with
  | count other tags n => rfl
  | time other tags nanos =>
      simp only [times, observation?, Sink.passes_ofList, Bool.and_eq_true, decide_eq_true_eq]
      split <;> rfl

theorem sumAdds_eq (name : String) (filter : Tags) (ms : List Measurement) :
    sumAdds name filter ms = (ms.filterMap (increment? name filter)).sum := by
  induction ms with
  | nil => rfl
  | cons m rest ih =>
      rw [sumAdds_cons, ih, adds_eq, List.filterMap_cons]
      cases m.increment? name filter with
      | none => exact Nat.zero_add _
      | some n => rfl

theorem allTimes_eq (name : String) (filter : Tags) (ms : List Measurement) :
    allTimes name filter ms = ms.filterMap (observation? name filter) := by
  induction ms with
  | nil => rfl
  | cons m rest ih =>
      rw [allTimes_cons, ih, times_eq, List.filterMap_cons]
      cases m.observation? name filter <;> rfl

/-- Increments under a filter are among all increments of the counter. -/
theorem sumAdds_le (name : String) (filter : Tags) (ms : List Measurement) :
    sumAdds name filter ms ≤ sumAdds name [] ms := by
  induction ms with
  | nil => exact le_refl _
  | cons m rest ih =>
      have hone : m.adds name filter ≤ m.adds name [] := by
        rw [adds_eq, adds_eq, increment?_nil]
        cases m with
        | count other tags n =>
            simp only [increment?, amount?]
            by_cases hname : other = name
            · by_cases hhas : tags.Has filter <;> simp [hname, hhas]
            · simp [hname]
        | time other tags nanos => exact le_refl _
      rw [sumAdds_cons, sumAdds_cons]
      omega

/-! ### Totals by the texts of a tag -/

/-- One measurement is counted under one text, if its tag has one of them. -/
theorem sum_adds_by_text {m : Measurement} {name key : String} {texts : List String} (htexts : texts.Nodup)
    (hm : ∀ tags n, m = count name tags n → ∃ text ∈ texts, tags.text? key = some text) (filter : Tags) :
    (texts.map fun text => m.adds name ((key, text) :: filter)).sum = m.adds name filter := by
  rw [← List.sum_toFinset _ htexts]
  cases m with
  | time other tags nanos => exact Finset.sum_const_zero
  | count other tags n =>
      simp only [adds_eq, increment?, Tags.has_cons]
      by_cases hcounts : other = name ∧ tags.Has filter
      · obtain ⟨rfl, hhas⟩ := hcounts
        obtain ⟨own, hown, htext⟩ := hm tags n rfl
        have hone : ∀ text, (if own = text then some n else none).getD 0 = if own = text then n else 0 := by
          intro text
          split <;> rfl
        simp only [htext, hhas, Option.some.injEq, true_and, and_true, hone, Finset.sum_ite_eq,
          List.mem_toFinset, hown, if_true, Option.getD_some]
      · have hnone : ∀ text, ¬(other = name ∧ tags.text? key = some text ∧ tags.Has filter) := by
          intro text hall
          exact hcounts ⟨hall.1, hall.2.2⟩
        simp only [hnone, hcounts, if_false, Option.getD_none, Finset.sum_const_zero]

/-- **Totals by the texts of a tag add up**, by induction on the measurements, if the tag of each increment has
one of the texts. -/
theorem sum_by_text {ms : List Measurement} {name key : String} {texts : List String} (htexts : texts.Nodup)
    (hall : ∀ tags n, count name tags n ∈ ms → ∃ text ∈ texts, tags.text? key = some text) (filter : Tags) :
    (texts.map fun text => sumAdds name ((key, text) :: filter) ms).sum = sumAdds name filter ms := by
  induction ms with
  | nil => simp [sumAdds_nil]
  | cons m rest ih =>
      have hfirst := sum_adds_by_text htexts (fun tags n hm => hall tags n (hm ▸ List.mem_cons_self)) filter
      have hrest := ih fun tags n hm => hall tags n (List.mem_cons_of_mem _ hm)
      simp only [sumAdds_cons]
      rw [List.sum_map_add, hfirst, hrest]

/-! ### Order -/

/-- The same measurement with its tags in another order, none of which names what another one does. -/
inductive Retagged : Measurement → Measurement → Prop
  | count (name : String) {tags tags' : Tags} (n : Nat) (h : tags.Perm tags')
      (hnodup : (tags.map Prod.fst).Nodup) : Retagged (.count name tags n) (.count name tags' n)
  | time (name : String) {tags tags' : Tags} (nanos : Nat) (h : tags.Perm tags')
      (hnodup : (tags.map Prod.fst).Nodup) : Retagged (.time name tags nanos) (.time name tags' nanos)

/-- The order of tags does not matter. -/
theorem Retagged.counts_same {m m' : Measurement} (h : Retagged m m') (name : String) (filter : Tags) :
    m'.increment? name filter = m.increment? name filter ∧
      m'.observation? name filter = m.observation? name filter := by
  cases h with
  | count other n hperm hnodup =>
      simp only [increment?, observation?, Tags.has_of_perm hperm hnodup, and_self]
  | time other nanos hperm hnodup =>
      simp only [increment?, observation?, Tags.has_of_perm hperm hnodup, and_self]

/-- Two lists of measurements have the same increments and observations, in some order. -/
structure SameAmounts (xs ys : List Measurement) : Prop where
  increments : ∀ name filter,
    (ys.filterMap (increment? name filter)).Perm (xs.filterMap (increment? name filter))
  observations : ∀ name filter,
    (ys.filterMap (observation? name filter)).Perm (xs.filterMap (observation? name filter))

namespace SameAmounts

variable {xs ys zs : List Measurement}

theorem of_perm (h : ys.Perm xs) : SameAmounts xs ys where
  increments := fun _ _ => h.filterMap _
  observations := fun _ _ => h.filterMap _

theorem symm (h : SameAmounts xs ys) : SameAmounts ys xs where
  increments := fun name filter => (h.increments name filter).symm
  observations := fun name filter => (h.observations name filter).symm

theorem trans (h : SameAmounts xs ys) (h' : SameAmounts ys zs) : SameAmounts xs zs where
  increments := fun name filter => (h'.increments name filter).trans (h.increments name filter)
  observations := fun name filter => (h'.observations name filter).trans (h.observations name filter)

/-- The same comes after both. -/
theorem append (h : SameAmounts xs ys) (after : List Measurement) :
    SameAmounts (xs ++ after) (ys ++ after) where
  increments := by
    intro name filter
    rw [List.filterMap_append, List.filterMap_append]
    exact (h.increments name filter).append_right _
  observations := by
    intro name filter
    rw [List.filterMap_append, List.filterMap_append]
    exact (h.observations name filter).append_right _

theorem of_retagged (before : List Measurement) {m m' : Measurement} (h : Retagged m m') :
    SameAmounts (before ++ [m]) (before ++ [m']) where
  increments := by
    intro name filter
    have hone : [m'].filterMap (increment? name filter) = [m].filterMap (increment? name filter) := by
      simp only [List.filterMap_cons, (h.counts_same name filter).1]
    rw [List.filterMap_append, List.filterMap_append, hone]
  observations := by
    intro name filter
    have hone : [m'].filterMap (observation? name filter) = [m].filterMap (observation? name filter) := by
      simp only [List.filterMap_cons, (h.counts_same name filter).2]
    rw [List.filterMap_append, List.filterMap_append, hone]

end SameAmounts

end Measurement

open Measurement

/-! ### What is done to measurements in memory -/

/-- Something is measured, or all measurements are forgotten. -/
inductive SinkAction where
  | measure (m : Measurement)
  | clear
  deriving DecidableEq, Repr

namespace SinkAction

/-- The sink after an action. -/
def run (s : Sink) : SinkAction → Sink
  | measure m => s.make m
  | clear => s.clear

/-- The sink after actions in turn. -/
def runAll (s : Sink) (actions : List SinkAction) : Sink := actions.foldl run s

/-- What is measured. -/
def measurement? : SinkAction → Option Measurement
  | measure m => some m
  | clear => none

/-- The measurements since they were last forgotten. -/
def sinceClear (actions : List SinkAction) : List Measurement :=
  (actions.rtakeWhile (·.measurement?.isSome)).filterMap measurement?

theorem sinceClear_measure (actions : List SinkAction) (m : Measurement) :
    sinceClear (actions ++ [measure m]) = sinceClear actions ++ [m] := by
  rw [sinceClear, List.rtakeWhile_concat]
  show List.filterMap measurement? (_ ++ [measure m]) = _
  rw [List.filterMap_append]
  rfl

theorem sinceClear_clear (actions : List SinkAction) : sinceClear (actions ++ [clear]) = [] := by
  rw [sinceClear, List.rtakeWhile_concat]
  rfl

/-- **What was measured before is forgotten, and everything since is there**, by induction on the actions from
the last one back. -/
theorem runAll_eq (actions : List SinkAction) :
    runAll (.memory .empty) actions = (Sink.memory .empty).measure (sinceClear actions) := by
  induction actions using List.reverseRecOn with
  | nil => rfl
  | append_singleton actions a ih =>
      have hlast : runAll (.memory .empty) (actions ++ [a]) = run (runAll (.memory .empty) actions) a :=
        List.foldl_append
      rw [hlast]
      cases a with
      | measure m =>
          rw [sinceClear_measure, Sink.measure_append, ← ih]
          rfl
      | clear =>
          obtain ⟨t, hsink, -⟩ := Sink.gains_measure .empty (sinceClear actions)
          rw [sinceClear_clear, ih, hsink]
          rfl

/-- Totals are words of 64 bits. -/
theorem total_runAll (actions : List SinkAction) (name : String) (filter : Tags) :
    (runAll (.memory .empty) actions).total name filter =
      ((sinceClear actions).filterMap (increment? name filter)).sum % size64 := by
  have hnothing : (Sink.memory .empty).total name filter = 0 := rfl
  rw [runAll_eq, Sink.total_measure, hnothing, Nat.zero_add, sumAdds_eq]

theorem timings_runAll (actions : List SinkAction) (name : String) (filter : Tags) :
    ((runAll (.memory .empty) actions).timings name filter).Perm
      ((sinceClear actions).filterMap (observation? name filter)) := by
  have hperm := Sink.timings_measure .empty (sinceClear actions) name filter
  have hnothing : (Sink.memory .empty).timings name filter = [] := rfl
  rw [hnothing, List.append_nil, allTimes_eq] at hperm
  rw [runAll_eq]
  exact hperm

/-! ### Order of calls -/

/-- One change of order: the tags of one call, or two calls that follow each other. -/
inductive Reordered : List SinkAction → List SinkAction → Prop
  | tags (before after : List SinkAction) {m m' : Measurement} (h : m.Retagged m') :
      Reordered (before ++ [measure m] ++ after) (before ++ [measure m'] ++ after)
  | calls (before after : List SinkAction) (m m' : Measurement) :
      Reordered (before ++ [measure m] ++ [measure m'] ++ after)
        (before ++ [measure m'] ++ [measure m] ++ after)

/-- What follows makes no difference, by induction on it from its end. -/
theorem sameAmounts_append {xs ys : List SinkAction} (h : SameAmounts (sinceClear xs) (sinceClear ys))
    (after : List SinkAction) : SameAmounts (sinceClear (xs ++ after)) (sinceClear (ys ++ after)) := by
  induction after using List.reverseRecOn with
  | nil =>
      rw [List.append_nil, List.append_nil]
      exact h
  | append_singleton after a ih =>
      rw [← List.append_assoc, ← List.append_assoc]
      cases a with
      | measure m =>
          rw [sinceClear_measure, sinceClear_measure]
          exact ih.append [m]
      | clear =>
          rw [sinceClear_clear, sinceClear_clear]
          exact .of_perm (List.Perm.refl _)

theorem Reordered.sameAmounts {xs ys : List SinkAction} (h : Reordered xs ys) :
    SameAmounts (sinceClear xs) (sinceClear ys) := by
  cases h with
  | tags before after hm =>
      refine sameAmounts_append ?_ after
      rw [sinceClear_measure, sinceClear_measure]
      exact .of_retagged _ hm
  | calls before after m m' =>
      refine sameAmounts_append ?_ after
      rw [sinceClear_measure, sinceClear_measure, sinceClear_measure, sinceClear_measure,
        List.append_assoc, List.append_assoc]
      exact .of_perm ((List.Perm.swap m m' []).append_left _)

/-- Any number of changes of order leave the amounts alone. -/
theorem sameAmounts_of_eqvGen {xs ys : List SinkAction} (h : Relation.EqvGen Reordered xs ys) :
    SameAmounts (sinceClear xs) (sinceClear ys) := by
  induction h with
  | rel xs ys h => exact h.sameAmounts
  | refl xs => exact .of_perm (List.Perm.refl _)
  | symm xs ys _ ih => exact ih.symm
  | trans xs ys zs _ _ ih ih' => exact ih.trans ih'

/-! ### The main statement -/

/-- **Measurements in memory are summed up exactly.** Whatever was measured and forgotten: the total of a
counter under a filter is the sum of its increments since then whose tags have all pairs of the filter, as long
as the increments of the counter stay below 64 bits; without a filter it is the sum of all its increments, and
if a tag is there in each of them, the totals by the different texts of this tag add up to the total, also
under a further filter. The observations of a timer are as many as the matching ones since then, and add up to
the same. Neither the order of tags, of which none names what another one does, nor the order of calls between
two times of forgetting makes a difference. -/
theorem memory_aggregates (actions : List SinkAction) :
    let s := runAll (.memory .empty) actions
    let log := sinceClear actions
    (∀ name, (log.filterMap (amount? name)).sum < size64 →
      (∀ filter, s.total name filter = (log.filterMap (increment? name filter)).sum) ∧
      s.total name [] = (log.filterMap (amount? name)).sum ∧
      ∀ key, (∀ tags n, .count name tags n ∈ log → key ∈ tags.map Prod.fst) → ∀ filter,
        ((log.filterMap (tagText? name key)).dedup.map fun text =>
          s.total name ((key, text) :: filter)).sum = s.total name filter) ∧
    (∀ name filter,
      (s.timings name filter).length = (log.filterMap (observation? name filter)).length ∧
      (s.timings name filter).sum = (log.filterMap (observation? name filter)).sum) ∧
    ∀ others, Relation.EqvGen Reordered actions others →
      let s' := runAll (.memory .empty) others
      ∀ name filter, s'.total name filter = s.total name filter ∧
        (s'.timings name filter).length = (s.timings name filter).length ∧
        (s'.timings name filter).sum = (s.timings name filter).sum := by
  intro s log
  refine ⟨?_, ?_, ?_⟩
  · intro name hbelow
    have hall : sumAdds name [] log = (log.filterMap (amount? name)).sum := by
      rw [sumAdds_eq]
      exact congrArg (fun f => (log.filterMap f).sum) (funext (increment?_nil name))
    have htotal : ∀ filter, s.total name filter = (log.filterMap (increment? name filter)).sum := by
      intro filter
      have hpart : (log.filterMap (increment? name filter)).sum ≤ (log.filterMap (amount? name)).sum := by
        rw [← hall, ← sumAdds_eq]
        exact sumAdds_le name filter log
      exact (total_runAll actions name filter).trans (Nat.mod_eq_of_lt (lt_of_le_of_lt hpart hbelow))
    refine ⟨htotal, ?_, ?_⟩
    · rw [htotal, ← sumAdds_eq, hall]
    · intro key hkey filter
      have htexts : ∀ tags n, .count name tags n ∈ log →
          ∃ text ∈ (log.filterMap (tagText? name key)).dedup, tags.text? key = some text := by
        intro tags n hmem
        obtain ⟨text, htext⟩ := Tags.exists_text (hkey tags n hmem)
        refine ⟨text, List.mem_dedup.mpr (List.mem_filterMap.mpr ⟨_, hmem, ?_⟩), htext⟩
        rw [tagText?, if_pos rfl, htext]
      simp only [htotal, ← sumAdds_eq]
      exact sum_by_text (List.nodup_dedup _) htexts filter
  · intro name filter
    have hperm := timings_runAll actions name filter
    exact ⟨hperm.length_eq, hperm.sum_eq⟩
  · intro others hothers s' name filter
    have hsame := sameAmounts_of_eqvGen hothers
    have htimings := ((timings_runAll others name filter).trans (hsame.observations name filter)).trans
      (timings_runAll actions name filter).symm
    refine ⟨?_, htimings.length_eq, htimings.sum_eq⟩
    rw [total_runAll, total_runAll, (hsame.increments name filter).sum_eq]

/-- After something was forgotten, two increments come whose tag has the texts `b` and `a`, the first of them
under an earlier text too, and then two times. A filter that contradicts itself counts nothing. -/
theorem memory_aggregates_forgotten :
    let first := Measurement.count "c" [("k", "a"), ("k", "b")] 1
    let second := Measurement.count "c" [("m", "z"), ("k", "a")] 2
    let second' := Measurement.count "c" [("k", "a"), ("m", "z")] 2
    let times := [measure (.time "t" [("o", "x")] 10), measure (.time "t" [] 20)]
    let before := [measure (.count "c" [] 5), clear]
    let actions := before ++ [measure first] ++ [measure second] ++ times
    let others := before ++ [measure second'] ++ [measure first] ++ times
    let s := runAll (.memory .empty) actions
    s.total "c" [] = 3 ∧ s.total "c" [("k", "b")] = 1 ∧ s.total "c" [("k", "a"), ("k", "b")] = 0 ∧
      (["b", "a"].map fun text => s.total "c" [("k", text)]).sum = s.total "c" [] ∧
      (s.timings "t" []).length = 2 ∧ (s.timings "t" [("o", "x")]).sum = 10 ∧
      Relation.EqvGen Reordered actions others ∧
      (runAll (.memory .empty) others).total "c" [("m", "z")] = s.total "c" [("m", "z")] := by
  intro first second second' times before actions others s
  obtain ⟨hcounters, htimers, horder⟩ := memory_aggregates actions
  have hbelow : ((sinceClear actions).filterMap (amount? "c")).sum < size64 := by decide
  obtain ⟨htotal, hall, hsplit⟩ := hcounters "c" hbelow
  have hkeys : ∀ tags n, Measurement.count "c" tags n ∈ sinceClear actions → "k" ∈ tags.map Prod.fst := by
    intro tags n hmem
    have hlog : sinceClear actions = [first, second, .time "t" [("o", "x")] 10, .time "t" [] 20] := rfl
    rw [hlog] at hmem
    simp only [first, second, List.mem_cons, Measurement.count.injEq, reduceCtorEq, List.not_mem_nil, true_and,
      or_false] at hmem
    obtain ⟨rfl, -⟩ | ⟨rfl, -⟩ := hmem <;> decide
  have hothers : Relation.EqvGen Reordered actions others := by
    have hretagged : second.Retagged second' := .count "c" 2 (List.Perm.swap _ _ []) (by decide)
    have hswapped : Reordered actions (before ++ [measure second] ++ [measure first] ++ times) :=
      .calls before times first second
    have hturned : Reordered (before ++ [measure second] ++ ([measure first] ++ times))
        (before ++ [measure second'] ++ ([measure first] ++ times)) := .tags _ _ hretagged
    rw [← List.append_assoc, ← List.append_assoc] at hturned
    exact .trans _ _ _ (.rel _ _ hswapped) (.rel _ _ hturned)
  refine ⟨hall.trans (by decide), (htotal _).trans (by decide), (htotal _).trans (by decide), hsplit "k" hkeys [],
    (htimers "t" []).1.trans (by decide), (htimers "t" _).2.trans (by decide), hothers, ?_⟩
  exact (horder others hothers "c" _).1

end SinkAction

end LoadBalancer

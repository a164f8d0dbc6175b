import Mathlib
import LoadBalancer.Proofs.Registry.Operation

/-!
# Runs of registry actions

What holds after every run of actions, and what one registry can become of another.

* `Entry.Law`, `Registry.Every` – a property of all entries that no operation breaks; `every_run` and
  `every_runAll` keep it along every run;
* `Registry.Sound` – one of them: every entry is kept under the id of its record, and no more
  connections are open than were ever opened;
* `Registry.Leads` – a registry comes out of another by actions of some kind, the form in which
  everything that happens in a balancer acts on its registry;
* `RegistryAction.Along`, `RegistryAction.Sometime` – every action of a run, or some action of it, has a
  property in the registry that it acts on.
-/

namespace LoadBalancer

namespace RegistryAction

theorem runAll_cons (r : Registry) (a : RegistryAction) (rest : List RegistryAction) :
    runAll r (a :: rest) =
      ((runAll (run r a).1 rest).1, (run r a).2 ++ (runAll (run r a).1 rest).2) := rfl

theorem runAll_append (r : Registry) (xs ys : List RegistryAction) :
    runAll r (xs ++ ys) =
      ((runAll (runAll r xs).1 ys).1, (runAll r xs).2 ++ (runAll (runAll r xs).1 ys).2) := by
  induction xs generalizing r with
  | nil => rfl
  | cons a rest ih =>
      rw [List.cons_append, runAll_cons, ih, runAll_cons, List.append_assoc]

theorem runAll_snoc (r : Registry) (xs : List RegistryAction) (a : RegistryAction) :
    (runAll r (xs ++ [a])).1 = (run (runAll r xs).1 a).1 := by
  rw [runAll_append]
  rfl

theorem run_disconnect (r : Registry) (id : String) :
    run r (.disconnect id) =
      ((r.disconnect id).2, if r.connections id = 0 then [id] else []) := by
  have hans := Registry.answer_disconnect r id
  by_cases hzero : r.connections id = 0
  · rw [if_pos hzero] at hans ⊢
    simp only [run]
    rw [show r.disconnect id = (none, (r.disconnect id).2) from Prod.ext hans rfl]
  · rw [if_neg hzero] at hans ⊢
    simp only [run]
    rw [show r.disconnect id = (some (r.connections id - 1), (r.disconnect id).2) from
      Prod.ext hans rfl]

/-- Every action misses at most one connection that was to be closed. -/
theorem length_missed_le (r : Registry) (actions : List RegistryAction) :
    (runAll r actions).2.length ≤ actions.length := by
  induction actions generalizing r with
  | nil => simp [runAll]
  | cons a rest ih =>
      have hrest := ih (run r a).1
      have hone : (run r a).2.length ≤ 1 := by
        cases a with
        | disconnect id =>
            rw [run_disconnect]
            split <;> simp
        | _ => simp [run]
      rw [runAll_cons, List.length_append, List.length_cons]
      omega

/-! ### Actions where they act -/

/-- Every action of a run has a property in the registry that it acts on. -/
def Along (P : Registry → RegistryAction → Prop) (r : Registry) : List RegistryAction → Prop
  | [] => True
  | a :: rest => P r a ∧ Along P (run r a).1 rest

/-- Some action of a run has a property in the registry that it acts on. -/
def Sometime (P : Registry → RegistryAction → Prop) (r : Registry) : List RegistryAction → Prop
  | [] => False
  | a :: rest => P r a ∨ Sometime P (run r a).1 rest

section Along

variable {P : Registry → RegistryAction → Prop} {Q : Registry → Prop} {r : Registry}

/-- What every such action keeps is kept by the run. -/
theorem Along.keeps (hstep : ∀ r a, P r a → Q r → Q (run r a).1) {actions : List RegistryAction}
    (h : Along P r actions) (hr : Q r) : Q (runAll r actions).1 := by
  induction actions generalizing r with
  | nil => exact hr
  | cons a rest ih => exact ih h.2 (hstep r a h.1 hr)

/-- What such an action brings about, and the others keep, holds at the end. -/
theorem Sometime.brings {R : Registry → RegistryAction → Prop}
    (hdone : ∀ r a, P r a → R r a → Q (run r a).1) (hstep : ∀ r a, R r a → Q r → Q (run r a).1)
    {actions : List RegistryAction} (h : Sometime P r actions) (hall : Along R r actions) :
    Q (runAll r actions).1 := by
  induction actions generalizing r with
  | nil => exact h.elim
  | cons a rest ih =>
      rcases h with hnow | hlater
      · exact hall.2.keeps hstep (hdone r a hnow hall.1)
      · exact ih hlater hall.2

end Along

end RegistryAction

/-- The records that an action brings to a registry. -/
def RegistryAction.brings : RegistryAction → List Instance
  | observe _ records => records
  | status record => [record]
  | connect record => [record]
  | _ => []

/-! ### Properties of all entries -/

/-- A property of entries under their ids that no operation breaks, as long as the records that come
in are of some kind. -/
structure Entry.Law (ok : Instance → Prop) (P : String → Entry → Prop) : Prop where
  fresh : ∀ service record, ok record → P record.id (Entry.fresh service record)
  record : ∀ e record, ok record → P record.id e → P record.id { e with record }
  opened : ∀ id e, P id e → P id { e with connections := e.connections + 1, total := e.total + 1 }
  closed : ∀ id e, P id e → P id { e with connections := e.connections - 1 }
  marked : ∀ id e health, P id e → P id { e with health }

namespace Registry

/-- Every entry has a property. -/
def Every (P : String → Entry → Prop) (r : Registry) : Prop :=
  ∀ id e, r.known? id = some e → P id e

section Every

variable {ok : Instance → Prop} {P : String → Entry → Prop} {r : Registry}

theorem every_empty : Every P .empty := by
  intro id e h
  cases h

theorem every_observeOne (law : Entry.Law ok P) (h : r.Every P) (service : String)
    {record : Instance} (hok : ok record) : (observeOne service r record).Every P := by
  intro id e he
  rw [known?_observeOne] at he
  split at he
  · rename_i hid
    subst hid
    cases hold : r.known? record.id with
    | none =>
        rw [hold] at he
        cases he
        exact law.fresh service record hok
    | some old =>
        rw [hold] at he
        cases he
        exact law.record old record hok (h record.id old hold)
  · exact h id e he

theorem every_observe (law : Entry.Law ok P) (h : r.Every P) (service : String)
    {records : List Instance} (hok : ∀ i ∈ records, ok i) :
    (r.observe service records).Every P := by
  unfold observe
  induction records generalizing r with
  | nil => exact h
  | cons record rest ih =>
      have hone := every_observeOne law h service (hok record List.mem_cons_self)
      exact ih hone fun i hi => hok i (List.mem_cons_of_mem _ hi)

theorem every_ensure (law : Entry.Law ok P) (h : r.Every P) {record : Instance}
    (hok : ok record) : (r.ensure record).Every P := by
  unfold ensure
  split
  · exact h
  · exact every_observeOne law h record.service hok

/-- **One action**, one kind at a time. -/
theorem every_run (law : Entry.Law ok P) (h : r.Every P) {a : RegistryAction}
    (hok : ∀ i ∈ a.brings, ok i) : (RegistryAction.run r a).1.Every P := by
  cases a with
  | observe service records => exact every_observe law h service hok
  | status record =>
      show (r.statusOf record).2.Every P
      rw [registry_statusOf]
      exact every_ensure law h (hok record List.mem_cons_self)
  | connect record =>
      -- the connection is counted in the entry that there is once the instance is known
      have hready := every_ensure law h (hok record List.mem_cons_self)
      intro id e he
      rw [RegistryAction.run, known?_connect] at he
      split at he
      · rename_i hid
        subst hid
        cases he
        exact law.opened record.id _ (hready record.id _ (known?_ensure_self r record))
      · exact h id e he
  | disconnect id =>
      intro x e he
      rw [RegistryAction.run_disconnect, known?_disconnect] at he
      split at he
      · obtain ⟨old, hold, rfl⟩ := Option.map_eq_some_iff.mp he
        exact law.closed x old (h x old hold)
      · exact h x e he
  | mark id health =>
      intro x e he
      rw [RegistryAction.run, known?_mark] at he
      split at he
      · obtain ⟨old, hold, rfl⟩ := Option.map_eq_some_iff.mp he
        exact law.marked x old health (h x old hold)
      · exact h x e he
  | evict id =>
      intro x e he
      rw [RegistryAction.run, known?_evict] at he
      split at he
      · cases he
      · exact h x e he

/-- **A whole run**, by induction on its actions. -/
theorem every_runAll (law : Entry.Law ok P) {actions : List RegistryAction} (h : r.Every P)
    (hok : ∀ a ∈ actions, ∀ i ∈ a.brings, ok i) : (RegistryAction.runAll r actions).1.Every P := by
  induction actions generalizing r with
  | nil => exact h
  | cons a rest ih =>
      have hone := every_run law h (hok a List.mem_cons_self)
      exact ih hone fun b hb => hok b (List.mem_cons_of_mem _ hb)

end Every

end Registry

/-! ### Soundness -/

/-- The entry belongs under the id, and has no more open connections than were ever opened. -/
structure Entry.Sound (id : String) (e : Entry) : Prop where
  keyed : e.record.id = id
  opened : e.connections ≤ e.total

/-- No operation makes an entry unsound, whatever records come in. -/
theorem Entry.Sound.law : Entry.Law (fun _ => True) Entry.Sound where
  fresh := fun _ _ _ => ⟨rfl, le_refl _⟩
  record := fun _ _ _ h => ⟨rfl, h.opened⟩
  opened := fun _ _ h => ⟨h.keyed, Nat.succ_le_succ h.opened⟩
  closed := fun _ _ h => ⟨h.keyed, le_trans (Nat.sub_le _ _) h.opened⟩
  marked := fun _ _ _ h => ⟨h.keyed, h.opened⟩

namespace Registry

/-- Every entry belongs under its id. -/
def Sound (r : Registry) : Prop := r.Every Entry.Sound

theorem sound_empty : Sound .empty := every_empty

theorem sound_ensure {r : Registry} (h : r.Sound) (record : Instance) : (r.ensure record).Sound :=
  every_ensure Entry.Sound.law h trivial

theorem sound_run {r : Registry} (h : r.Sound) (a : RegistryAction) :
    (RegistryAction.run r a).1.Sound :=
  every_run Entry.Sound.law h fun _ _ => trivial

theorem sound_runAll {r : Registry} (h : r.Sound) (actions : List RegistryAction) :
    (RegistryAction.runAll r actions).1.Sound :=
  every_runAll Entry.Sound.law h fun _ _ _ _ => trivial

/-! ### What becomes of a registry -/

/-- The second registry comes out of the first by actions of some kind. -/
def Leads (allowed : RegistryAction → Prop) (r r' : Registry) : Prop :=
  ∃ actions, (∀ a ∈ actions, allowed a) ∧ (RegistryAction.runAll r actions).1 = r'

namespace Leads

variable {allowed : RegistryAction → Prop} {r r' r'' : Registry}

theorem refl (r : Registry) : Leads allowed r r :=
  ⟨[], by simp, rfl⟩

theorem trans (h : Leads allowed r r') (h' : Leads allowed r' r'') : Leads allowed r r'' := by
  obtain ⟨xs, hxs, rfl⟩ := h
  obtain ⟨ys, hys, rfl⟩ := h'
  refine ⟨xs ++ ys, ?_, by rw [RegistryAction.runAll_append]⟩
  intro a ha
  rcases List.mem_append.mp ha with ha | ha
  · exact hxs a ha
  · exact hys a ha

theorem single {a : RegistryAction} (ha : allowed a) :
    Leads allowed r (RegistryAction.run r a).1 :=
  ⟨[a], by simpa using ha, rfl⟩

theorem runAll {actions : List RegistryAction} (h : ∀ a ∈ actions, allowed a) :
    Leads allowed r (RegistryAction.runAll r actions).1 :=
  ⟨actions, h, rfl⟩

/-- What every action of the kind keeps is kept. -/
theorem keeps {P : Registry → Prop} (h : Leads allowed r r')
    (hstep : ∀ r a, allowed a → P r → P (RegistryAction.run r a).1) (hr : P r) : P r' := by
  obtain ⟨actions, hall, rfl⟩ := h
  induction actions generalizing r with
  | nil => exact hr
  | cons a rest ih =>
      have hnext := hstep r a (hall a List.mem_cons_self) hr
      exact ih hnext (fun b hb => hall b (List.mem_cons_of_mem _ hb))

theorem sound (h : Leads allowed r r') (hr : r.Sound) : r'.Sound :=
  h.keeps (fun _ a _ hr => sound_run hr a) hr

end Leads

end Registry

end LoadBalancer

import Mathlib
import LoadBalancer.Proofs.Balancer.Conduct

/-!
# What a selection does to a balancer

A selection acts on the registry, on its measurements and on the state of its chooser. How far
strategies from outside and scripts go is up to them, and stands in a scope.

* `Scope` – a kind of registry actions that is not left, with `Scope.any` and `Scope.quiet`;
* `Sink.counted` – the names of the counters that were increased;
* `Balancer.Evolves` – what one balancer can become of another within a scope;
* `Balancer.Opens` – the same, with one connection opened on the way;
* `Balancer.opens_select`, `Balancer.evolves_select`, `Balancer.opens_route`,
  `Balancer.evolves_route` – selecting and routing do no more than that.
-/

namespace LoadBalancer

/-! ### Scopes -/

/-- A kind of registry actions, with all those that neither open nor close a connection. -/
structure Scope where
  Allows : RegistryAction → Prop
  ofQuiet : ∀ a, a.IsQuiet → Allows a

namespace Scope

/-- All actions. -/
def any : Scope := ⟨fun _ => True, fun _ _ => trivial⟩

/-- The actions that neither open nor close a connection. -/
def quiet : Scope := ⟨RegistryAction.IsQuiet, fun _ h => h⟩

/-- No connection is closed. -/
def NeverCloses (S : Scope) : Prop := ∀ id, ¬S.Allows (.disconnect id)

/-- Every pick of a script stays within the scope. -/
def AllowsScript (S : Scope) (script : List ScriptedPick) : Prop :=
  ∀ p ∈ script, ∀ a ∈ p.actions, S.Allows a

/-- A strategy from outside stays within the scope, whatever it is asked. -/
def AllowsRule (S : Scope) : PickRule → Prop
  | .outside advise =>
    ∀ n request candidates registry, ∀ a ∈ (advise n request candidates registry).actions, S.Allows a
  | _ => True

/-- What a rule does with a script at hand stays within the scope. -/
def AllowsPick (S : Scope) (script : List ScriptedPick) (rule : PickRule) : Prop :=
  (rule = .scripted → S.AllowsScript script) ∧ S.AllowsRule rule

theorem neverCloses_quiet : quiet.NeverCloses := fun _ h => h

theorem allowsScript_any (script : List ScriptedPick) : any.AllowsScript script :=
  fun _ _ _ _ => trivial

theorem allowsRule_any (rule : PickRule) : any.AllowsRule rule := by
  cases rule with
  | outside advise => exact fun _ _ _ _ _ _ => trivial
  | _ => trivial

theorem AllowsScript.of_suffix {S : Scope} {xs ys : List ScriptedPick} (h : S.AllowsScript ys)
    (hs : xs <:+ ys) : S.AllowsScript xs :=
  fun p hp => h p (hs.subset hp)

/-- The rule of an algorithm acts on nothing. -/
theorem allowsRule_ofAlgorithm (S : Scope) (a : Algorithm) :
    S.AllowsRule (.ofAlgorithm a) := by
  cases a <;> trivial

/-- What the scope allows a rule is a kind of actions. -/
theorem AllowsPick.doesOnly {S : Scope} {script : List ScriptedPick} {rule : PickRule}
    (h : S.AllowsPick script rule) : rule.DoesOnly S.Allows script := by
  cases rule with
  | scripted => exact h.1 rfl
  | outside advise => exact h.2
  | _ => trivial

theorem AllowsPick.permits {S : Scope} {b : Balancer} {bound : BoundRoute}
    (h : S.AllowsPick b.script bound.chooser.rule) : Balancer.Permits S.Allows b bound where
  observe := fun _ _ => S.ofQuiet _ trivial
  status := fun _ => S.ofQuiet _ trivial
  evict := fun _ _ => S.ofQuiet _ trivial
  pick := h.doesOnly

theorem allowsPick_ofAlgorithm (S : Scope) (script : List ScriptedPick) (a : Algorithm) :
    S.AllowsPick script (.ofAlgorithm a) := by
  refine ⟨?_, S.allowsRule_ofAlgorithm a⟩
  intro h
  cases a <;> cases h

end Scope

/-! ### Counted names -/

namespace Sink

/-- The names of the counters that were increased. -/
def counted : Sink → List String
  | memory t => t.counters.keys.map Series.name
  | recorder t => t.counters.keys.map Series.name
  | discard => []

/-- A name was counted if it has counters. -/
theorem mem_counted_iff {s : Sink} {name : String} :
    name ∈ s.counted ↔ s.countersOf name ≠ ([], []) := by
  cases s with
  | memory t => simp [counted, countersOf, Tally.countersOf, Table.keys]
  | recorder t => simp [counted, countersOf, Tally.countersOf, Table.keys]
  | discard => simp [counted, countersOf]

theorem mem_counted_clear {s : Sink} {name : String} (h : name ∈ s.clear.counted) :
    name ∈ s.counted := by
  cases s with
  | memory t => simp [clear, counted, Tally.empty] at h
  | recorder t => exact h
  | discard => exact h

/-- What was never increased has no total. -/
theorem total_of_not_counted {s : Sink} {name : String} (h : name ∉ s.counted) (filter : Tags) :
    s.total name filter = 0 := by
  cases s with
  | memory t =>
      have hnone : Tally.select t.counters name (passes filter) = [] := by
        rw [Tally.select, List.filterMap_eq_nil_iff]
        intro e he
        have hne : e.1.name ≠ name := by
          intro heq
          exact h (List.mem_map.mpr ⟨e.1, List.mem_map.mpr ⟨e, he, rfl⟩, heq⟩)
        simp [hne]
      simp only [total, Tally.total, hnone, sumOf_nil, Nat.zero_mod]
  | recorder t => rfl
  | discard => rfl

end Sink

/-! ### Evolution -/

namespace Balancer

/-- What one balancer can become of another within a scope: the registry by actions of the scope, the
script by being followed. Only closing has underflows counted. -/
structure Evolves (S : Scope) (b b' : Balancer) : Prop where
  registry : Registry.Leads S.Allows b.registry b'.registry
  choosers : b'.choosers = b.choosers
  script : b'.script <:+ b.script
  underflow : S.NeverCloses → Metric.counterUnderflow ∈ b'.sink.counted →
    Metric.counterUnderflow ∈ b.sink.counted

/-- What actions within the scope do. -/
theorem Leads.evolves {S : Scope} {b b' : Balancer} (h : Leads S.Allows b b') : Evolves S b b' := by
  refine ⟨h.registry, h.choosers, h.script, ?_⟩
  intro hs hc
  rw [Sink.mem_counted_iff, h.underflow hs] at hc
  exact Sink.mem_counted_iff.mpr hc

namespace Evolves

variable {S : Scope} {b b' : Balancer}

/-- Nothing of what counts has changed. -/
theorem of_eq (hr : b'.registry = b.registry) (hc : b'.choosers = b.choosers)
    (hs : b'.script = b.script) (hk : b'.sink = b.sink) : Evolves S b b' :=
  (Leads.of_eq hr hc hs hk).evolves

theorem of_leads {r : Registry} (h : Registry.Leads S.Allows b.registry r) :
    Evolves S b { b with registry := r } :=
  (Leads.of_registry h).evolves

/-- Counting; underflows are left to the registry. -/
theorem count {name : String} (h : S.NeverCloses → name ≠ Metric.counterUnderflow) (tags : Tags)
    (n : Nat) : Evolves S b (b.count name tags n) :=
  (Leads.count h tags n).evolves

theorem time (name : String) (tags : Tags) (nanos : Nat) :
    Evolves S b (b.time name tags nanos) :=
  (Leads.time name tags nanos).evolves

theorem clear : Evolves S b { b with sink := b.sink.clear } := by
  refine ⟨.refl _, rfl, List.suffix_refl _, ?_⟩
  intro _ hc
  exact Sink.mem_counted_clear hc

theorem connect {record : Instance} (h : S.Allows (.connect record)) :
    Evolves S b (b.connect record).2 :=
  (Leads.connect h).evolves

theorem disconnect {id : String} (h : S.Allows (.disconnect id)) :
    Evolves S b (b.disconnect id).2 :=
  (Leads.disconnect h).evolves

/-- Without opening and closing, the numbers of open connections stay. -/
theorem connections (h : Evolves .quiet b b') (x : String) :
    b'.registry.connections x = b.registry.connections x :=
  h.registry.connections x

end Evolves

/-! ### Selecting -/

section Selecting

variable {S : Scope} {b : Balancer} {request : Request} {bound : BoundRoute}

theorem evolves_choose {chooser : Chooser} (h : S.AllowsPick b.script chooser.rule)
    (service : String) (policy : Policy) (request : Request) (candidates : List Status) :
    Evolves S b (b.choose chooser service policy request candidates).2 :=
  (leads_choose h.doesOnly service policy request candidates).evolves

/-- What one balancer can become of another within a scope, if one connection to an instance is opened
on the way. -/
def Opens (S : Scope) (b : Balancer) (record : Instance) (b' : Balancer) : Prop :=
  ∃ t, Evolves S b t ∧ Evolves S (t.connect record).2 b'

theorem Connects.opens {record : Instance} {b' : Balancer} (h : Connects S.Allows b record b') :
    Opens S b record b' := by
  obtain ⟨t, ht, hb⟩ := h
  exact ⟨t, ht.evolves, hb.evolves⟩

/-- A successful selection opens one connection, to the instance that it answers. -/
theorem opens_select {service : String} (hpick : S.AllowsPick b.script bound.chooser.rule)
    {record : Instance} (h : (b.select service request bound).1 = .ok record) :
    Opens S b record (b.select service request bound).2 :=
  (connects_select hpick.permits h).opens

/-- A failed selection opens no connection. -/
theorem evolves_select {service : String} (hpick : S.AllowsPick b.script bound.chooser.rule)
    {f : Failure} (h : (b.select service request bound).1 = .error f) :
    Evolves S b (b.select service request bound).2 :=
  (leads_select hpick.permits h).evolves

theorem opens_route [Url.DomainNames] (hpick : S.AllowsPick b.script bound.chooser.rule)
    {record : Instance} (h : (b.route request bound).1 = .ok record) :
    Opens S b record (b.route request bound).2.2 :=
  (connects_route hpick.permits h).opens

/-- A failed route leaves no connection open. If the address of an instance was of no use, the
connection to it was opened and closed again. -/
theorem evolves_route [Url.DomainNames] (hpick : S.AllowsPick b.script bound.chooser.rule) {f : Failure}
    (h : (b.route request bound).1 = .error f) :
    Evolves S b (b.route request bound).2.2 ∨
      ∃ record t, Opens S b record t ∧
        (b.route request bound).2.2 = (t.disconnect record.id).2 := by
  rcases leads_route hpick.permits h with hleads | ⟨record, t, hopened, hclosed⟩
  · exact Or.inl hleads.evolves
  · exact Or.inr ⟨record, t, hopened.opens, hclosed⟩

end Selecting

end Balancer

end LoadBalancer

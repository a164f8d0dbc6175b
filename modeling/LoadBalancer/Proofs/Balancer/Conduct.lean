import Mathlib
import LoadBalancer.Balancer.Routing
import LoadBalancer.Proofs.Attempts
import LoadBalancer.Proofs.Registry.Conservation
import LoadBalancer.Proofs.Rule

/-!
# What a selection does with the registry

A selection sees instances, asks rules, which may forget some of them, and has a chooser pick, which
may act on the registry as it likes. All of it is a run of registry actions, of any kind that covers
what the rules and the chooser at hand do.

* `Sink.countersOf` – the counters of a name, as they are kept;
* `PickRule.DoesOnly` – what a chooser may do;
* `Balancer.Permits` – a kind of actions that covers a selection;
* `Balancer.Leads` – one balancer comes out of another by actions of a kind, and
  `Balancer.Connects`, the same with one connection opened on the way;
* `Balancer.connects_select`, `Balancer.leads_select`, `Balancer.connects_route`,
  `Balancer.leads_route` – what selecting and routing come to, with `Balancer.registry_select` and
  `Balancer.registry_route` for the registry alone.
-/

namespace LoadBalancer

/-! ### Counters of a name -/

/-- The counters of a name, in order. -/
def Tally.countersOf {κ : Type} (t : Tally κ) (name : String) : List (Series κ × Nat) :=
  t.counters.entries.filter fun e => e.1.name = name

/-- A counter of another name leaves them alone. -/
theorem Tally.countersOf_count {κ : Type} [DecidableEq κ] (t : Tally κ) {s : Series κ} {name : String}
    (h : s.name ≠ name) (n : Nat) : (t.count s n).countersOf name = t.countersOf name := by
  suffices ∀ v (es : List (Series κ × Nat)),
      (Table.putEntry s v es).filter (fun e => e.1.name = name) =
        es.filter fun e => e.1.name = name from this _ _
  intro v es
  induction es with
  | nil => simp [Table.putEntry, h]
  | cons e rest ih =>
      by_cases hk : e.1 = s
      · simp [Table.putEntry, hk, h]
      · simp only [Table.putEntry, hk, if_false, List.filter_cons, ih]

namespace Sink

/-- The counters of a name, as they are kept in memory or for a collector. -/
def countersOf (name : String) : Sink → List (Series Labels × Nat) × List (Series Tags × Nat)
  | memory t => (t.countersOf name, [])
  | recorder t => ([], t.countersOf name)
  | discard => ([], [])

theorem countersOf_count (s : Sink) {name other : String} (h : other ≠ name) (tags : Tags) (n : Nat) :
    (s.count other tags n).countersOf name = s.countersOf name := by
  cases s with
  | memory t => simp only [count, countersOf, t.countersOf_count (s := ⟨other, _⟩) h]
  | recorder t => simp only [count, countersOf, t.countersOf_count (s := ⟨other, _⟩) h]
  | discard => rfl

theorem countersOf_time (s : Sink) (name other : String) (tags : Tags) (nanos : Nat) :
    (s.time other tags nanos).countersOf name = s.countersOf name := by
  cases s <;> rfl

/-- The totals of a name are those of its counters. -/
theorem total_eq (s : Sink) (name : String) (filter : Tags) :
    s.total name filter =
      sumOf ((s.countersOf name).1.filterMap fun e =>
        if passes filter e.1.part then some e.2 else none) % size64 := by
  cases s with
  | memory t =>
      simp only [total, Tally.total, Tally.select, countersOf, Tally.countersOf, List.filterMap_filter,
        decide_eq_true_eq]
      congr 3
      funext e
      by_cases hname : e.1.name = name <;> simp [hname]
  | recorder t => rfl
  | discard => rfl

theorem total_congr {s s' : Sink} {name : String} (h : s'.countersOf name = s.countersOf name)
    (filter : Tags) : s'.total name filter = s.total name filter := by
  rw [total_eq, total_eq, h]

end Sink

/-! ### What choosers and rules may do -/

namespace RegistryAction

/-- The action neither opens nor closes a connection. -/
def IsQuiet : RegistryAction → Prop
  | connect _ => False
  | disconnect _ => False
  | _ => True

/-- Without closing, no connection is missed. -/
theorem missed_eq_nil {actions : List RegistryAction}
    (h : ∀ a ∈ actions, ∀ id, a ≠ .disconnect id) (r : Registry) : (runAll r actions).2 = [] := by
  induction actions generalizing r with
  | nil => rfl
  | cons a rest ih =>
      have hone : (run r a).2 = [] := by
        cases a with
        | disconnect id => exact absurd rfl (h _ List.mem_cons_self id)
        | _ => rfl
      rw [runAll_cons, hone, ih (fun b hb => h b (List.mem_cons_of_mem _ hb))]
      rfl

end RegistryAction

/-- Without opening and closing, the numbers of open connections stay. -/
theorem Registry.Leads.connections {r r' : Registry} (h : r.Leads RegistryAction.IsQuiet r')
    (x : String) : r'.connections x = r.connections x := by
  refine h.keeps (P := fun t => t.connections x = r.connections x) ?_ rfl
  intro r a ha hr
  cases a with
  | connect record => exact ha.elim
  | disconnect id => exact ha.elim
  | _ =>
      simp only [RegistryAction.run]
      simpa using hr

/-- Picking by a rule, with a script at hand, takes only actions of some kind. -/
def PickRule.DoesOnly (allowed : RegistryAction → Prop) (script : List ScriptedPick) :
    PickRule → Prop
  | .scripted => ∀ p ∈ script, ∀ a ∈ p.actions, allowed a
  | .outside advise =>
    ∀ n request candidates registry, ∀ a ∈ (advise n request candidates registry).actions, allowed a
  | _ => True

theorem PickRule.DoesOnly.of_suffix {allowed : RegistryAction → Prop} {xs ys : List ScriptedPick}
    {rule : PickRule} (h : rule.DoesOnly allowed ys) (hs : xs <:+ ys) : rule.DoesOnly allowed xs := by
  cases rule with
  | scripted => exact fun p hp => h p (hs.subset hp)
  | outside advise => exact h
  | _ => trivial

/-- The rule of an algorithm takes no action at all. -/
theorem PickRule.doesOnly_ofAlgorithm (allowed : RegistryAction → Prop) (script : List ScriptedPick)
    (a : Algorithm) : (PickRule.ofAlgorithm a).DoesOnly allowed script := by
  cases a <;> trivial

namespace Balancer

/-- The kind covers what a selection does: instances are seen, rules of the set forget some, and the
chooser acts. -/
structure Permits (allowed : RegistryAction → Prop) (b : Balancer) (bound : BoundRoute) : Prop where
  observe : ∀ service records, allowed (.observe service records)
  status : ∀ record, allowed (.status record)
  evict : ∀ id ∈ b.rules.evicted bound.policy.ruleSet, allowed (.evict id)
  pick : bound.chooser.rule.DoesOnly allowed b.script

/-! ### Coming out of each other -/

/-- One balancer comes out of another by actions of a kind, with part of the script followed. Only
closing has underflows counted. -/
structure Leads (allowed : RegistryAction → Prop) (b b' : Balancer) : Prop where
  registry : Registry.Leads allowed b.registry b'.registry
  choosers : b'.choosers = b.choosers
  script : b'.script <:+ b.script
  underflow : (∀ id, ¬allowed (.disconnect id)) →
    b'.sink.countersOf Metric.counterUnderflow = b.sink.countersOf Metric.counterUnderflow

namespace Leads

variable {allowed : RegistryAction → Prop} {b b' b'' : Balancer}

theorem refl (b : Balancer) : Leads allowed b b :=
  ⟨.refl _, rfl, List.suffix_refl _, fun _ => rfl⟩

theorem trans (h : Leads allowed b b') (h' : Leads allowed b' b'') : Leads allowed b b'' where
  registry := h.registry.trans h'.registry
  choosers := h'.choosers.trans h.choosers
  script := h'.script.trans h.script
  underflow := fun hclose => (h'.underflow hclose).trans (h.underflow hclose)

/-- Nothing of what counts has changed. -/
theorem of_eq (hr : b'.registry = b.registry) (hc : b'.choosers = b.choosers)
    (hs : b'.script = b.script) (hk : b'.sink = b.sink) : Leads allowed b b' := by
  refine ⟨?_, hc, ?_, ?_⟩
  · rw [hr]
    exact .refl _
  · rw [hs]
  · intro _
    rw [hk]

theorem of_registry {r : Registry} (h : Registry.Leads allowed b.registry r) :
    Leads allowed b { b with registry := r } :=
  ⟨h, rfl, List.suffix_refl _, fun _ => rfl⟩

theorem sleep (b : Balancer) (d : Duration) : Leads allowed b (b.sleep d) := by
  unfold Balancer.sleep
  exact of_eq rfl rfl rfl rfl

/-- Counting; underflows are left to the registry. -/
theorem count {name : String}
    (h : (∀ id, ¬allowed (.disconnect id)) → name ≠ Metric.counterUnderflow) (tags : Tags) (n : Nat) :
    Leads allowed b (b.count name tags n) :=
  ⟨.refl _, rfl, List.suffix_refl _, fun hclose => b.sink.countersOf_count (h hclose) tags n⟩

theorem time (name : String) (tags : Tags) (nanos : Nat) :
    Leads allowed b (b.time name tags nanos) :=
  ⟨.refl _, rfl, List.suffix_refl _, fun _ => b.sink.countersOf_time _ name tags nanos⟩

theorem act {actions : List RegistryAction} (h : ∀ a ∈ actions, allowed a) :
    Leads allowed b (b.act actions) := by
  rw [act_eq]
  refine ⟨.runAll h, rfl, List.suffix_refl _, ?_⟩
  intro hclose
  -- where nothing is closed, nothing is missed, and the sink stays as it is
  have hmissed : (RegistryAction.runAll b.registry actions).2 = [] := by
    apply RegistryAction.missed_eq_nil
    intro a ha id heq
    rw [heq] at ha
    exact hclose id (h _ ha)
  simp only [hmissed, Sink.countUnderflows, List.foldl_nil, ite_self]

theorem connect {record : Instance} (h : allowed (.connect record)) :
    Leads allowed b (b.connect record).2 := by
  rw [← act_connect]
  exact act (by simpa using h)

theorem disconnect {id : String} (h : allowed (.disconnect id)) :
    Leads allowed b (b.disconnect id).2 := by
  rw [← act_disconnect]
  exact act (by simpa using h)

end Leads

/-! ### Choosing -/

section Choosing

variable {allowed : RegistryAction → Prop} {b : Balancer} {chooser : Chooser}

/-- A script is followed pick by pick; after its end nothing more happens. -/
theorem balancer_follow (b : Balancer) (pool : List Status) :
    (b.follow pool).2 =
      ({ b with script := b.script.tail, seen := pool :: b.seen } : Balancer).act
        (b.script.headD .first).actions := by
  unfold follow
  cases b.script with
  | nil => rfl
  | cons p rest => rfl

theorem leads_follow (h : ∀ p ∈ b.script, ∀ a ∈ p.actions, allowed a) (pool : List Status) :
    Leads allowed b (b.follow pool).2 := by
  have hstep : Leads allowed b { b with script := b.script.tail, seen := pool :: b.seen } :=
    ⟨.refl _, rfl, List.tail_suffix _, fun _ => rfl⟩
  rw [balancer_follow]
  refine hstep.trans (Leads.act ?_)
  intro a ha
  cases hscript : b.script with
  | nil =>
      rw [hscript] at ha
      cases ha
  | cons p rest =>
      rw [hscript] at ha h
      exact h p List.mem_cons_self a ha

theorem leads_pick (h : chooser.rule.DoesOnly allowed b.script) (service : String)
    (request : Request) (pool : List Status) :
    Leads allowed b (pick chooser service request pool b).2 := by
  unfold pick
  split
  · exact Leads.of_eq rfl rfl rfl rfl
  · exact Leads.of_eq rfl rfl rfl rfl
  · exact Leads.refl b
  · exact Leads.refl b
  · exact Leads.refl b
  · rename_i hrule
    rw [hrule] at h
    exact leads_follow h pool
  · exact Leads.refl b

/-- Picks and pauses act within the kind. -/
theorem keeps_leads (h : chooser.rule.DoesOnly allowed b.script) (service : String)
    (policy : Policy) (request : Request) :
    (surroundings chooser service policy request).Keeps (Leads allowed b) where
  pick := by
    intro pool t ht
    exact ht.trans (leads_pick (h.of_suffix ht.script) service request pool)
  pause := by
    intro t ht
    exact ht.trans (Leads.sleep t policy.backoff)

theorem leads_chooseByAttempts (h : chooser.rule.DoesOnly allowed b.script) (service : String)
    (policy : Policy) (request : Request) (candidates : List Status) :
    Leads allowed b (b.chooseByAttempts chooser service policy request candidates).2 := by
  have hall := attempt_keeps (keeps_leads h service policy request)
    ⟨service, policy.lenient, candidates⟩ (tries policy) (Leads.refl b)
  simp only [chooseByAttempts, chooseIn]
  split
  · rename_i record t heq
    rw [heq] at hall
    exact hall
  · rename_i t heq
    rw [heq] at hall
    exact hall
  · rename_i n t heq
    rw [heq] at hall
    exact hall.trans (Leads.count (fun _ => by decide) _ _)

theorem leads_choose (h : chooser.rule.DoesOnly allowed b.script) (service : String)
    (policy : Policy) (request : Request) (candidates : List Status) :
    Leads allowed b (b.choose chooser service policy request candidates).2 := by
  unfold choose
  split
  · exact Leads.refl b
  · rename_i advise heq
    rw [heq] at h
    have hasked : Leads allowed b { b with asked := b.asked + 1 } := Leads.of_eq rfl rfl rfl rfl
    exact hasked.trans (Leads.act (h b.asked request candidates b.registry))
  · exact leads_chooseByAttempts h service policy request candidates

end Choosing

/-! ### Candidates -/

section Selecting

variable {allowed : RegistryAction → Prop} {b : Balancer}

/-- Rules that are asked forget at most the instances that they name. -/
theorem leads_matching (request : Request) {rules : List Rule}
    (h : ∀ rule ∈ rules, ∀ id, rule.condition.evicted? = some id → allowed (.evict id))
    (r : Registry) : Registry.Leads allowed r (Rule.matching request rules r).2 := by
  induction rules generalizing r with
  | nil => exact .refl r
  | cons rule rest ih =>
      have hone : Registry.Leads allowed r (rule.condition.holds request r).2 := by
        cases hc : rule.condition with
        | evict id =>
            have hallowed := h rule List.mem_cons_self id (by rw [hc, Condition.evicted?])
            exact .single (a := .evict id) hallowed
        | _ => exact .refl r
      exact hone.trans (ih (fun rule hrule => h rule (List.mem_cons_of_mem _ hrule)) _)

theorem leads_statusesOf {records : List Instance} (h : ∀ record ∈ records, allowed (.status record))
    (r : Registry) : Registry.Leads allowed r (r.statusesOf records).2 := by
  induction records generalizing r with
  | nil => exact .refl r
  | cons record rest ih =>
      have hone : Registry.Leads allowed r (r.statusOf record).2 :=
        .single (a := .status record) (h record List.mem_cons_self)
      exact hone.trans (ih (fun record hrecord => h record (List.mem_cons_of_mem _ hrecord)) _)

variable {bound : BoundRoute}

theorem leads_candidates (h : Permits allowed b bound) (service : String) (request : Request) :
    Leads allowed b (b.candidates service request bound.policy).2 := by
  have hseen : Registry.Leads allowed b.registry
      (b.registry.observe service (b.listed service)) :=
    .single (a := .observe service (b.listed service)) (h.observe service (b.listed service))
  have hrules : ∀ rule ∈ b.rules.rules bound.policy.ruleSet, ∀ id,
      rule.condition.evicted? = some id → allowed (.evict id) := by
    intro rule hrule id hid
    exact h.evict id (List.mem_filterMap.mpr ⟨rule, hrule, hid⟩)
  have hasked := Leads.of_registry (hseen.trans (leads_matching request hrules
    (b.registry.observe service (b.listed service))))
  simp only [candidates]
  split
  · exact Leads.count (fun _ => by decide) _ _
  · split
    · exact hasked.trans (Leads.count (fun _ => by decide) _ _)
    · exact hasked

/-! ### Selecting -/

theorem leads_decide (h : Permits allowed b bound) (service : String) (request : Request) :
    Leads allowed b (b.decide service request bound).2.2 := by
  have hfound := leads_candidates h service request
  simp only [decide]
  split
  · rename_i f t heq
    rw [heq] at hfound
    exact hfound
  · rename_i records t heq
    rw [heq] at hfound
    have hseen : Leads allowed t { t with registry := (t.registry.statusesOf records).2 } :=
      Leads.of_registry (leads_statusesOf (fun record _ => h.status record) t.registry)
    have hready := hfound.trans hseen
    have hchosen := leads_choose (b := { t with registry := (t.registry.statusesOf records).2 })
      (h.pick.of_suffix hready.script) service bound.policy request
      (t.registry.statusesOf records).1
    exact (hready.trans hchosen).trans (Leads.of_eq rfl rfl rfl rfl)

/-- One balancer comes out of another by actions of a kind, with one connection to an instance opened
on the way. -/
def Connects (allowed : RegistryAction → Prop) (b : Balancer) (record : Instance) (b' : Balancer) :
    Prop :=
  ∃ t, Leads allowed b t ∧ Leads allowed (t.connect record).2 b'

variable {service : String} {request : Request}

/-- A successful selection opens one connection, to the instance that it answers. -/
theorem connects_select (h : Permits allowed b bound) {record : Instance}
    (hok : (b.select service request bound).1 = .ok record) :
    Connects allowed b record (b.select service request bound).2 := by
  have hdecided : Leads allowed b (b.decide service request bound).2.2 :=
    leads_decide h service request
  simp only [select] at hok ⊢
  split at hok
  · rename_i other heq
    cases hok
    rw [heq]
    exact ⟨_, hdecided.trans (Leads.time _ _ _), Leads.count (fun _ => by decide) _ _⟩
  · cases hok

/-- A failed selection opens no connection. -/
theorem leads_select (h : Permits allowed b bound) {f : Failure}
    (hfailed : (b.select service request bound).1 = .error f) :
    Leads allowed b (b.select service request bound).2 := by
  have hdecided : Leads allowed b (b.decide service request bound).2.2 :=
    leads_decide h service request
  simp only [select] at hfailed ⊢
  split at hfailed
  · cases hfailed
  · rename_i g heq
    rw [heq]
    exact (hdecided.trans (Leads.time _ _ _)).trans (Leads.count (fun _ => by decide) _ _)

/-! ### Routing -/

theorem connects_route [Url.DomainNames] (h : Permits allowed b bound) {record : Instance}
    (hok : (b.route request bound).1 = .ok record) :
    Connects allowed b record (b.route request bound).2.2 := by
  unfold route at hok ⊢
  split at hok
  · cases hok
  · rename_i service hservice
    have hopens : (b.select service request bound).1 = .ok record →
        Connects allowed b record (b.select service request bound).2 := connects_select h
    split at hok
    · cases hok
    · rename_i other t heq
      rw [heq] at hopens
      split at hok
      · rename_i target htarget
        cases hok
        exact hopens rfl
      · cases hok

/-- A failed route leaves no connection open. If the address of an instance was of no use, the
connection to it was opened and closed again. -/
theorem leads_route [Url.DomainNames] (h : Permits allowed b bound) {f : Failure}
    (hfailed : (b.route request bound).1 = .error f) :
    Leads allowed b (b.route request bound).2.2 ∨
      ∃ record t, Connects allowed b record t ∧
        (b.route request bound).2.2 = (t.disconnect record.id).2 := by
  unfold route at hfailed ⊢
  split at hfailed
  · rename_i hservice
    exact Or.inl (Leads.count (fun _ => by decide) _ _)
  · rename_i service hservice
    split at hfailed
    · rename_i g t heq
      have hleads := leads_select (f := g) h (congrArg Prod.fst heq)
      rw [heq] at hleads
      exact Or.inl hleads
    · rename_i record t heq
      have hopens := connects_select h (congrArg Prod.fst heq)
      rw [heq] at hopens
      split at hfailed
      · cases hfailed
      · rename_i htarget
        obtain ⟨u, hu, hut⟩ := hopens
        exact Or.inr ⟨record, _, ⟨u, hu, hut.trans (Leads.count (fun _ => by decide) _ _)⟩, rfl⟩

/-! ### The registry afterwards -/

/-- A selection acts on the registry by actions of any kind that covers selections and lets connections be
opened. -/
theorem registry_select (h : Permits allowed b bound) (hconnect : ∀ record, allowed (.connect record)) :
    b.registry.Leads allowed (b.select service request bound).2.registry := by
  cases hresult : (b.select service request bound).1 with
  | error f => exact (leads_select h hresult).registry
  | ok record =>
      obtain ⟨t, ht, hafter⟩ := connects_select h hresult
      have hopened : Leads allowed t (t.connect record).2 := .connect (hconnect record)
      exact (ht.trans (hopened.trans hafter)).registry

/-- A failed route acts on the registry by actions of any kind that covers selections and lets
connections be opened and closed. -/
theorem registry_route_of_error [Url.DomainNames] {f : Failure} (h : Permits allowed b bound)
    (hconnect : ∀ record, allowed (.connect record)) (hdisconnect : ∀ id, allowed (.disconnect id))
    (hfailed : (b.route request bound).1 = .error f) :
    b.registry.Leads allowed (b.route request bound).2.2.registry := by
  rcases leads_route h hfailed with hleads | ⟨record, t, ⟨u, hu, hut⟩, hclosed⟩
  · exact hleads.registry
  · rw [hclosed]
    have hopened : Leads allowed u (u.connect record).2 := .connect (hconnect record)
    have hended : Leads allowed t (t.disconnect record.id).2 := .disconnect (hdisconnect record.id)
    exact (hu.trans (hopened.trans (hut.trans hended))).registry

/-- So does every route. -/
theorem registry_route [Url.DomainNames] (h : Permits allowed b bound)
    (hconnect : ∀ record, allowed (.connect record)) (hdisconnect : ∀ id, allowed (.disconnect id)) :
    b.registry.Leads allowed (b.route request bound).2.2.registry := by
  cases hresult : (b.route request bound).1 with
  | error f => exact registry_route_of_error h hconnect hdisconnect hresult
  | ok record =>
      obtain ⟨t, ht, hafter⟩ := connects_route h hresult
      have hopened : Leads allowed t (t.connect record).2 := .connect (hconnect record)
      exact (ht.trans (hopened.trans hafter)).registry

end Selecting

end Balancer

end LoadBalancer

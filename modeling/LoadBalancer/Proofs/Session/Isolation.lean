import Mathlib
import LoadBalancer.Balancer.Routing
import LoadBalancer.Proofs.Balancer.Decision
import LoadBalancer.Proofs.Session.Move

/-!
# Isolation of marked instances

A request to which a rule applies gets an instance that the rule marks, as far as the records of the
instance agree with each other. The candidates are told by the records that were listed, and the answer
is the record that the registry has under the same id.

* `PickRule.StaysWithin` – a strategy answers candidates, and brings only some records of its own;
* `Balancer.choose_records` – what all records in the registry have in common, the answer has as well;
* `Balancer.IsCurrent`, `Balancer.current_select` – the answer is a record that was found, or the last
  one that was listed under its id;
* `Session.select_isolates` – what follows for requests to which a rule applies;
* `Session.select_answers_unmarked` – three ways in which the answer can lack the mark.
-/

namespace LoadBalancer

/-- The strategy answers the record of a candidate, and what it brings to the registry while it picks
has a property. -/
def PickRule.StaysWithin (ok : Instance → Prop) (script : List ScriptedPick) : PickRule → Prop
  | .outside advise => ∀ n request candidates registry record,
      (advise n request candidates registry).answer = .ok record →
        record ∈ candidates.map Status.record
  | .scripted => ∀ p ∈ script, ∀ a ∈ p.actions, ∀ i ∈ a.brings, ok i
  | _ => True

theorem PickRule.StaysWithin.mono {ok ok' : Instance → Prop} {script : List ScriptedPick}
    {rule : PickRule} (h : rule.StaysWithin ok script) (himp : ∀ i, ok i → ok' i) :
    rule.StaysWithin ok' script := by
  cases rule with
  | scripted => exact fun p hp a ha i hi => himp i (h p hp a ha i hi)
  | outside advise => exact h
  | _ => trivial

namespace Balancer

/-! ### Records along the attempts -/

section Records

variable {ok : Instance → Prop} {chooser : Chooser} {service : String} {policy : Policy}
  {request : Request}

/-- What holds of the state of a chooser between its picks. -/
structure Holds (ok : Instance → Prop) (rule : PickRule) (t : Balancer) : Prop where
  sound : t.registry.Sound
  records : t.registry.Records ok
  stays : rule.StaysWithin ok t.script

theorem holds_follow {t : Balancer} (h : t.Holds ok .scripted) (pool : List Status) :
    (t.follow pool).2.Holds ok .scripted := by
  have hactions : ∀ a ∈ (t.script.headD .first).actions, ∀ i ∈ a.brings, ok i := by
    have hstays := h.stays
    intro a ha
    cases hscript : t.script with
    | nil =>
        rw [hscript] at ha
        cases ha
    | cons p rest =>
        rw [hscript] at ha hstays
        exact hstays p List.mem_cons_self a ha
  rw [balancer_follow, act_eq]
  refine ⟨Registry.sound_runAll h.sound _, Registry.records_runAll h.records hactions, ?_⟩
  exact fun p hp => h.stays p (List.mem_of_mem_tail hp)

theorem keeps_holds (chooser : Chooser) (service : String) (policy : Policy) (request : Request) :
    (surroundings chooser service policy request).Keeps (Holds ok chooser.rule) where
  pick := by
    intro pool t ht
    show (pick chooser service request pool t).2.Holds ok chooser.rule
    unfold pick
    split
    · exact ⟨ht.sound, ht.records, ht.stays⟩
    · exact ⟨ht.sound, ht.records, ht.stays⟩
    · exact ht
    · exact ht
    · exact ht
    · rename_i hrule
      rw [hrule] at ht ⊢
      exact holds_follow ht pool
    · exact ht
  pause := by
    intro t ht
    have hslept : (t.sleep policy.backoff).Holds ok chooser.rule := by
      unfold sleep
      exact ⟨ht.sound, ht.records, ht.stays⟩
    exact hslept

/-- An answer is a candidate, and shows a record like those in the registry. -/
theorem choose_records {t : Balancer} (ht : t.Holds ok chooser.rule) {candidates : List Status}
    (hcandidates : ∀ c ∈ candidates, ok c.record) {record : Instance}
    (h : (t.choose chooser service policy request candidates).1 = .ok record) :
    record.id ∈ candidates.map Status.id ∧ ok record := by
  unfold choose at h
  split at h
  · cases h
  · rename_i advise hrule
    have hstays := ht.stays
    rw [hrule] at hstays
    obtain ⟨c, hc, rfl⟩ := List.mem_map.mp (hstays _ _ _ _ _ h)
    exact ⟨List.mem_map.mpr ⟨c, hc, rfl⟩, hcandidates c hc⟩
  · -- the pool of the last attempt is read off a registry in which the property still holds
    simp only [chooseByAttempts, chooseIn] at h
    split at h
    · rename_i other u heq
      cases h
      obtain ⟨v, hv, c, hc, rfl⟩ := attempt_chosen
        (keeps_holds chooser service policy request) ht (congrArg Prod.fst heq)
      obtain ⟨hid, hall, -⟩ := Demand.mem_ids_pool.mp (List.mem_map.mpr ⟨c, hc, rfl⟩)
      have hreachable : c ∈ v.registry.reachable policy.lenient service := mem_of_mem_intersect hc
      obtain ⟨-, e, he, hstatus⟩ :=
        Registry.known?_of_mem_all hv.sound (List.mem_filter.mp hreachable).1
      refine ⟨hid, ?_⟩
      rw [← hstatus]
      exact hv.records c.id e he
    · cases h
    · cases h

end Records

/-! ### Current records -/

/-- A record of an instance that was found: it is among those that were found, or the last one that
was listed under its id. -/
def IsCurrent (listed found : List Instance) (record : Instance) : Prop :=
  record.id ∈ found.map Instance.id → record ∈ found ∨ latest listed record.id = some record

section Current

variable {b : Balancer} {service : String} {request : Request} {policy : Policy}

theorem ids_found_subset {x : String} (hx : x ∈ (b.found service request policy).map Instance.id) :
    x ∈ (b.listed service).map Instance.id := by
  obtain ⟨i, hi, rfl⟩ := List.mem_map.mp hx
  exact List.mem_map.mpr ⟨i, mem_listed_of_mem_found hi, rfl⟩

/-- Once the listed instances are seen, the registry has the last record of each. -/
theorem current_observed (hr : b.registry.Sound) :
    (b.observed service).Records (IsCurrent (b.listed service) (b.found service request policy)) := by
  intro x e he hfound
  have hkeyed := (sound_observed hr x e he).keyed
  rw [hkeyed] at hfound ⊢
  exact Or.inr (Registry.record_of_observe he (ids_found_subset hfound))

theorem current_matched (hr : b.registry.Sound) :
    (b.matched service request policy).2.Records
      (IsCurrent (b.listed service) (b.found service request policy)) :=
  (forgets_matched b service request policy).records (current_observed hr)

/-- The answer of a selection is the current record of an instance that was found. -/
theorem current_select (hr : b.registry.Sound) {bound : BoundRoute}
    (hstays : bound.chooser.rule.StaysWithin
      (fun i => i.id ∉ (b.listed service).map Instance.id) b.script)
    {record : Instance} (h : (b.select service request bound).1 = .ok record) :
    record.id ∈ (b.found service request bound.policy).map Instance.id ∧
      IsCurrent (b.listed service) (b.found service request bound.policy) record := by
  have hbrought : ∀ i ∈ b.found service request bound.policy,
      IsCurrent (b.listed service) (b.found service request bound.policy) i :=
    fun i hi _ => Or.inl hi
  have hmatched : (b.matched service request bound.policy).2.Records
      (IsCurrent (b.listed service) (b.found service request bound.policy)) := current_matched hr
  obtain ⟨hregistry, hstatuses⟩ := Registry.records_statusesOf hmatched hbrought
  have hled : Registry.Leads (fun _ => True) (b.matched service request bound.policy).2
      (b.offered service request bound.policy).2 := leads_statusesOf (fun _ _ => trivial) _
  have hsound : (b.offered service request bound.policy).2.Sound := hled.sound (sound_matched hr)
  rw [result_select] at h
  split at h
  · cases h
  · split at h
    · cases h
    · have hready : Holds (IsCurrent (b.listed service) (b.found service request bound.policy))
          bound.chooser.rule { b with registry := (b.offered service request bound.policy).2 } :=
        ⟨hsound, hregistry, hstays.mono fun i hi hfound => absurd (ids_found_subset hfound) hi⟩
      obtain ⟨hid, hcurrent⟩ := choose_records hready hstatuses h
      refine ⟨?_, hcurrent⟩
      rw [← ids_offered hr]
      exact hid

end Current

end Balancer

namespace Session

/-- **Isolation.**  In a session in use, by whatever route, a request to which rules apply is given an
instance that one of them marks: a record of it was listed that is marked. The record that is answered
is marked itself if of the records that are listed under one id the last is marked as soon as any of
them is; so it is if no id is listed twice. The condition is on strategies from outside and on scripts:
they answer candidates, and bring no other records of the listed instances. -/
theorem select_isolates [Url.DomainNames] {s : Session} (hs : s.Reachable) {route : BoundRoute}
    {service : String} {request : Request}
    (hstays : route.chooser.rule.StaysWithin
      (fun i => i.id ∉ (s.balancer.listed service).map Instance.id) s.balancer.script)
    (hnames : (s.balancer.matched service request route.policy).1 ≠ []) {record : Instance}
    (h : (s.balancer.select service request route).1 = .ok record ∨
      request.service? = some service ∧ (s.balancer.route request route).1 = .ok record) :
    let listed := s.balancer.listed service
    let marked := fun i : Instance => ∃ rule ∈ (s.balancer.matched service request route.policy).1,
      i.isCandidate route.policy.candidateKey rule = true
    (∃ i ∈ listed, i.id = record.id ∧ marked i) ∧
      (marked record ∨ latest listed record.id = some record) ∧
      ((∀ i ∈ listed, marked i → ∀ last, latest listed i.id = some last → marked last) →
        marked record) ∧
      ((listed.map Instance.id).Nodup → marked record) := by
  intro listed marked
  have hselected : (s.balancer.select service request route).1 = .ok record := by
    rcases h with hselect | ⟨hservice, hroute⟩
    · exact hselect
    · obtain ⟨service', hservice', hselect⟩ := Balancer.select_of_route hroute
      rw [hservice] at hservice'
      cases hservice'
      exact hselect
  obtain ⟨hid, hcurrent⟩ := Balancer.current_select hs.sound hstays hselected
  have hfound : ∀ i ∈ s.balancer.found service request route.policy, i ∈ listed ∧ marked i := by
    intro i hi
    refine ⟨Balancer.mem_listed_of_mem_found hi, ?_⟩
    unfold Balancer.found Balancer.eligible at hi
    rw [if_neg (by simpa using hnames)] at hi
    simpa using (List.mem_filter.mp hi).2
  obtain ⟨i, hi, hirecord⟩ := List.mem_map.mp hid
  have hmark : marked record ∨ latest listed record.id = some record := by
    rcases hcurrent hid with hmem | hlast
    · exact Or.inl (hfound record hmem).2
    · exact Or.inr hlast
  have hagree : (∀ i ∈ listed, marked i → ∀ last, latest listed i.id = some last → marked last) →
      marked record := by
    intro hlasts
    rcases hmark with hmarked | hlast
    · exact hmarked
    · rw [← hirecord] at hlast
      exact hlasts i (hfound i hi).1 (hfound i hi).2 record hlast
  refine ⟨⟨i, (hfound i hi).1, hirecord, (hfound i hi).2⟩, hmark, hagree, ?_⟩
  intro hnodup
  refine hagree ?_
  intro j hj hmarked last hlast
  rw [latest_of_nodup hnodup hj] at hlast
  cases hlast
  exact hmarked

/-- A marked instance is listed behind one that is not, and the rule applies. -/
theorem select_isolates_listed :
    let record := (Instance.plain "a" "s" "10.0.0.1" 8080).withMetadata "canary" "beta"
    let other := Instance.plain "b" "s" "10.0.0.2" 8080
    let rules := RuleBook.empty.add "canary" ⟨"beta", .header "X-Canary" "on"⟩
    let setup : Setup := ⟨.memory .empty, true, .withDefaults, [], rules, [other, record], []⟩
    let policy : Policy := { Policy.default with ruleSet := "canary" }
    let s := (setup.start ⟨id, id⟩).2
    let route : BoundRoute := ⟨policy, ⟨1, .ofAlgorithm .roundRobin⟩⟩
    let request := { Request.ofTarget ⟨"lb", none, .bare "", none, none⟩ with
      headers := ⟨[("x-canary", "On")]⟩ }
    s.balancer.listed "s" = [other, record] ∧
      (∀ rule, other.isCandidate route.policy.candidateKey rule = false) ∧
      (s.balancer.select "s" request route).1 = .ok record ∧
      ∃ rule ∈ (s.balancer.matched "s" request route.policy).1,
        record.isCandidate route.policy.candidateKey rule = true := by
  intro record other rules setup policy s route request
  have hs : s.Reachable := ⟨setup, ⟨id, id⟩, [], rfl⟩
  have hselect : (s.balancer.select "s" request route).1 = .ok record := by decide +kernel
  have hstays : route.chooser.rule.StaysWithin
      (fun i => i.id ∉ (s.balancer.listed "s").map Instance.id) s.balancer.script := trivial
  have hnames : (s.balancer.matched "s" request route.policy).1 ≠ [] := by decide +kernel
  obtain ⟨-, -, -, hmarked⟩ := select_isolates hs hstays hnames (Or.inl hselect)
  exact ⟨by decide +kernel, fun _ => rfl, hselect, hmarked (by decide +kernel)⟩

/-- Three ways in which the answer to a request to which a rule applies lacks the mark: the id is listed
again without it, the registry gets another record of the instance while a script waits, and a strategy
from outside answers what is no candidate. -/
theorem select_answers_unmarked :
    let marked := (Instance.plain "a" "s" "10.0.0.1" 8080).withMetadata "canary" "beta"
    let other := Instance.plain "a" "s" "10.0.0.2" 8080
    let rules := RuleBook.empty.add "canary" ⟨"beta", .always⟩
    let policy : Policy := { Policy.default with ruleSet := "canary" }
    let request := Request.ofTarget ⟨"lb", none, .bare "", none, none⟩
    let answer := fun (strategy : Strategy) (listed : List Instance) (script : List ScriptedPick) =>
      let choosers := Choosers.empty.install .roundRobin strategy
      let setup : Setup := ⟨.memory .empty, true, choosers, [], rules, [], []⟩
      let s := SessionStep.runAll (setup.start ⟨id, id⟩).2
        [.replace "s" listed, .follow script, .bind "r" policy]
      (s.routes.get? "r").map fun route =>
        ((s.balancer.matched "s" request policy).1, (s.balancer.select "s" request route).1)
    (∀ rule, other.isCandidate "canary" rule = false) ∧
      answer (.ofAlgorithm .roundRobin) [marked, other] [] = some (["beta"], .ok other) ∧
      answer .scripted [marked] [⟨none, [.observe "s" [other]]⟩] = some (["beta"], .ok other) ∧
      answer ⟨"foreign", .outside fun _ _ _ _ => ⟨[], .ok other⟩⟩ [marked] [] =
        some (["beta"], .ok other) := by
  refine ⟨?_, rfl, rfl, rfl⟩
  intro rule
  rfl

end Session

end LoadBalancer

import Mathlib
import LoadBalancer.Proofs.Balancer.Stages
import LoadBalancer.Proofs.Text.Fold

/-!
# Candidates in other words

Which of the listed instances are candidates does not depend on how things are put: on the order of rules, on
the case of letters, on blanks at the ends of texts, on rules of other sets.

* `Rule.keeps` – whether the rules that apply keep an instance;
* `Question`, `Question.resolved` – what candidates are looked for with, and the positions that are kept;
* `Reworded` – one change of wording; `Question.Same` – what every such change leaves as it is;
* `Question.resolved_ignores_wording` – the candidates are the instances at these positions, which stay the
  same in all other words.
-/

namespace LoadBalancer

open LoadBalancer.Text

/-! ### Rules that apply -/

/-- The condition asks for a header, or for nothing. -/
def Condition.asksHeaders : Condition → Bool
  | header _ _ => true
  | always => true
  | _ => false

/-- Headers belong to the request. -/
theorem Condition.readsRequest_of_asksHeaders {c : Condition} (h : c.asksHeaders = true) :
    c.ReadsRequest := by
  cases c with
  | header name value => exact ⟨_, fun _ _ => rfl⟩
  | always => exact ⟨_, fun _ _ => rfl⟩
  | _ => cases h

namespace Rule

/-- The rules keep an instance: some rule that applies marks it, or none applies and all are kept. -/
def keeps (rules : List Rule) (request : Request) (policy : Policy) (record : Instance) : Bool :=
  if (applying request rules).isEmpty then policy.fallbackToAll
  else (applying request rules).any (record.isCandidate policy.candidateKey)

end Rule

/-- Every instance is eligible or not by itself. -/
theorem Balancer.eligible_eq_filter (rules : List Rule) (request : Request) (policy : Policy)
    (records : List Instance) :
    eligible policy (Rule.applying request rules) records = records.filter (Rule.keeps rules request policy) := by
  unfold eligible markedBy Rule.keeps
  split
  · cases policy.fallbackToAll <;> simp
  · rfl

/-! ### Positions -/

/-- The positions of a list that are flagged, in order. -/
def flagged (flags : List Bool) : List Nat :=
  (List.range flags.length).filter fun i => flags[i]? == some true

theorem flagged_cons (b : Bool) (flags : List Bool) :
    flagged (b :: flags) = (if b then [0] else []) ++ (flagged flags).map Nat.succ := by
  unfold flagged
  rw [List.length_cons, List.range_succ_eq_map, List.filter_cons, List.filter_map]
  cases b <;> rfl

/-- What stands at the positions where a property is flagged has the property. -/
theorem filterMap_flagged {α : Type} (p : α → Bool) (l : List α) :
    (flagged (l.map p)).filterMap (l[·]?) = l.filter p := by
  induction l with
  | nil => rfl
  | cons a rest ih =>
    have hlater : ((flagged (rest.map p)).map Nat.succ).filterMap ((a :: rest)[·]?) = rest.filter p := by
      rw [List.filterMap_map, ← ih]
      rfl
    rw [List.map_cons, flagged_cons, List.filterMap_append, hlater, List.filter_cons]
    split <;> rfl

theorem mem_flagged_iff {α : Type} {p : α → Bool} {l : List α} {i : Nat} :
    i ∈ flagged (l.map p) ↔ ∃ a, l[i]? = some a ∧ p a = true := by
  unfold flagged
  rw [List.mem_filter, List.mem_range, List.getElem?_map, beq_iff_eq, Option.map_eq_some_iff, List.length_map]
  constructor
  · exact And.right
  · rintro ⟨a, ha, hp⟩
    exact ⟨(List.getElem?_eq_some_iff.mp ha).1, a, ha, hp⟩

theorem flagged_eq_nil_iff {α : Type} {p : α → Bool} {l : List α} :
    flagged (l.map p) = [] ↔ l.filter p = [] := by
  constructor
  · intro h
    rw [← filterMap_flagged, h]
    rfl
  · intro h
    refine List.eq_nil_iff_forall_not_mem.mpr fun i hi => ?_
    obtain ⟨a, ha, hp⟩ := mem_flagged_iff.mp hi
    have hmem := List.mem_filter.mpr ⟨List.mem_of_getElem? ha, hp⟩
    rw [h] at hmem
    cases hmem

/-! ### Questions -/

/-- What candidates are looked for with. -/
structure Question where
  balancer : Balancer
  request : Request
  policy : Policy

namespace Question

/-- The rules that are asked. -/
def rules (q : Question) : List Rule := q.balancer.rules.rules q.policy.ruleSet

/-- The rules that are asked ask for headers only. -/
def AsksHeaders (q : Question) : Prop := ∀ rule ∈ q.rules, rule.condition.asksHeaders = true

/-- Which of the listed instances of a service are kept. -/
def flags (q : Question) (service : String) : List Bool :=
  (q.balancer.listed service).map (Rule.keeps q.rules q.request q.policy)

/-- The positions of the listed instances that are kept, or the failure for want of any. -/
def resolved (q : Question) (service : String) : Except Failure (List Nat) :=
  if q.flags service = [] then .error (.noInstances service)
  else if flagged (q.flags service) = [] then .error (.noCandidates service)
  else .ok (flagged (q.flags service))

/-- The instances that a selection finds are those that the rules keep. -/
theorem found_eq {q : Question} (hq : q.AsksHeaders) (service : String) :
    q.balancer.found service q.request q.policy =
      (q.balancer.listed service).filter (Rule.keeps q.rules q.request q.policy) := by
  have hreads : q.balancer.rules.ReadsRequest q.policy.ruleSet :=
    fun rule hrule => Condition.readsRequest_of_asksHeaders (hq rule hrule)
  have hnames : (q.balancer.matched service q.request q.policy).1 = Rule.applying q.request q.rules :=
    congrArg Prod.fst (Balancer.matched_of_readsRequest hreads service q.request)
  rw [Balancer.found, hnames]
  exact Balancer.eligible_eq_filter _ _ _ _

/-- **The candidates** are the instances at the positions that are kept. -/
theorem candidates_eq {q : Question} (hq : q.AsksHeaders) (service : String) :
    (q.balancer.candidates service q.request q.policy).1 =
      (q.resolved service).map fun positions => positions.filterMap ((q.balancer.listed service)[·]?) := by
  rw [Balancer.candidates_eq]
  simp only [found_eq hq, resolved, flags, List.map_eq_nil_iff, flagged_eq_nil_iff]
  split
  · rfl
  · split
    · rfl
    · exact congrArg Except.ok (filterMap_flagged _ _).symm

end Question

/-! ### What the wording is about -/

/-- The metadata of an instance, in small letters and without blanks around values. -/
def Instance.marks (i : Instance) : List (List Char × List Char) :=
  i.metadata.entries.map fun e => (lowerList e.1.toList, wording e.2)

theorem Instance.isCandidate_eq (i : Instance) (start rule : String) :
    i.isCandidate start rule =
      i.marks.any fun m => (lowerList start.toList).isPrefixOf m.1 && m.2 == wording rule := by
  unfold isCandidate Labels.any marks
  rw [List.any_map]
  refine congrArg i.metadata.entries.any (funext fun e => ?_)
  rw [Function.comp_apply, Bool.eq_iff_iff, Bool.and_eq_true, Bool.and_eq_true, sameFolded_trim_iff,
    beq_iff_eq]
  exact Iff.rfl

namespace Question

/-- The names of the rules that apply, in small letters and without blanks around them. -/
def words (q : Question) : List (List Char) := (Rule.applying q.request q.rules).map wording

/-- Two questions are the same in other words. -/
structure Same (service : String) (q q' : Question) : Prop where
  fallback : q'.policy.fallbackToAll = q.policy.fallbackToAll
  key : lowerList q'.policy.candidateKey.toList = lowerList q.policy.candidateKey.toList
  words : ∀ w, w ∈ q'.words ↔ w ∈ q.words
  listed : (q'.balancer.listed service).map Instance.marks = (q.balancer.listed service).map Instance.marks

theorem keeps_eq (q : Question) (record : Instance) :
    Rule.keeps q.rules q.request q.policy record =
      if q.words = [] then q.policy.fallbackToAll
      else q.words.any fun w => record.marks.any fun m =>
        (lowerList q.policy.candidateKey.toList).isPrefixOf m.1 && m.2 == w := by
  unfold Rule.keeps words
  simp only [List.isEmpty_iff, List.map_eq_nil_iff, List.any_map]
  split
  · rfl
  · refine congrArg (Rule.applying q.request q.rules).any (funext fun name => ?_)
    exact record.isCandidate_eq _ _

namespace Same

variable {service : String} {q q' q'' : Question}

theorem refl (service : String) (q : Question) : Same service q q :=
  ⟨rfl, rfl, fun _ => Iff.rfl, rfl⟩

theorem symm (h : Same service q q') : Same service q' q where
  fallback := h.fallback.symm
  key := h.key.symm
  words := fun w => (h.words w).symm
  listed := h.listed.symm

theorem trans (h : Same service q q') (h' : Same service q' q'') : Same service q q'' where
  fallback := h'.fallback.trans h.fallback
  key := h'.key.trans h.key
  words := fun w => (h'.words w).trans (h.words w)
  listed := h'.listed.trans h.listed

/-- Instances with the same marks are kept by both or by neither. -/
theorem keeps (h : Same service q q') {record record' : Instance} (hmarks : record'.marks = record.marks) :
    Rule.keeps q'.rules q'.request q'.policy record' = Rule.keeps q.rules q.request q.policy record := by
  have hnil : q'.words = [] ↔ q.words = [] := by
    rw [List.eq_nil_iff_forall_not_mem, List.eq_nil_iff_forall_not_mem]
    exact forall_congr' fun w => not_congr (h.words w)
  rw [keeps_eq, keeps_eq, h.fallback, h.key, hmarks]
  by_cases hwords : q.words = []
  · rw [if_pos hwords, if_pos (hnil.mpr hwords)]
  · rw [if_neg hwords, if_neg (mt hnil.mp hwords), Bool.eq_iff_iff, List.any_eq_true, List.any_eq_true]
    exact exists_congr fun w => and_congr_left fun _ => h.words w

theorem flags (h : Same service q q') : q'.flags service = q.flags service := by
  unfold Question.flags
  refine List.ext_getElem? fun i => ?_
  rw [List.getElem?_map, List.getElem?_map]
  have hmarks := congrArg (·[i]?) h.listed
  simp only [List.getElem?_map] at hmarks
  cases hold : (q.balancer.listed service)[i]? with
  | none =>
    rw [hold, Option.map_none, Option.map_eq_none_iff] at hmarks
    rw [hmarks, Option.map_none, Option.map_none]
  | some record =>
    rw [hold, Option.map_some, Option.map_eq_some_iff] at hmarks
    obtain ⟨record', hnew, hsame⟩ := hmarks
    rw [hnew, Option.map_some, Option.map_some, h.keeps hsame]

theorem resolved (h : Same service q q') : q'.resolved service = q.resolved service := by
  unfold Question.resolved
  rw [h.flags]

end Same

end Question

/-! ### Changes of wording -/

section Rules

variable {request : Request} {rules rules' : List Rule}

/-- Rules are put in another order, or repeated, or one of them is spelled otherwise. -/
inductive Rule.Rewritten : List Rule → List Rule → Prop
  | permuted {rules rules' : List Rule} (h : rules.Perm rules') : Rewritten rules rules'
  | repeated {rules : List Rule} {rule : Rule} (h : rule ∈ rules) : Rewritten rules (rule :: rules)
  | renamed (before : List Rule) (rule : Rule) (after : List Rule) {name : String}
      (h : Respelled rule.name name) :
      Rewritten (before ++ rule :: after) (before ++ { rule with name } :: after)
  | recased (before : List Rule) (name : String) (after : List Rule) {header header' value value' : String}
      (hheader : sameFolded header header' = true) (hvalue : sameFolded value value' = true) :
      Rewritten (before ++ ⟨name, .header header value⟩ :: after)
        (before ++ ⟨name, .header header' value'⟩ :: after)

theorem Rule.mem_words_iff {w : List Char} :
    w ∈ (applying request rules).map wording ↔
      ∃ rule ∈ rules, rule.condition.applies request = true ∧ wording rule.name = w := by
  simp only [applying, List.map_map, List.mem_map, List.mem_filter, Function.comp_apply, and_assoc]

/-- A header is asked for in other letters. -/
theorem Condition.applies_recased {header header' value value' : String}
    (hheader : sameFolded header header' = true) (hvalue : sameFolded value value' = true) :
    (Condition.header header' value').applies request = (Condition.header header value).applies request := by
  simp only [applies, holds, lowerText, sameFolded, sameFolded_iff.mp hheader, sameFolded_iff.mp hvalue]

/-- One rule does what another one does. -/
structure Rule.Alike (rule rule' : Rule) : Prop where
  asksHeaders : rule'.condition.asksHeaders = rule.condition.asksHeaders
  applies : ∀ request, rule'.condition.applies request = rule.condition.applies request
  word : wording rule'.name = wording rule.name

namespace Rule.Alike

variable {rule rule' : Rule}

theorem refl (rule : Rule) : Alike rule rule := ⟨rfl, fun _ => rfl, rfl⟩

theorem symm (h : Alike rule rule') : Alike rule' rule :=
  ⟨h.asksHeaders.symm, fun request => (h.applies request).symm, h.word.symm⟩

end Rule.Alike

/-- Each of some rules does what one of some other rules does. -/
def Rule.Covered (rules rules' : List Rule) : Prop := ∀ rule' ∈ rules', ∃ rule ∈ rules, Alike rule rule'

theorem Rule.covered_of_subset (h : ∀ rule ∈ rules', rule ∈ rules) : Covered rules rules' :=
  fun rule hrule => ⟨rule, h rule hrule, .refl rule⟩

/-- One rule is put in the place of another. -/
theorem Rule.covered_replace (before : List Rule) {old new : Rule} (after : List Rule) (h : Alike old new) :
    Covered (before ++ old :: after) (before ++ new :: after) := by
  intro rule hrule
  have hplace : ∀ rule, rule ∈ before ∨ rule ∈ after → rule ∈ before ++ old :: after := by
    intro rule hrule
    exact List.mem_append.mpr (hrule.imp_right (List.mem_cons_of_mem _))
  rcases List.mem_append.mp hrule with hbefore | hafter
  · exact ⟨rule, hplace rule (.inl hbefore), .refl rule⟩
  · rcases List.mem_cons.mp hafter with rfl | hlater
    · exact ⟨old, List.mem_append_right _ List.mem_cons_self, h⟩
    · exact ⟨rule, hplace rule (.inr hlater), .refl rule⟩

/-- Rewritten rules do what the old ones did, and nothing more. -/
theorem Rule.Rewritten.covered (h : Rewritten rules rules') :
    Covered rules rules' ∧ Covered rules' rules := by
  cases h with
  | permuted h =>
    exact ⟨covered_of_subset fun _ hrule => h.mem_iff.mpr hrule,
      covered_of_subset fun _ hrule => h.mem_iff.mp hrule⟩
  | repeated h =>
    refine ⟨covered_of_subset fun rule hrule => ?_, covered_of_subset fun _ => List.mem_cons_of_mem _⟩
    rcases List.mem_cons.mp hrule with rfl | hrest
    · exact h
    · exact hrest
  | @renamed before rule after name h =>
    have halike : Alike rule { rule with name } := ⟨rfl, fun _ => rfl, h.wording_eq⟩
    exact ⟨covered_replace before after halike, covered_replace before after halike.symm⟩
  | @recased before name after header header' value value' hheader hvalue =>
    have halike : Alike ⟨name, .header header value⟩ ⟨name, .header header' value'⟩ :=
      ⟨rfl, fun _ => Condition.applies_recased hheader hvalue, rfl⟩
    exact ⟨covered_replace before after halike, covered_replace before after halike.symm⟩

/-- The names of covered rules that apply are names of the covering ones. -/
theorem Rule.Covered.words (h : Covered rules rules') {w : List Char}
    (hw : w ∈ (applying request rules').map wording) : w ∈ (applying request rules).map wording := by
  rw [mem_words_iff] at hw ⊢
  obtain ⟨rule', hrule', happlies, rfl⟩ := hw
  obtain ⟨rule, hrule, halike⟩ := h rule' hrule'
  exact ⟨rule, hrule, (halike.applies request).symm.trans happlies, halike.word.symm⟩

theorem Rule.Covered.asksHeaders (h : Covered rules rules')
    (hasks : ∀ rule ∈ rules, rule.condition.asksHeaders = true) :
    ∀ rule' ∈ rules', rule'.condition.asksHeaders = true := by
  intro rule' hrule'
  obtain ⟨rule, hrule, halike⟩ := h rule' hrule'
  exact halike.asksHeaders.trans (hasks rule hrule)

end Rules

/-! ### Headers -/

/-- The values of headers are written in other letters. -/
def Headers.Recased (h h' : Headers) : Prop :=
  List.Forall₂ (fun e e' => e'.1 = e.1 ∧ sameFolded e.2 e'.2 = true) h.entries h'.entries

/-- A value in small letters, if it is text. -/
def Headers.smallText? (h : Headers) (name : String) : Option (List Char) :=
  (h.text? name).map fun v => lowerList v.toList

theorem Headers.smallText?_eq (h : Headers) (name : String) :
    h.smallText? name = ((h.get? name).map fun v => lowerList v.toList).filter (·.all isTextChar) := by
  have htext : ∀ v : List Char, (lowerList v).all isTextChar = v.all isTextChar := by
    intro v
    rw [lowerList, List.all_map]
    exact congrArg v.all (funext isTextChar_lower)
  unfold smallText? text?
  cases h.get? name with
  | none => rfl
  | some v =>
    rw [Option.map_some, Option.filter_some, Option.filter_some, htext]
    split <;> rfl

theorem Headers.find_recased {es es' : List (String × String)}
    (h : List.Forall₂ (fun e e' => e'.1 = e.1 ∧ sameFolded e.2 e'.2 = true) es es') (name : String) :
    (Table.find name es').map (fun v => lowerList v.toList) =
      (Table.find name es).map fun v => lowerList v.toList := by
  induction h with
  | nil => rfl
  | cons hone _ ih =>
    obtain ⟨hname, hvalue⟩ := hone
    simp only [Table.find, hname]
    split
    · exact congrArg some (sameFolded_iff.mp hvalue).symm
    · exact ih

theorem Headers.Recased.smallText? {h h' : Headers} (hrecased : Recased h h') (name : String) :
    h'.smallText? name = h.smallText? name := by
  have hget : (h'.get? name).map (fun v => lowerList v.toList) =
      (h.get? name).map fun v => lowerList v.toList := by
    unfold get?
    cases name? name with
    | none => rfl
    | some small => exact find_recased hrecased small
  rw [smallText?_eq, smallText?_eq, hget]

/-- Whether a condition on headers holds is a matter of small letters. -/
theorem Condition.applies_of_headers {c : Condition} (h : c.asksHeaders = true) {request : Request}
    {headers : Headers} (hrecased : request.headers.Recased headers) :
    c.applies { request with headers } = c.applies request := by
  have hsmall : ∀ (o : Option String) (value : String), o.any (sameFolded · value) =
      (o.map fun v => lowerList v.toList).any (· == lowerList value.toList) := by
    intro o value
    cases o with
    | none => rfl
    | some v => simp only [Option.any_some, Option.map_some, sameFolded]
  cases c with
  | header name value =>
    have hsame := hrecased.smallText? (lowerText name)
    unfold Headers.smallText? at hsame
    simp only [applies, holds]
    rw [hsmall, hsmall, hsame]
  | always => rfl
  | _ => cases h

/-! ### Metadata -/

/-- Lists that are related element by element are the same under what the relation leaves alone. -/
theorem map_eq_of_forall₂ {α β : Type} {related : α → α → Prop} {f : α → β} {l l' : List α}
    (h : List.Forall₂ related l l') (hf : ∀ a a', related a a' → f a' = f a) : l'.map f = l.map f := by
  induction h with
  | nil => rfl
  | cons hone _ ih => rw [List.map_cons, List.map_cons, hf _ _ hone, ih]

/-- Values in the metadata of an instance are spelled otherwise. -/
def Instance.Respelled (i i' : Instance) : Prop :=
  List.Forall₂ (fun e e' => e'.1 = e.1 ∧ Text.Respelled e.2 e'.2) i.metadata.entries i'.metadata.entries

theorem Instance.Respelled.marks_eq {i i' : Instance} (h : Respelled i i') : i'.marks = i.marks := by
  unfold marks
  refine map_eq_of_forall₂ h fun e e' hone => ?_
  rw [hone.1, hone.2.wording_eq]

/-! ### Questions in other words -/

/-- One change of wording. -/
inductive Reworded (service : String) : Question → Question → Prop
  /-- The rules that are asked are rewritten; those of other sets do not matter. -/
  | rules {q : Question} (book : RuleBook) (h : Rule.Rewritten q.rules (book.rules q.policy.ruleSet)) :
      Reworded service q { q with balancer := { q.balancer with rules := book } }
  /-- Another set gets one more rule. -/
  | otherSet {q : Question} {set : String} (rule : Rule) (h : set ≠ q.policy.ruleSet) :
      Reworded service q { q with balancer := { q.balancer with rules := q.balancer.rules.add set rule } }
  /-- The values of the headers of the request are written in other letters. -/
  | headers {q : Question} (headers : Headers) (h : q.request.headers.Recased headers) :
      Reworded service q { q with request := { q.request with headers } }
  /-- The beginning of names in the metadata is written in other letters. -/
  | key {q : Question} {candidateKey : String} (h : sameFolded q.policy.candidateKey candidateKey = true) :
      Reworded service q { q with policy := { q.policy with candidateKey } }
  /-- Values in the metadata of the listed instances are spelled otherwise. -/
  | metadata {q : Question} (discovery : Discovery)
      (h : List.Forall₂ Instance.Respelled (q.balancer.listed service)
        (Balancer.listed { q.balancer with discovery } service)) :
      Reworded service q { q with balancer := { q.balancer with discovery } }

namespace Question

variable {service : String} {q q' : Question}

/-- Other rules that do what the old ones did, and nothing more. -/
theorem same_of_covered {book : RuleBook} (hnew : Rule.Covered q.rules (book.rules q.policy.ruleSet))
    (hold : Rule.Covered (book.rules q.policy.ruleSet) q.rules) :
    let q' : Question := { q with balancer := { q.balancer with rules := book } }
    (q'.AsksHeaders ↔ q.AsksHeaders) ∧ (q.AsksHeaders → Same service q q') :=
  ⟨⟨hold.asksHeaders, hnew.asksHeaders⟩, fun _ => ⟨rfl, rfl, fun _ => ⟨hnew.words, hold.words⟩, rfl⟩⟩

/-- **One change of wording** leaves a question the same. -/
theorem same_of_reworded (h : Reworded service q q') :
    (q'.AsksHeaders ↔ q.AsksHeaders) ∧ (q.AsksHeaders → Same service q q') := by
  cases h with
  | rules book h => exact same_of_covered h.covered.1 h.covered.2
  | @otherSet set rule h =>
    have hrules : (q.balancer.rules.add set rule).rules q.policy.ruleSet = q.rules := by
      rw [RuleBook.rules_add, if_neg h]
      rfl
    exact same_of_covered (Rule.covered_of_subset (by rw [hrules]; exact fun _ => id))
      (Rule.covered_of_subset (by rw [hrules]; exact fun _ => id))
  | headers headers h =>
    refine ⟨Iff.rfl, fun hq => ⟨rfl, rfl, fun w => ?_, rfl⟩⟩
    have hnames : Rule.applying { q.request with headers } q.rules = Rule.applying q.request q.rules := by
      unfold Rule.applying
      refine congrArg _ (List.filter_congr fun rule hrule => ?_)
      exact Condition.applies_of_headers (hq rule hrule) h
    have hwords : Question.words { q with request := { q.request with headers } } = q.words :=
      congrArg (List.map wording) hnames
    rw [hwords]
  | key h => exact ⟨Iff.rfl, fun _ => ⟨rfl, (sameFolded_iff.mp h).symm, fun _ => Iff.rfl, rfl⟩⟩
  | metadata discovery h =>
    refine ⟨Iff.rfl, fun _ => ⟨rfl, rfl, fun _ => Iff.rfl, ?_⟩⟩
    exact map_eq_of_forall₂ h fun _ _ hone => hone.marks_eq

/-- Any changes of wording, made or unmade in turn, leave a question the same. By induction on them. -/
theorem same_of_eqvGen (h : Relation.EqvGen (Reworded service) q q') :
    (q'.AsksHeaders ↔ q.AsksHeaders) ∧ (q.AsksHeaders → Same service q q') := by
  induction h with
  | rel q q' h => exact same_of_reworded h
  | refl q => exact ⟨Iff.rfl, fun _ => .refl service q⟩
  | symm q q' _ ih => exact ⟨ih.1.symm, fun hq => (ih.2 (ih.1.mp hq)).symm⟩
  | trans q q' q'' _ _ ih ih' =>
    exact ⟨ih'.1.trans ih.1, fun hq => (ih.2 hq).trans (ih'.2 (ih.1.mpr hq))⟩

/-- The positions that are kept come in order. -/
theorem pairwise_flagged (flags : List Bool) : (flagged flags).Pairwise (· < ·) :=
  List.pairwise_lt_range.filter _

/-- **Candidates do not depend on the wording.** If the rules that are asked ask for headers or for nothing,
the candidates are the listed instances at the positions that are kept, in the order of the list; each instance
is kept or not by itself, whatever else is listed; and if none is listed or kept, that is the failure. These
positions, or the failure, stay the same when the rules of the set are permuted or repeated, when rules are
added to other sets, when ASCII letters change their case in names of rules, in the headers and values that
rules ask for, in the values of the headers of the request, in the beginning of names in the metadata or in the
values there, and when blanks come or go around names of rules or values in the metadata. A beginning is
compared octet by octet, so it cannot be longer than the name, and it never ends inside a character. -/
theorem resolved_ignores_wording (q : Question) (hq : q.AsksHeaders) (service : String) :
    (q.balancer.candidates service q.request q.policy).1 =
        (q.resolved service).map (fun positions =>
          positions.filterMap ((q.balancer.listed service)[·]?)) ∧
      (∀ positions, q.resolved service = .ok positions →
        positions.Pairwise (· < ·) ∧
        ∀ i, i ∈ positions ↔ ∃ record, (q.balancer.listed service)[i]? = some record ∧
          Rule.keeps q.rules q.request q.policy record = true) ∧
      (∀ pool, (q.balancer.candidates service q.request q.policy).1 = .ok pool →
        pool.Sublist (q.balancer.listed service)) ∧
      (∀ q', Relation.EqvGen (Reworded service) q q' →
        q'.resolved service = q.resolved service ∧
        (q'.balancer.candidates service q'.request q'.policy).1 =
          (q.resolved service).map fun positions =>
            positions.filterMap ((q'.balancer.listed service)[·]?)) ∧
      (∀ (record : Instance) (start name : String), record.isCandidate start name = true ↔
        ∃ e ∈ record.metadata.entries, foldedOctets start <+: foldedOctets e.1 ∧
          sameFolded (trim e.2) (trim name) = true) ∧
      ∀ start name, startsFolded start name = true → ∃ head tail, name = head ++ tail ∧
        sameFolded head start = true ∧ head.utf8ByteSize = start.utf8ByteSize := by
  refine ⟨candidates_eq hq service, ?_, ?_, ?_, ?_, fun _ _ => exists_append_of_startsFolded⟩
  · intro positions h
    obtain rfl : flagged (q.flags service) = positions := by
      unfold resolved at h
      split at h
      · cases h
      · split at h
        · cases h
        · exact Except.ok.inj h
    exact ⟨pairwise_flagged _, fun i => mem_flagged_iff⟩
  · intro pool h
    rw [Balancer.candidates_eq, found_eq hq] at h
    dsimp only at h
    split at h
    · cases h
    · split at h
      · cases h
      · cases h
        exact List.filter_sublist
  · intro q' h
    obtain ⟨hasks, hsame⟩ := same_of_eqvGen h
    have hresolved := (hsame hq).resolved
    rw [candidates_eq (hasks.mpr hq), hresolved]
    exact ⟨rfl, rfl⟩
  · intro record start name
    unfold Instance.isCandidate Labels.any
    rw [List.any_eq_true]
    refine exists_congr fun e => and_congr_right fun _ => ?_
    rw [Bool.and_eq_true, startsFolded_iff_octets]

/-- Rules change places, one of them is spelled otherwise, another set gets a rule, and so on; the first and the
third instance are kept all the same. -/
theorem resolved_ignores_wording_shouted :
    let beta : Rule := ⟨"beta", .header "X-Canary" "on"⟩
    let gamma : Rule := ⟨" gamma", .always⟩
    let record := fun id value => (Instance.plain id "users" "10.0.0.1" 80).withMetadata "Canary-é" value
    let plain := Instance.plain "b" "users" "10.0.0.2" 80
    let balancer : Balancer := { Balancer.new ⟨id, id⟩ with
      rules := ⟨[("canary", beta), ("canary", gamma)]⟩
      discovery := [record "a" "Beta", plain, record "c" "GAMMA"].foldl Discovery.add .empty }
    let discovery := [record "a" (" " ++ "Beta" ++ "\t"), plain,
      record "c" ("" ++ "GAMMA" ++ "\n")].foldl Discovery.add .empty
    let request : Request := { Request.ofTarget ⟨"lb", none, .bare "", none, none⟩ with
      headers := ⟨[("x-canary", "ON")]⟩ }
    let q : Question := ⟨balancer, request, { Policy.default with ruleSet := "canary", candidateKey := "CANARY-" }⟩
    let q₁ : Question := { q with balancer := { q.balancer with
      rules := ⟨[("canary", gamma), ("canary", beta)]⟩ } }
    let q₂ : Question := { q₁ with balancer := { q₁.balancer with
      rules := q₁.balancer.rules.add "other" ⟨"all", .always⟩ } }
    let q₃ : Question := { q₂ with request := { q₂.request with headers := ⟨[("x-canary", "On")]⟩ } }
    let q₄ : Question := { q₃ with policy := { q₃.policy with candidateKey := "canary-" } }
    let q₅ : Question := { q₄ with balancer := { q₄.balancer with discovery } }
    q.AsksHeaders ∧ q.resolved "users" = .ok [0, 2] ∧ q₅.resolved "users" = .ok [0, 2] := by
  intro beta gamma record plain balancer discovery request q q₁ q₂ q₃ q₄ q₅
  have hq : q.AsksHeaders := by
    intro rule hrule
    have hmem : rule ∈ [beta, gamma] := hrule
    rcases List.mem_pair.mp hmem with rfl | rfl <;> rfl
  have hkept : q.resolved "users" = .ok [0, 2] := by decide +kernel
  have h₁ : Reworded "users" q q₁ := .rules _ (.permuted (List.Perm.swap gamma beta []))
  have h₂ : Reworded "users" q₁ q₂ := .otherSet _ (by decide)
  have h₃ : Reworded "users" q₂ q₃ := .headers _ (.cons ⟨rfl, by decide⟩ .nil)
  have h₄ : Reworded "users" q₃ q₄ := .key (by decide)
  have h₅ : Reworded "users" q₄ q₅ := by
    refine .metadata discovery (.cons ?_ (.cons ?_ (.cons ?_ .nil)))
    · exact .cons ⟨rfl, .padded _ (by decide) (by decide)⟩ .nil
    · exact .nil
    · exact .cons ⟨rfl, .padded _ (by decide) (by decide)⟩ .nil
  have hall : Relation.EqvGen (Reworded "users") q q₅ :=
    .trans _ _ _ (.rel _ _ h₁) (.trans _ _ _ (.rel _ _ h₂) (.trans _ _ _ (.rel _ _ h₃)
      (.trans _ _ _ (.rel _ _ h₄) (.rel _ _ h₅))))
  obtain ⟨-, -, -, hreworded, -⟩ := resolved_ignores_wording q hq "users"
  exact ⟨hq, hkept, (hreworded q₅ hall).1.trans hkept⟩

end Question

end LoadBalancer

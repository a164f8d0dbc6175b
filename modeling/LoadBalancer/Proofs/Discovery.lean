import Mathlib
import LoadBalancer.Discovery
import LoadBalancer.Proofs.Channel

/-!
# The service list and what it announces

The list of a service is ordered and has every id once. It can be told from what is announced: whoever has
missed nothing since a list was last replaced has the same list.

* `DiscoveryAction`, `DiscoveryAction.run`, `DiscoveryAction.runAll` – operations on the service list, in turn;
* `Discovery.entered` – an instance in the place of the one with its id, or at the end;
* `DiscoveryAction.announced?`, `DiscoveryAction.changes_run` – the one change that an operation announces, if
  it announces any;
* `ServiceChange.replay` – a list after announced changes, for somebody who goes by these alone;
* `DiscoveryAction.list_run` – **what one operation does to the list of a service**: it sets the list, or does
  what it announces;
* `DiscoveryAction.list_runAll` – **the list of a service after a run**, by induction on the operations;
* `Discovery.heard`, `Discovery.items_heard` – what a reader gets;
* `Discovery.list_replays` – all of this about a run, and somebody who follows a part of it.
-/

namespace LoadBalancer

/-! ### Operations -/

/-- An operation on the service list. -/
inductive DiscoveryAction where
  | add (record : Instance)
  | remove (service id : String)
  | replace (service : String) (records : List Instance)
  deriving DecidableEq, Repr

namespace DiscoveryAction

/-- The service list after an operation. -/
def run (d : Discovery) : DiscoveryAction → Discovery
  | add record => d.add record
  | remove service id => (d.remove service id).2
  | replace service records => d.replace service records

/-- The service list after operations in turn. -/
def runAll (d : Discovery) (actions : List DiscoveryAction) : Discovery := actions.foldl run d

/-- The service whose list an operation is about. An instance that is added names it. -/
def service : DiscoveryAction → String
  | add record => record.service
  | remove service _ => service
  | replace service _ => service

/-- A list that is set has every id once. Its instances may name any service. -/
def Distinct : DiscoveryAction → Prop
  | replace _ records => (records.map Instance.id).Nodup
  | _ => True

instance : (a : DiscoveryAction) → Decidable a.Distinct
  | add _ => isTrue trivial
  | remove _ _ => isTrue trivial
  | replace _ records => inferInstanceAs (Decidable (records.map Instance.id).Nodup)

end DiscoveryAction

/-! ### Lists -/

namespace Discovery

/-- An instance takes the place of the one with its id, and comes to the end of the list if there is none. -/
def entered (record : Instance) (rs : List Instance) : List Instance :=
  if record.id ∈ rs.map Instance.id then rs.map fun r => if r.id = record.id then record else r
  else rs ++ [record]

/-- Only the first instance of an id is replaced, which is the only one. -/
theorem place_eq_entered (record : Instance) {rs : List Instance} (h : (rs.map Instance.id).Nodup) :
    place record rs = entered record rs := by
  induction rs with
  | nil => rfl
  | cons r rest ih =>
      obtain ⟨hr, hrest⟩ := List.nodup_cons.mp h
      by_cases hid : r.id = record.id
      · have hothers : rest.map (fun r => if r.id = record.id then record else r) = rest := by
          refine (List.map_congr_left fun other hother => ?_).trans (List.map_id _)
          have hne : other.id ≠ record.id := by
            intro heq
            exact hr (List.mem_map.mpr ⟨other, hother, heq.trans hid.symm⟩)
          exact if_neg hne
        simp only [place, entered, hid, if_true, List.map_cons, List.mem_cons, true_or, hothers]
      · have hne : ¬record.id = r.id := fun heq => hid heq.symm
        simp only [place, entered, hid, if_false, ih hrest, List.map_cons, List.mem_cons, hne, false_or]
        split <;> rfl

theorem nodup_place (record : Instance) {rs : List Instance} (h : (rs.map Instance.id).Nodup) :
    ((place record rs).map Instance.id).Nodup := by
  rw [ids_place]
  split
  · exact h
  · rename_i hnew
    exact List.nodup_append.mpr ⟨h, List.nodup_singleton _, fun x hx y hy heq =>
      hnew (by rw [← List.mem_singleton.mp hy, ← heq]; exact hx)⟩

/-- Taking out an id makes a list shorter exactly if it is there. -/
theorem length_filter_ne_iff (rs : List Instance) (id : String) :
    (rs.filter (·.id ≠ id)).length = rs.length ↔ id ∉ rs.map Instance.id := by
  rw [List.length_filter_eq_length_iff]
  simp only [ne_eq, decide_not, Bool.not_eq_true', decide_eq_false_iff_not, List.mem_map, not_exists,
    not_and]

/-- **Removing.** The answer says whether the id was listed, and only then the removal is announced. -/
theorem remove_answer (d : Discovery) (service id : String) :
    (d.remove service id).1 = decide (id ∈ (d.list service).map Instance.id) ∧
      (d.remove service id).2.changes =
        if (d.remove service id).1 then d.changes.send (.deregistered service id) else d.changes := by
  have hlength := length_filter_ne_iff (d.list service) id
  simp only [remove]
  split
  · rename_i hsame
    exact ⟨(decide_eq_false (hlength.mp hsame)).symm, rfl⟩
  · rename_i hshorter
    have hlisted : id ∈ (d.list service).map Instance.id := by
      by_contra hnot
      exact hshorter (hlength.mpr hnot)
    exact ⟨(decide_eq_true hlisted).symm, rfl⟩

end Discovery

/-! ### What is announced -/

namespace ServiceChange

/-- The list of a service is replaced. What it is replaced with is not announced. -/
def replaces (service : String) : ServiceChange → Bool
  | replaced other _ => other == service
  | _ => false

/-- The list of a service after an announced change. -/
def followed (service : String) (rs : List Instance) : ServiceChange → List Instance
  | registered record => if record.service = service then Discovery.entered record rs else rs
  | deregistered other id => if other = service then rs.filter (·.id ≠ id) else rs
  | replaced _ _ => rs

/-- The list of a service after announced changes, which are made to a first list in turn. -/
def replay (service : String) (first : List Instance) (cs : List ServiceChange) : List Instance :=
  cs.foldl (followed service) first

theorem replay_snoc (service : String) (first : List Instance) (cs : List ServiceChange)
    (c : ServiceChange) :
    replay service first (cs ++ [c]) = followed service (replay service first cs) c := by
  show (cs ++ [c]).foldl _ _ = _
  rw [List.foldl_append]
  rfl

/-- The changes since the list of a service was last replaced. -/
def since (service : String) (cs : List ServiceChange) : List ServiceChange :=
  cs.rtakeWhile fun c => !c.replaces service

theorem since_snoc (service : String) (cs : List ServiceChange) (c : ServiceChange) :
    since service (cs ++ [c]) = if c.replaces service then [] else since service cs ++ [c] := by
  show List.rtakeWhile _ _ = _
  rw [List.rtakeWhile_concat]
  cases c.replaces service <;> rfl

end ServiceChange

namespace DiscoveryAction

variable {d : Discovery} {a : DiscoveryAction}

/-- The change that an operation announces. An instance that is not there is not removed. -/
def announced? (d : Discovery) : DiscoveryAction → Option ServiceChange
  | add record => some (.registered record)
  | remove service id =>
    if id ∈ (d.list service).map Instance.id then some (.deregistered service id) else none
  | replace service records => some (.replaced service records.length)

/-- The changes that operations announce in turn. -/
def announcedAll (d : Discovery) : List DiscoveryAction → List ServiceChange
  | [] => []
  | a :: rest => (a.announced? d).toList ++ announcedAll (run d a) rest

/-- Nothing is announced but the change that the operation announces. -/
theorem changes_run (d : Discovery) (a : DiscoveryAction) :
    (run d a).changes = { d.changes with sent := (a.announced? d).toList ++ d.changes.sent } := by
  cases a with
  | add record => rfl
  | remove service id =>
      obtain ⟨hanswer, hchanges⟩ := d.remove_answer service id
      show (d.remove service id).2.changes = _
      rw [hchanges, hanswer]
      by_cases h : id ∈ (d.list service).map Instance.id <;> simp [announced?, h, Channel.send]
  | replace service records => rfl

theorem announcedAll_append (d : Discovery) (xs ys : List DiscoveryAction) :
    announcedAll d (xs ++ ys) = announcedAll d xs ++ announcedAll (runAll d xs) ys := by
  induction xs generalizing d with
  | nil => rfl
  | cons a rest ih =>
      show (a.announced? d).toList ++ announcedAll (run d a) (rest ++ ys) = _
      rw [ih, ← List.append_assoc]
      rfl

theorem runAll_append (d : Discovery) (xs ys : List DiscoveryAction) :
    runAll d (xs ++ ys) = runAll (runAll d xs) ys := List.foldl_append

/-- What has been announced in a run, the newest first. -/
theorem sent_runAll (d : Discovery) (actions : List DiscoveryAction) :
    (runAll d actions).changes.sent = (announcedAll d actions).reverse ++ d.changes.sent := by
  induction actions generalizing d with
  | nil => rfl
  | cons a rest ih =>
      have hone : ((a.announced? d).toList).reverse = (a.announced? d).toList := by
        cases a.announced? d <;> rfl
      show (runAll (run d a) rest).changes.sent = _
      rw [ih, changes_run, announcedAll, List.reverse_append, hone, List.append_assoc]

/-! ### One operation -/

/-- The list that an operation sets for a service. -/
def setting? (service : String) : DiscoveryAction → Option (List Instance)
  | replace other records => if other = service then some records else none
  | _ => none

/-- An operation leaves the list of every other service alone. -/
theorem list_run_of_ne (d : Discovery) {service : String} (h : a.service ≠ service) :
    (run d a).list service = d.list service := by
  cases a with
  | add record =>
      show (d.add record).list service = _
      exact (d.list_add record service).trans (if_neg h)
  | remove other id =>
      show (d.remove other id).2.list service = _
      exact (d.list_remove other id service).trans (if_neg h)
  | replace other records =>
      show (d.replace other records).list service = _
      exact (d.list_replace other service records).trans (if_neg h)

/-- **What an operation does to the list of a service.** It sets the list, or does what it announces. -/
theorem list_run {service : String} (h : ((d.list service).map Instance.id).Nodup) (a : DiscoveryAction) :
    (run d a).list service =
      (a.setting? service).getD
        (ServiceChange.replay service (d.list service) (a.announced? d).toList) := by
  cases a with
  | add record =>
      show (d.add record).list service = ServiceChange.followed service _ (.registered record)
      rw [Discovery.list_add, Discovery.place_eq_entered record h]
      rfl
  | remove other id =>
      show (d.remove other id).2.list service = ServiceChange.replay service (d.list service) (Option.toList _)
      rw [Discovery.list_remove]
      by_cases hsame : other = service
      · subst hsame
        by_cases hlisted : id ∈ (d.list other).map Instance.id
        · rw [if_pos rfl, announced?, if_pos hlisted]
          show _ = ServiceChange.followed other (d.list other) (.deregistered other id)
          rw [ServiceChange.followed, if_pos rfl]
        · rw [if_pos rfl, announced?, if_neg hlisted]
          exact List.filter_sublist.eq_of_length ((Discovery.length_filter_ne_iff _ id).mpr hlisted)
      · rw [if_neg hsame, announced?]
        split
        · show _ = ServiceChange.followed service (d.list service) (.deregistered other id)
          rw [ServiceChange.followed, if_neg hsame]
        · rfl
  | replace other records =>
      show (d.replace other records).list service = _
      rw [Discovery.list_replace]
      by_cases hsame : other = service <;> simp [setting?, announced?, hsame, ServiceChange.replay,
        ServiceChange.followed]

/-- An operation that sets the list of a service says so, and no other does. -/
theorem replaces_of_announced? {c : ServiceChange} (h : a.announced? d = some c) (service : String) :
    c.replaces service = (a.setting? service).isSome := by
  cases a with
  | add record =>
      cases h
      rfl
  | remove other id =>
      simp only [announced?] at h
      split at h
      · cases h
        rfl
      · cases h
  | replace other records =>
      cases h
      by_cases hsame : other = service <;> simp [ServiceChange.replaces, setting?, hsame]

/-- What sets a list is announced. -/
theorem setting?_of_announced? (h : a.announced? d = none) (service : String) :
    a.setting? service = none := by
  cases a with
  | replace other records => cases h
  | _ => rfl

/-- No list gets an id twice. -/
theorem nodup_run (h : ∀ service, ((d.list service).map Instance.id).Nodup) (ha : a.Distinct)
    (service : String) : (((run d a).list service).map Instance.id).Nodup := by
  by_cases hservice : a.service = service
  · subst hservice
    cases a with
    | add record =>
        show (((d.add record).list record.service).map Instance.id).Nodup
        rw [Discovery.list_add, if_pos rfl]
        exact Discovery.nodup_place record (h _)
    | remove service id =>
        show (((d.remove service id).2.list service).map Instance.id).Nodup
        rw [Discovery.list_remove, if_pos rfl]
        exact (h _).sublist (List.filter_sublist.map _)
    | replace service records =>
        show (((d.replace service records).list service).map Instance.id).Nodup
        rw [Discovery.list_replace, if_pos rfl]
        exact ha
  · rw [list_run_of_ne d hservice]
    exact h service

/-! ### Runs -/

/-- In every state of a run every list has an id once, by induction on the operations. -/
theorem nodup_runAll (h : ∀ service, ((d.list service).map Instance.id).Nodup)
    {actions : List DiscoveryAction} (hactions : ∀ a ∈ actions, a.Distinct) (service : String) :
    (((runAll d actions).list service).map Instance.id).Nodup := by
  induction actions generalizing d with
  | nil => exact h service
  | cons a rest ih =>
      have hfirst := nodup_run h (hactions a List.mem_cons_self)
      exact ih hfirst fun a' ha' => hactions a' (List.mem_cons_of_mem _ ha')

/-- The list that was last set for a service in a run. -/
def lastSetting? (service : String) (actions : List DiscoveryAction) : Option (List Instance) :=
  (actions.filterMap (setting? service)).getLast?

theorem lastSetting?_snoc (service : String) (actions : List DiscoveryAction) (a : DiscoveryAction) :
    lastSetting? service (actions ++ [a]) = (a.setting? service).or (lastSetting? service actions) := by
  simp only [lastSetting?, List.filterMap_append, List.getLast?_append]
  cases h : a.setting? service <;> simp [h]

/-- **The list of a service after a run** is what the changes announced since it was last set make of that
list, or of the first one if it was not set. The induction takes off the last operation: if it sets the list
nothing has been announced since, and otherwise what it announces comes after all that was announced since. -/
theorem list_runAll (h : ∀ service, ((d.list service).map Instance.id).Nodup)
    {actions : List DiscoveryAction} (hactions : ∀ a ∈ actions, a.Distinct) (service : String) :
    (runAll d actions).list service =
      ServiceChange.replay service ((lastSetting? service actions).getD (d.list service))
        (ServiceChange.since service (announcedAll d actions)) := by
  induction actions using List.reverseRecOn with
  | nil => rfl
  | append_singleton actions a ih =>
      have hbefore : ∀ a' ∈ actions, a'.Distinct := fun a' ha' => hactions a' (List.mem_append_left _ ha')
      have hlist := ih hbefore
      have hnodup := nodup_runAll h hbefore service
      have hone : announcedAll (runAll d actions) [a] = (a.announced? (runAll d actions)).toList :=
        List.append_nil _
      rw [runAll_append, lastSetting?_snoc, announcedAll_append, hone]
      show (run (runAll d actions) a).list service = _
      rw [list_run hnodup]
      cases hannounced : a.announced? (runAll d actions) with
      | none =>
          rw [setting?_of_announced? hannounced, Option.toList_none, List.append_nil, Option.none_or,
            ← hlist]
          rfl
      | some c =>
          have hreplaces := replaces_of_announced? hannounced service
          rw [Option.toList_some, ServiceChange.since_snoc, hreplaces]
          cases a.setting? service with
          | some records => rfl
          | none =>
              show ServiceChange.followed service _ c = ServiceChange.replay service _ (_ ++ [c])
              rw [ServiceChange.replay_snoc, Option.none_or, ← hlist]

/-- The lists of services can always be had, as no operation makes one fail. -/
theorem failing_runAll (d : Discovery) (actions : List DiscoveryAction) :
    (runAll d actions).failing = d.failing := by
  induction actions generalizing d with
  | nil => rfl
  | cons a rest ih =>
      have hfirst : (run d a).failing = d.failing := by
        cases a with
        | remove service id => exact d.failing_remove service id
        | _ => rfl
      exact (ih (run d a)).trans hfirst

end DiscoveryAction

open DiscoveryAction

/-! ### Readers -/

namespace Discovery

/-- What a reader gets that joins and then reads after each of some parts of a run. -/
def heard (d : Discovery) (parts : List (List DiscoveryAction)) : List (Batch ServiceChange) :=
  Channel.heard runAll changes d d.changes.subscribe parts

/-- A reader that loses nothing gets all that is announced after it has joined. -/
theorem items_heard {d : Discovery} {parts : List (List DiscoveryAction)}
    (hkept : ∀ batch ∈ d.heard parts, batch.lost = 0) :
    (d.heard parts).flatMap Batch.items = announcedAll d parts.flatten := by
  have hgrows : ∀ (d : Discovery) (part : List DiscoveryAction),
      d.changes.sent <:+ (runAll d part).changes.sent := by
    intro d part
    rw [sent_runAll]
    exact List.suffix_append _ _
  have hall : parts.foldl runAll d = runAll d parts.flatten := List.foldl_flatten.symm
  show (Channel.heard _ _ _ _ _).flatMap _ = _
  rw [Channel.items_heard _ _ hgrows hkept, hall, Channel.unread_of_sent (sent_runAll d _),
    List.reverse_reverse]

/-! ### The main statement -/

/-- **The service list is ordered and keyed, and what it announces reproduces it.** After any run in which
every list that is set has distinct ids, the ids of every list are distinct. An instance that is added comes to
the end of the list of its service, or takes the place of the one with its id; removing keeps the order of the
others; the list that is set is there; and no operation changes the list of another service than its own. An
answer to a removal says whether the id was listed, and nothing is announced otherwise; each other operation
announces one change. For whoever joins at some point of the run, reads now and then and loses nothing, the list
of a service is what the changes read since it was last replaced make of what it was replaced with, or of the
list at the time of joining if it was not replaced since. -/
theorem list_replays (actions : List DiscoveryAction) (hactions : ∀ a ∈ actions, a.Distinct) :
    let d := runAll .empty actions
    (∀ service, d.lookUp service = .ok (d.list service) ∧ ((d.list service).map Instance.id).Nodup) ∧
    (∀ record, (d.add record).list record.service = entered record (d.list record.service)) ∧
    (∀ service id, (d.remove service id).2.list service = (d.list service).filter (·.id ≠ id)) ∧
    (∀ service records, (d.replace service records).list service = records) ∧
    (∀ (a : DiscoveryAction) service, a.service ≠ service → (run d a).list service = d.list service) ∧
    (∀ service id,
      ((d.remove service id).1 = true ↔ id ∈ (d.list service).map Instance.id) ∧
      (d.remove service id).2.changes =
        if (d.remove service id).1 then d.changes.send (.deregistered service id) else d.changes) ∧
    (∀ a : DiscoveryAction, (run d a).changes.sent = (a.announced? d).toList ++ d.changes.sent) ∧
    ∀ before parts, actions = before ++ parts.flatten →
      let joined := runAll .empty before
      (∀ batch ∈ joined.heard parts, batch.lost = 0) → ∀ service,
        d.list service =
          ServiceChange.replay service
            ((lastSetting? service parts.flatten).getD (joined.list service))
            (ServiceChange.since service ((joined.heard parts).flatMap Batch.items)) := by
  intro d
  have hempty : ∀ service, ((empty.list service).map Instance.id).Nodup := fun _ => List.nodup_nil
  have hnodup := nodup_runAll hempty hactions
  refine ⟨?_, ?_, ?_, ?_, ?_, ?_, ?_, ?_⟩
  · intro service
    have hfailing : d.failing = [] := failing_runAll empty actions
    exact ⟨by rw [lookUp, hfailing, if_neg List.not_mem_nil], hnodup service⟩
  · intro record
    rw [list_add, if_pos rfl, place_eq_entered record (hnodup _)]
  · intro service id
    rw [list_remove, if_pos rfl]
  · intro service records
    rw [list_replace, if_pos rfl]
  · intro a service hservice
    exact list_run_of_ne d hservice
  · intro service id
    obtain ⟨hanswer, hchanges⟩ := d.remove_answer service id
    exact ⟨by rw [hanswer, decide_eq_true_eq], hchanges⟩
  · intro a
    rw [changes_run]
  · intro before parts hsplit joined hkept service
    have hbefore : ∀ a ∈ before, a.Distinct := by
      intro a ha
      apply hactions
      rw [hsplit]
      exact List.mem_append_left _ ha
    have hparts : ∀ a ∈ parts.flatten, a.Distinct := by
      intro a ha
      apply hactions
      rw [hsplit]
      exact List.mem_append_right _ ha
    have hd : d = runAll joined parts.flatten := by
      show runAll .empty actions = _
      rw [hsplit, runAll_append]
    rw [hd, items_heard hkept]
    exact list_runAll (nodup_runAll hempty hbefore) hparts service

/-- Somebody joins after the first instance was added. The list is replaced, with an instance that names another
service; an instance takes the place of one of them, another one is removed, and one that is not there is not;
instances of another service come in between. -/
theorem list_replays_watched :
    let a := Instance.plain "a" "s" "10.0.0.1" 80
    let b := Instance.plain "b" "t" "10.0.0.2" 80
    let c := Instance.plain "c" "s" "10.0.0.3" 80
    let x := Instance.plain "b" "t" "10.0.0.4" 80
    let b' := Instance.plain "b" "s" "10.0.0.5" 80
    let before : List DiscoveryAction := [.add a]
    let parts : List (List DiscoveryAction) :=
      [[.add c, .replace "s" [a, b, c]], [.add b', .add x, .remove "s" "z", .remove "s" "a"]]
    let actions := before ++ parts.flatten
    let d := runAll .empty actions
    let received := ((runAll .empty before).heard parts).flatMap Batch.items
    (∀ action ∈ actions, action.Distinct) ∧
      (∀ batch ∈ (runAll .empty before).heard parts, batch.lost = 0) ∧
      received = [.registered c, .replaced "s" 3, .registered b', .registered x, .deregistered "s" "a"] ∧
      d.list "s" = ServiceChange.replay "s" [a, b, c] (ServiceChange.since "s" received) ∧
      d.list "s" = [b', c] ∧ d.list "t" = [x] ∧
      (d.add a).list "s" = [b', c, a] := by
  intro a b c x b' before parts actions d received
  have hactions : ∀ action ∈ actions, action.Distinct := by decide
  have hkept : ∀ batch ∈ (runAll .empty before).heard parts, batch.lost = 0 := by decide
  obtain ⟨-, hadd, -, -, -, -, -, hreplay⟩ := list_replays actions hactions
  have hlist : d.list "s" = ServiceChange.replay "s" [a, b, c] (ServiceChange.since "s" received) :=
    hreplay before parts rfl hkept "s"
  refine ⟨hactions, hkept, by decide, hlist, by decide, by decide, ?_⟩
  exact (hadd a).trans (by decide)

end Discovery

end LoadBalancer

import Mathlib
import LoadBalancer.Registry.Action

/-!
# What the operations of the registry do

One law per operation for what is known about an instance, from which follows what becomes of its
open connections, and one for the lists of services. Nothing later looks into the operations again.

* `known?_observeOne`, `known?_ensure`, `known?_connect`, `known?_disconnect`, `known?_mark`,
  `known?_evict` – what is known about an instance afterwards;
* `read_observe`, `read_mark`, `read_disconnect`, `read_evict` – the parts of an entry that an operation
  leaves alone;
* `connections_connect`, `connections_disconnect` – the only operations that change a number of open
  connections;
* `answer_connect`, `answer_disconnect`, `evict_iff` – what the operations answer;
* `membersOf_observe`, `membersOf_evict` – the list of ids of a service.
-/

namespace LoadBalancer

/-- What is known about an instance that is seen under a service. -/
def Entry.refresh (service : String) (record : Instance) : Option Entry → Entry
  | some e => { e with record }
  | none => Entry.fresh service record

namespace Registry

/-! ### What is known -/

theorem known?_addMember (r : Registry) (service id x : String) :
    (r.addMember service id).known? x = r.known? x := rfl

theorem known?_removeMember (r : Registry) (service id x : String) :
    (r.removeMember service id).known? x = r.known? x := by
  unfold removeMember
  split <;> rfl

theorem known?_put (r : Registry) (id : String) (e : Entry) (members : Table String (List String))
    (changes : Channel HealthChange) (x : String) :
    known? ⟨r.entries.put id e, members, changes⟩ x = if id = x then some e else r.known? x :=
  Table.get?_put r.entries id x e

theorem known?_erase (r : Registry) (id : String) (members : Table String (List String))
    (changes : Channel HealthChange) (x : String) :
    known? ⟨r.entries.erase id, members, changes⟩ x = if id = x then none else r.known? x :=
  Table.get?_erase r.entries id x

theorem known?_observeOne (r : Registry) (service : String) (record : Instance) (x : String) :
    (observeOne service r record).known? x =
      if record.id = x then some (Entry.refresh service record (r.known? x)) else r.known? x := by
  by_cases h : record.id = x
  · subst h
    simp only [observeOne, known?_addMember, known?_put, if_true]
    cases r.known? record.id <;> rfl
  · rw [known?_observeOne_of_ne r service h, if_neg h]

theorem known?_ensure (r : Registry) (record : Instance) (x : String) :
    (r.ensure record).known? x =
      if record.id = x then some ((r.known? x).getD (Entry.fresh record.service record))
      else r.known? x := by
  unfold ensure
  split
  · rename_i e he
    by_cases h : record.id = x
    · subst h
      simp [he]
    · rw [if_neg h]
  · rename_i he
    rw [known?_observeOne]
    by_cases h : record.id = x
    · subst h
      simp [he, Entry.refresh]
    · rw [if_neg h, if_neg h]

theorem registry_statusOf (r : Registry) (record : Instance) :
    (r.statusOf record).2 = r.ensure record := by
  simp only [statusOf]
  split <;> rfl

/-- The entry that a connection is counted in. -/
theorem known?_ensure_self (r : Registry) (record : Instance) :
    (r.ensure record).known? record.id =
      some ((r.known? record.id).getD (Entry.fresh record.service record)) := by
  rw [known?_ensure, if_pos rfl]

theorem known?_connect (r : Registry) (record : Instance) (x : String) :
    (r.connect record).2.known? x =
      if record.id = x then
        let e := (r.known? x).getD (Entry.fresh record.service record)
        some { e with connections := e.connections + 1, total := e.total + 1 }
      else r.known? x := by
  have hself := known?_ensure_self r record
  simp only [connect, hself, known?_put]
  by_cases h : record.id = x
  · subst h
    simp only [if_true]
  · rw [if_neg h, if_neg h, known?_ensure, if_neg h]

theorem known?_disconnect (r : Registry) (id x : String) :
    (r.disconnect id).2.known? x =
      if id = x then (r.known? x).map fun e => { e with connections := e.connections - 1 }
      else r.known? x := by
  by_cases h : id = x
  · subst h
    rw [if_pos rfl]
    unfold disconnect
    split
    · rename_i e he
      split
      · rename_i hzero
        simp only [he, Option.map_some, hzero, Nat.zero_sub]
        rw [← hzero]
      · simp only [known?_put, if_true, he, Option.map_some]
    · rename_i he
      rw [he]
      rfl
  · rw [if_neg h]
    unfold disconnect
    split
    · split
      · rfl
      · simp only [known?_put, if_neg h]
    · rfl

theorem known?_mark (r : Registry) (id : String) (health : Health) (x : String) :
    (r.mark id health).2.known? x =
      if id = x then (r.known? x).map fun e => { e with health } else r.known? x := by
  by_cases h : id = x
  · subst h
    rw [if_pos rfl]
    unfold mark
    split
    · rename_i e he
      simp only [known?_put, if_true, he, Option.map_some]
    · rename_i he
      rw [he]
      rfl
  · rw [if_neg h]
    unfold mark
    split
    · simp only [known?_put, if_neg h]
    · rfl

theorem connections_of_known? {r : Registry} {id : String} {e : Entry} (h : r.known? id = some e) :
    r.connections id = e.connections := by
  simp only [connections, h]

theorem connections_of_unknown {r : Registry} {id : String} (h : r.known? id = none) :
    r.connections id = 0 := by
  simp only [connections, h]

theorem known?_evict (r : Registry) (id x : String) :
    (r.evict id).2.known? x = if id = x ∧ r.connections id = 0 then none else r.known? x := by
  unfold evict
  split
  · rename_i e he
    rw [connections_of_known? he]
    by_cases hzero : e.connections = 0
    · simp only [hzero, if_true, known?_removeMember, and_true, known?_erase]
    · simp only [hzero, if_false, and_false]
  · rename_i he
    by_cases h : id = x
    · subst h
      simp [he]
    · simp [h]

/-! ### Parts of an entry

A part of what is known about an instance, which does not hang on its record, with the value that it
has before the instance is known. -/

/-- A part of what is known about an instance; `d` while it is unknown. -/
def read {α : Type} (r : Registry) (f : Entry → α) (d : α) (id : String) : α :=
  match r.known? id with
  | some e => f e
  | none => d

/-- The part has the value `d` in a fresh entry, and no new record changes it. -/
structure Steady {α : Type} (f : Entry → α) (d : α) : Prop where
  fresh : ∀ service record, f (Entry.fresh service record) = d
  record : ∀ (e : Entry) (record : Instance), f { e with record } = f e

theorem steady_connections : Steady Entry.connections 0 := ⟨fun _ _ => rfl, fun _ _ => rfl⟩

theorem steady_total : Steady Entry.total 0 := ⟨fun _ _ => rfl, fun _ _ => rfl⟩

theorem steady_health : Steady Entry.health .unknown := ⟨fun _ _ => rfl, fun _ _ => rfl⟩

theorem connections_eq_read (r : Registry) (id : String) :
    r.connections id = r.read Entry.connections 0 id := rfl

section Parts

variable {α : Type} {f : Entry → α} {d : α}

theorem read_of_known? {r : Registry} {id : String} {e : Entry} (h : r.known? id = some e) :
    r.read f d id = f e := by
  simp only [read, h]

theorem read_of_unknown {r : Registry} {id : String} (h : r.known? id = none) :
    r.read f d id = d := by
  simp only [read, h]

theorem read_congr {r r' : Registry} {id : String} (h : r'.known? id = r.known? id) :
    r'.read f d id = r.read f d id := by
  simp only [read, h]

/-- What is done to the entry of an instance is done to a part of it. -/
theorem read_map {r r' : Registry} {id : String} {g : Entry → Entry}
    (h : r'.known? id = (r.known? id).map g) (hg : ∀ e, f (g e) = f e) :
    r'.read f d id = r.read f d id := by
  unfold read
  rw [h]
  cases r.known? id with
  | none => rfl
  | some e => exact hg e

theorem read_observeOne (hf : Steady f d) (r : Registry) (service : String) (record : Instance)
    (x : String) : (observeOne service r record).read f d x = r.read f d x := by
  have hk := known?_observeOne r service record x
  by_cases h : record.id = x
  · rw [if_pos h] at hk
    rw [read_of_known? hk]
    cases he : r.known? x with
    | none =>
        rw [read_of_unknown he]
        exact hf.fresh service record
    | some e =>
        rw [read_of_known? he]
        exact hf.record e record
  · rw [if_neg h] at hk
    exact read_congr hk

theorem read_observe (hf : Steady f d) (r : Registry) (service : String) (records : List Instance)
    (x : String) : (r.observe service records).read f d x = r.read f d x := by
  unfold observe
  induction records generalizing r with
  | nil => rfl
  | cons record rest ih => rw [List.foldl_cons, ih, read_observeOne hf]

theorem read_ensure (hf : Steady f d) (r : Registry) (record : Instance) (x : String) :
    (r.ensure record).read f d x = r.read f d x := by
  unfold ensure
  split
  · rfl
  · exact read_observeOne hf r record.service record x

theorem read_statusOf (hf : Steady f d) (r : Registry) (record : Instance) (x : String) :
    (r.statusOf record).2.read f d x = r.read f d x := by
  rw [registry_statusOf, read_ensure hf]

theorem read_mark (hf : ∀ (e : Entry) (health : Health), f { e with health } = f e) (r : Registry)
    (id : String) (health : Health) (x : String) :
    (r.mark id health).2.read f d x = r.read f d x := by
  have hk := known?_mark r id health x
  by_cases h : id = x
  · rw [if_pos h] at hk
    exact read_map hk (fun e => hf e health)
  · rw [if_neg h] at hk
    exact read_congr hk

theorem read_disconnect (hf : ∀ (e : Entry) (n : Nat), f { e with connections := n } = f e)
    (r : Registry) (id x : String) : (r.disconnect id).2.read f d x = r.read f d x := by
  have hk := known?_disconnect r id x
  by_cases h : id = x
  · rw [if_pos h] at hk
    exact read_map hk (fun e => hf e _)
  · rw [if_neg h] at hk
    exact read_congr hk

theorem read_evict (r : Registry) (id x : String) :
    (r.evict id).2.read f d x =
      if id = x ∧ r.connections id = 0 then d else r.read f d x := by
  have hk := known?_evict r id x
  split at hk
  · rename_i h
    rw [if_pos h, read_of_unknown hk]
  · rename_i h
    rw [if_neg h, read_congr hk]

end Parts

/-! ### Open connections -/

@[simp] theorem connections_observe (r : Registry) (service : String) (records : List Instance)
    (x : String) : (r.observe service records).connections x = r.connections x :=
  read_observe steady_connections r service records x

@[simp] theorem connections_ensure (r : Registry) (record : Instance) (x : String) :
    (r.ensure record).connections x = r.connections x :=
  read_ensure steady_connections r record x

@[simp] theorem connections_statusOf (r : Registry) (record : Instance) (x : String) :
    (r.statusOf record).2.connections x = r.connections x :=
  read_statusOf steady_connections r record x

@[simp] theorem connections_mark (r : Registry) (id : String) (health : Health) (x : String) :
    (r.mark id health).2.connections x = r.connections x :=
  read_mark (fun _ _ => rfl) r id health x

/-- Only an instance without open connections is forgotten. -/
@[simp] theorem connections_evict (r : Registry) (id x : String) :
    (r.evict id).2.connections x = r.connections x := by
  rw [connections_eq_read, read_evict]
  split
  · rename_i h
    rw [← h.1, h.2]
  · rfl

theorem connections_connect (r : Registry) (record : Instance) (x : String) :
    (r.connect record).2.connections x =
      r.connections x + if record.id = x then 1 else 0 := by
  have hk := known?_connect r record x
  by_cases h : record.id = x
  · rw [if_pos h] at hk
    rw [connections_of_known? hk, if_pos h]
    unfold connections
    cases r.known? x <;> rfl
  · rw [if_neg h] at hk
    rw [if_neg h, Nat.add_zero]
    exact read_congr hk

theorem connections_disconnect (r : Registry) (id x : String) :
    (r.disconnect id).2.connections x = r.connections x - if id = x then 1 else 0 := by
  have hk := known?_disconnect r id x
  by_cases h : id = x
  · rw [if_pos h] at hk
    rw [if_pos h]
    cases he : r.known? x with
    | none =>
        rw [he] at hk
        rw [connections_of_unknown hk, connections_of_unknown he]
    | some e =>
        rw [he] at hk
        rw [connections_of_known? hk, connections_of_known? he]
  · rw [if_neg h] at hk
    rw [if_neg h, Nat.sub_zero]
    exact read_congr hk

/-! ### Answers -/

/-- Opening a connection answers the number of open ones, itself included. -/
theorem answer_connect (r : Registry) (record : Instance) :
    (r.connect record).1 = r.connections record.id + 1 := by
  have hself := known?_ensure_self r record
  have hconn := connections_ensure r record record.id
  rw [connections_of_known? hself] at hconn
  simp only [connect, hself]
  rw [hconn]

/-- Closing a connection answers the number of those that are still open, if there was one. -/
theorem answer_disconnect (r : Registry) (id : String) :
    (r.disconnect id).1 =
      if r.connections id = 0 then none else some (r.connections id - 1) := by
  unfold disconnect
  split
  · rename_i e he
    rw [connections_of_known? he]
    split <;> rfl
  · rename_i he
    rw [connections_of_unknown he]
    rfl

/-- An instance is forgotten exactly if it is known and has no open connection. -/
theorem evict_iff (r : Registry) (id : String) :
    (r.evict id).1 = true ↔ r.known? id ≠ none ∧ r.connections id = 0 := by
  unfold evict
  split
  · rename_i e he
    rw [connections_of_known? he, he]
    by_cases hzero : e.connections = 0 <;> simp [hzero]
  · rename_i he
    simp [he]

/-! ### Lists of services -/

theorem membersOf_addMember (r : Registry) (service id other : String) :
    (r.addMember service id).membersOf other =
      if service = other then
        if id ∈ r.membersOf other then r.membersOf other else r.membersOf other ++ [id]
      else r.membersOf other := by
  by_cases h : service = other
  · subst h
    simp [addMember, membersOf, Table.get?_put]
  · simp [addMember, membersOf, Table.get?_put, h]

/-- An instance that is seen under a service comes to the end of the list of that service, unless it is
there. -/
theorem membersOf_observeOne (r : Registry) (service : String) (record : Instance)
    (other : String) :
    (observeOne service r record).membersOf other =
      if service = other ∧ record.id ∉ r.membersOf other then r.membersOf other ++ [record.id]
      else r.membersOf other := by
  unfold observeOne
  rw [membersOf_addMember]
  change (if service = other then
    if record.id ∈ r.membersOf other then r.membersOf other else r.membersOf other ++ [record.id]
    else r.membersOf other) = _
  by_cases h : service = other
  · by_cases hmem : record.id ∈ r.membersOf other <;> simp [h, hmem]
  · simp [h]

theorem mem_membersOf_observeOne (r : Registry) (service : String) (record : Instance)
    (other x : String) :
    x ∈ (observeOne service r record).membersOf other ↔
      x ∈ r.membersOf other ∨ service = other ∧ x = record.id := by
  rw [membersOf_observeOne]
  split
  · rename_i h
    simp [h.1]
  · rename_i h
    constructor
    · exact Or.inl
    · rintro (hx | ⟨hservice, rfl⟩)
      · exact hx
      · by_contra hmem
        exact h ⟨hservice, hmem⟩

theorem mem_membersOf_observe (r : Registry) (service : String) (records : List Instance)
    (other x : String) :
    x ∈ (r.observe service records).membersOf other ↔
      x ∈ r.membersOf other ∨ service = other ∧ x ∈ records.map Instance.id := by
  unfold observe
  induction records generalizing r with
  | nil => simp
  | cons record rest ih =>
      rw [List.foldl_cons, ih, mem_membersOf_observeOne, List.map_cons, List.mem_cons]
      tauto

/-- The instances that are seen under a service and are not in its list yet come to its end. -/
theorem membersOf_observe (r : Registry) (service : String) (records : List Instance)
    (other : String) :
    ∃ added : List String,
      (r.observe service records).membersOf other = r.membersOf other ++ added ∧
      added.Nodup ∧ ∀ z ∈ added, z ∉ r.membersOf other := by
  unfold observe
  induction records generalizing r with
  | nil => exact ⟨[], by simp⟩
  | cons record rest ih =>
      obtain ⟨added, hlist, hnodup, hnew⟩ := ih (observeOne service r record)
      rw [membersOf_observeOne] at hlist hnew
      split at hlist
      · rename_i h
        refine ⟨record.id :: added, ?_, ?_, ?_⟩
        · rw [List.foldl_cons, hlist, List.append_assoc, List.singleton_append]
        · refine List.nodup_cons.mpr ⟨?_, hnodup⟩
          intro hmem
          have hout := hnew _ hmem
          rw [if_pos h] at hout
          simp at hout
        · intro z hz hold
          rcases List.mem_cons.mp hz with rfl | hz
          · exact h.2 hold
          · have hout := hnew z hz
            rw [if_pos h] at hout
            exact hout (List.mem_append_left _ hold)
      · rename_i h
        rw [if_neg h] at hnew
        exact ⟨added, hlist, hnodup, hnew⟩

theorem members_connect (r : Registry) (record : Instance) :
    (r.connect record).2.members = (r.ensure record).members := by
  simp only [connect, known?_ensure_self]

theorem members_disconnect (r : Registry) (id : String) :
    (r.disconnect id).2.members = r.members := by
  unfold disconnect
  split
  · split <;> rfl
  · rfl

theorem members_mark (r : Registry) (id : String) (health : Health) :
    (r.mark id health).2.members = r.members := by
  unfold mark
  split <;> rfl

/-- What has the same table of lists has the same lists. -/
theorem membersOf_congr {r r' : Registry} (h : r'.members = r.members) (service : String) :
    r'.membersOf service = r.membersOf service := by
  simp only [membersOf, h]

/-- An instance that has to become known is seen under its own service. -/
theorem ensure_eq (r : Registry) (record : Instance) :
    r.ensure record = r.observe record.service (if r.known? record.id = none then [record] else []) := by
  unfold ensure
  split
  · rename_i e he
    rw [he, if_neg (Option.some_ne_none e)]
    rfl
  · rename_i he
    rw [if_pos he]
    rfl

/-- The service under which an instance became known. -/
def home? (r : Registry) (id : String) : Option String := (r.known? id).map Entry.service

/-- A list of ids that is put down for a service; an empty one is not kept. -/
theorem getD_get?_prune (t : Table String (List String)) (service other : String)
    (ids : List String) :
    ((if ids.isEmpty then t.erase service else t.put service ids).get? other).getD [] =
      if service = other then ids else (t.get? other).getD [] := by
  cases ids with
  | nil =>
      simp only [List.isEmpty_nil, if_true, Table.get?_erase]
      split <;> rfl
  | cons id rest =>
      simp only [List.isEmpty_cons, Bool.false_eq_true, if_false, Table.get?_put]
      split <;> rfl

theorem membersOf_removeMember (r : Registry) (service id other : String) :
    (r.removeMember service id).membersOf other =
      if service = other then (r.membersOf other).filter (· ≠ id) else r.membersOf other := by
  unfold removeMember membersOf
  split
  · rename_i ids hids
    rw [getD_get?_prune]
    by_cases h : service = other
    · rw [if_pos h, if_pos h, ← h, hids, Option.getD_some]
    · rw [if_neg h, if_neg h]
  · rename_i hnone
    by_cases h : service = other
    · rw [if_pos h, ← h, hnone]
      rfl
    · rw [if_neg h]

/-- An instance that is forgotten is taken out of one list only: that of the service under which it
became known. -/
theorem membersOf_evict (r : Registry) (id service : String) :
    (r.evict id).2.membersOf service =
      if (r.evict id).1 = true ∧ r.home? id = some service then
        (r.membersOf service).filter (· ≠ id)
      else r.membersOf service := by
  unfold evict home?
  split
  · rename_i e he
    split
    · rw [membersOf_removeMember, he]
      simp only [Option.map_some, Option.some.injEq, true_and]
      rfl
    · simp
  · simp

/-- Forgetting an instance takes no other id out of a list. -/
theorem mem_membersOf_evict {r : Registry} {id x : String} (h : id ≠ x) (service : String) :
    x ∈ (r.evict id).2.membersOf service ↔ x ∈ r.membersOf service := by
  have hx : x ≠ id := fun hxi => h hxi.symm
  rw [membersOf_evict]
  split
  · simp [List.mem_filter, hx]
  · rfl

end Registry

end LoadBalancer

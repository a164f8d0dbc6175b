/-!
# Tables

Finite maps that keep their keys in the order in which they came.

* `Table` – entries with a key each, no key twice;
* `Table.get?`, `Table.put`, `Table.erase` – a value, replaced in place or added at the end, and
  taken out.

`get?_put` and `get?_erase` say what each operation does to the values, `keys_put` and `keys_erase`
what it does to the keys.
-/

namespace LoadBalancer

/-- Entries in the order in which their keys came. -/
structure Table (κ α : Type) where
  entries : List (κ × α)
  nodup : (entries.map Prod.fst).Nodup

namespace Table

variable {κ α : Type}

/-- No entry. -/
def empty : Table κ α := ⟨[], List.nodup_nil⟩

instance : Inhabited (Table κ α) := ⟨empty⟩

/-- The keys in order. -/
def keys (t : Table κ α) : List κ := t.entries.map Prod.fst

/-- The values in the order of their keys. -/
def values (t : Table κ α) : List α := t.entries.map Prod.snd

/-- The number of entries. -/
def size (t : Table κ α) : Nat := t.entries.length

variable [DecidableEq κ]

/-- The value of a key among some entries. -/
def find (k : κ) : List (κ × α) → Option α
  | [] => none
  | e :: rest => if e.1 = k then some e.2 else find k rest

/-- Entries with the value of a key put in its place, or at the end. -/
def putEntry (k : κ) (a : α) : List (κ × α) → List (κ × α)
  | [] => [(k, a)]
  | e :: rest => if e.1 = k then (k, a) :: rest else e :: putEntry k a rest

theorem keys_putEntry (k : κ) (a : α) (es : List (κ × α)) :
    (putEntry k a es).map Prod.fst =
      if k ∈ es.map Prod.fst then es.map Prod.fst else es.map Prod.fst ++ [k] := by
  induction es with
  | nil => rfl
  | cons e rest ih =>
    by_cases h : e.1 = k
    · simp [putEntry, h]
    · have h' : ¬k = e.1 := fun he => h he.symm
      by_cases hk : k ∈ rest.map Prod.fst
      · simp only [putEntry, h, if_false, List.map_cons, ih, List.mem_cons, hk, or_true,
          if_true]
      · simp only [putEntry, h, if_false, List.map_cons, ih, List.mem_cons, h', hk, or_self,
          List.cons_append]

theorem nodup_putEntry (k : κ) (a : α) {es : List (κ × α)} (h : (es.map Prod.fst).Nodup) :
    ((putEntry k a es).map Prod.fst).Nodup := by
  rw [keys_putEntry]
  split
  · exact h
  · rename_i hk
    exact List.nodup_append.2 ⟨h, by simp, fun x hx y hy => by
      rw [List.mem_singleton.1 hy]
      exact fun he => hk (he ▸ hx)⟩

/-- The value of a key. -/
def get? (t : Table κ α) (k : κ) : Option α := find k t.entries

/-- There is a value of the key. -/
def contains (t : Table κ α) (k : κ) : Bool := (t.get? k).isSome

/-- The table with the value of a key replaced in place, or added at the end. -/
def put (t : Table κ α) (k : κ) (a : α) : Table κ α :=
  ⟨putEntry k a t.entries, nodup_putEntry k a t.nodup⟩

/-- The table without a key. -/
def erase (t : Table κ α) (k : κ) : Table κ α :=
  ⟨t.entries.filter fun e => e.1 ≠ k, t.nodup.sublist (List.filter_sublist.map _)⟩

/-! ### Laws -/

omit [DecidableEq κ] in
@[simp] theorem keys_empty : (empty : Table κ α).keys = [] := rfl

@[simp] theorem get?_empty (k : κ) : (empty : Table κ α).get? k = none := rfl

theorem find_putEntry (k k' : κ) (a : α) (es : List (κ × α)) :
    find k' (putEntry k a es) = if k = k' then some a else find k' es := by
  induction es with
  | nil => rfl
  | cons e rest ih =>
    by_cases h : e.1 = k
    · subst h
      by_cases hk : e.1 = k' <;> simp [putEntry, find, hk]
    · simp only [putEntry, h, if_false, find, ih]
      by_cases hk : k = k'
      · subst hk
        simp [h]
      · simp [hk]

theorem get?_put (t : Table κ α) (k k' : κ) (a : α) :
    (t.put k a).get? k' = if k = k' then some a else t.get? k' :=
  find_putEntry k k' a t.entries

theorem keys_put (t : Table κ α) (k : κ) (a : α) :
    (t.put k a).keys = if k ∈ t.keys then t.keys else t.keys ++ [k] :=
  keys_putEntry k a t.entries

theorem find_filter_ne (k k' : κ) (es : List (κ × α)) :
    find k' (es.filter fun e => e.1 ≠ k) = if k = k' then none else find k' es := by
  induction es with
  | nil => simp [find]
  | cons e rest ih =>
    by_cases h : e.1 = k
    · by_cases hk : k = k'
      · simpa [h, hk] using ih
      · have he : ¬e.1 = k' := h ▸ hk
        simpa [h, hk, find, he] using ih
    · by_cases hk : k = k'
      · have he : ¬e.1 = k' := hk ▸ h
        simpa [h, hk, find, he] using ih
      · simpa [h, hk, find] using congrArg (fun o => if e.1 = k' then some e.2 else o) ih

theorem get?_erase (t : Table κ α) (k k' : κ) :
    (t.erase k).get? k' = if k = k' then none else t.get? k' :=
  find_filter_ne k k' t.entries

theorem keys_erase (t : Table κ α) (k : κ) : (t.erase k).keys = t.keys.filter fun x => x ≠ k := by
  simp only [keys, erase, List.filter_map]
  rfl

theorem find_isSome_iff (k : κ) (es : List (κ × α)) :
    (find k es).isSome = true ↔ k ∈ es.map Prod.fst := by
  induction es with
  | nil => simp [find]
  | cons e rest ih =>
    by_cases h : e.1 = k
    · simp [find, h]
    · have h' : ¬k = e.1 := fun he => h he.symm
      simpa [find, h, h'] using ih

/-- The keys are those that have a value. -/
theorem contains_iff (t : Table κ α) (k : κ) : t.contains k = true ↔ k ∈ t.keys :=
  find_isSome_iff k t.entries

end Table

end LoadBalancer

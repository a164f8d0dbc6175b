import LoadBalancer.Table

/-!
# Labels

Finite maps from names to texts, as instances, settings and measurements carry them.

* `Labels` – entries sorted by name, every name once, so that equal maps are equal values;
* `Labels.set`, `Labels.get?`, `Labels.ofList` – the later of two values for one name counts;
* `Labels.includes` – every entry of another map is there.
-/

namespace LoadBalancer

/-- Names with one text each, in the order of the names. -/
structure Labels where
  entries : List (String × String)
  sorted : entries.Pairwise fun a b => a.1 < b.1
  deriving DecidableEq, Repr

namespace Labels

/-- No entry. -/
def empty : Labels := ⟨[], .nil⟩

instance : Inhabited Labels := ⟨empty⟩

/-- Entries with the text of one name set. -/
def setEntry (name text : String) : List (String × String) → List (String × String)
  | [] => [(name, text)]
  | e :: rest =>
    if name < e.1 then (name, text) :: e :: rest
    else if name = e.1 then (name, text) :: rest
    else e :: setEntry name text rest

theorem lt_of_not_lt_of_ne {a b : String} (h : ¬a < b) (hne : a ≠ b) : b < a := by
  rcases String.le_total a b with hab | hab
  · exact absurd (String.le_antisymm hab (String.not_lt.1 h)) hne
  · exact String.not_le.1 fun h' => hne (String.le_antisymm h' hab)

/-- Every name after setting was there before, or is the one that is set. -/
theorem mem_setEntry {name text : String} {es : List (String × String)} {p : String × String}
    (h : p ∈ setEntry name text es) : p = (name, text) ∨ p ∈ es := by
  induction es with
  | nil => simpa [setEntry] using h
  | cons e rest ih =>
    simp only [setEntry] at h
    split at h
    · simpa using h
    · split at h
      · rcases List.mem_cons.1 h with h | h
        · exact .inl h
        · exact .inr (List.mem_cons_of_mem _ h)
      · rcases List.mem_cons.1 h with h | h
        · exact .inr (h ▸ List.mem_cons_self)
        · exact (ih h).imp_right (List.mem_cons_of_mem _)

theorem setEntry_sorted (name text : String) {es : List (String × String)}
    (h : es.Pairwise fun a b => a.1 < b.1) :
    (setEntry name text es).Pairwise fun a b => a.1 < b.1 := by
  induction es with
  | nil => exact List.pairwise_singleton _ _
  | cons e rest ih =>
    obtain ⟨he, hrest⟩ := List.pairwise_cons.1 h
    simp only [setEntry]
    split
    · rename_i hlt
      refine List.pairwise_cons.2 ⟨fun p hp => ?_, h⟩
      rcases List.mem_cons.1 hp with rfl | hp
      · exact hlt
      · exact String.lt_trans hlt (he p hp)
    · rename_i hlt
      split
      · rename_i heq
        exact List.pairwise_cons.2 ⟨fun p hp => heq ▸ he p hp, hrest⟩
      · rename_i hne
        refine List.pairwise_cons.2 ⟨fun p hp => ?_, ih hrest⟩
        rcases mem_setEntry hp with rfl | hp
        · exact lt_of_not_lt_of_ne hlt hne
        · exact he p hp

/-- The map with the text of one name set. -/
def set (l : Labels) (name text : String) : Labels :=
  ⟨setEntry name text l.entries, setEntry_sorted name text l.sorted⟩

/-- The map of a list of entries; the last text of a name counts. -/
def ofList (es : List (String × String)) : Labels :=
  es.foldl (fun l e => l.set e.1 e.2) empty

/-- The text of a name. -/
def get? (l : Labels) (name : String) : Option String :=
  Table.find name l.entries

/-- Some entry has a property. -/
def any (l : Labels) (p : String → String → Bool) : Bool :=
  l.entries.any fun e => p e.1 e.2

/-- Every entry of another map is there. -/
def includes (l filter : Labels) : Bool :=
  filter.entries.all fun e => l.get? e.1 == some e.2

/-! ### Laws -/

theorem find_setEntry (name text other : String) (es : List (String × String)) :
    Table.find other (setEntry name text es) =
      if name = other then some text else Table.find other es := by
  induction es with
  | nil => rfl
  | cons e rest ih =>
    simp only [setEntry]
    split
    · rfl
    · split
      · rename_i heq
        simp only [Table.find, ← heq]
        split <;> rfl
      · rename_i hne
        simp only [Table.find, ih]
        by_cases hk : name = other
        · simp [hk, show ¬e.1 = other from fun h => hne (hk.trans h.symm)]
        · simp [hk]

/-- Setting a name changes the text of that name and of no other. -/
@[simp] theorem get?_set (l : Labels) (name text other : String) :
    (l.set name text).get? other = if name = other then some text else l.get? other :=
  find_setEntry name text other l.entries

@[simp] theorem get?_empty (name : String) : empty.get? name = none := rfl

/-- In the map of a list of entries, a name has the last text that the list has for it. -/
theorem get?_ofList (es : List (String × String)) (name : String) :
    (ofList es).get? name = (es.filter (·.1 = name)).getLast?.map Prod.snd := by
  suffices hall : ∀ l : Labels, (es.foldl (fun l e => l.set e.1 e.2) l).get? name =
      ((es.filter (·.1 = name)).getLast?.map Prod.snd).or (l.get? name) by
    rw [ofList, hall, get?_empty, Option.or_none]
  induction es with
  | nil => exact fun l => rfl
  | cons e rest ih =>
    intro l
    show (rest.foldl (fun l e => l.set e.1 e.2) (l.set e.1 e.2)).get? name = _
    rw [ih, get?_set]
    by_cases h : e.1 = name
    · -- the text of this entry counts if no later one has the name
      simp only [List.filter_cons, h, decide_true, if_true, List.getLast?_cons]
      cases (rest.filter (·.1 = name)).getLast? <;> rfl
    · simp only [List.filter_cons, h, decide_false, Bool.false_eq_true, if_false]

end Labels

end LoadBalancer

import Mathlib
import LoadBalancer.Document.Fields

/-!
# Reading what was written

A tree that was written comes back as a tree of the same shape, whose scalars may have lost their type:
`5` may come back as text without quotes. What a reading takes from such a tree is settled by the tree
that was written.

* `Scalar.returnsAs`, `Node.returnsAs`, `Node.returnsIn` – a tree comes back;
* `Yields` – what a reading takes from whatever comes back of a tree, and `yields_text` and the
  statements after it for every kind of value;
* `Fills` – the same for the entries of a record, built up by `Fills.entry` from the last to the first.
-/

namespace LoadBalancer

/-- A number that is none: its fraction is not zero, and its exponent is the largest one. -/
def Binary64.isNone (x : Binary64) : Bool := decide (infinityBits < x.body)

namespace Document

/-! ### Trees that come back -/

/-- A scalar comes back as itself, or as text without quotes that stands for the same value. Numbers that
are none count as the same. -/
def Scalar.returnsAs : Scalar → Scalar → Bool
  | .text s, t => t == .text s || t == .plain s
  | .flag b, t => t.flag? == some b
  | .integer i, t => (t.natural? size64).map Int.ofNat == some i
  | .number x, t => t.number?.any fun y => y == x || (x.isNone && y.isNone)
  | .null, t => t.given? == some false
  | s, t => t == s

mutual

/-- A tree comes back with the same lists and records. -/
def Node.returnsAs : Node → Node → Bool
  | .scalar s, .scalar t => s.returnsAs t
  | .list _ items _, .list _ items' closed => closed && itemsReturnAs items items'
  | .record entries _, .record entries' closed => closed && entriesReturnAs entries entries'
  | _, _ => false

/-- Items come back in their order. -/
def itemsReturnAs : List Node → List Node → Bool
  | [], [] => true
  | n :: rest, n' :: rest' => n.returnsAs n' && itemsReturnAs rest rest'
  | _, _ => false

/-- Entries come back in their order. -/
def entriesReturnAs : List (Node × Node) → List (Node × Node) → Bool
  | [], [] => true
  | (k, v) :: rest, (k', v') :: rest' =>
    k.returnsAs k' && v.returnsAs v' && entriesReturnAs rest rest'
  | _, _ => false

end

/-- A tree comes back as all of a text. -/
def Node.returnsIn (n : Node) (w : Whole) : Bool :=
  n.returnsAs w.root && !w.trailing

theorem exists_scalar_of_returnsAs {s : Scalar} {n : Node}
    (h : (Node.scalar s).returnsAs n = true) : ∃ t, n = .scalar t ∧ s.returnsAs t = true := by
  cases n with
  | scalar t => exact ⟨t, rfl, by simpa [Node.returnsAs] using h⟩
  | _ => simp [Node.returnsAs] at h

/-! ### Values -/

/-- From whatever comes back of a tree, a reading takes a value with a property, and it follows no
reference. -/
def Yields {α : Type} (r : Reading α) (written : Node) (P : α → Prop) : Prop :=
  ∀ n, written.returnsAs n = true → ∃ a, P a ∧ ∀ links, r n links = .ok (a, links)

section Values

variable {α β : Type} {r : Reading α} {written : Node} {P Q : α → Prop}

theorem Yields.mono (h : Yields r written P) (hPQ : ∀ a, P a → Q a) : Yields r written Q := by
  intro n hn
  obtain ⟨a, ha, hread⟩ := h n hn
  exact ⟨a, hPQ a ha, hread⟩

/-- A value is taken by its kind, and then turned into another one. -/
theorem Yields.andThen {f : α → Decoding β} {R : β → Prop} (h : Yields r written P)
    (hf : ∀ a, P a → ∃ b, R b ∧ ∀ links, f a links = .ok (b, links)) :
    Yields (fun n => do f (← r n)) written R := by
  intro n hn
  obtain ⟨a, ha, hread⟩ := h n hn
  obtain ⟨b, hb, hfa⟩ := hf a ha
  refine ⟨b, hb, fun links => ?_⟩
  show (r n links).bind (fun p => f p.1 p.2) = _
  rw [hread]
  exact hfa links

/-- What is taken from a tree without references. -/
theorem Yields.take (h : Yields r written P) {n : Node} (hn : written.returnsAs n = true) :
    ∃ a, P a ∧ r.take n = .ok a := by
  obtain ⟨a, ha, hread⟩ := h n hn
  refine ⟨a, ha, ?_⟩
  show (r n ⟨[], 0⟩).map Prod.fst = _
  rw [hread]
  rfl

/-- What is taken from all of a text. -/
theorem Yields.takeAll (h : Yields r written P) {w : Whole} (hw : written.returnsIn w = true) :
    ∃ a, P a ∧ r.takeAll w = .ok a := by
  simp only [Node.returnsIn, Bool.and_eq_true, Bool.not_eq_true'] at hw
  obtain ⟨a, ha, hread⟩ := h w.root hw.1
  refine ⟨a, ha, ?_⟩
  show ((r w.root ⟨w.named, referencesPerMark * w.root.size⟩).map Prod.fst).bind (fun a =>
    if w.trailing = true then throw Fault.malformed else pure a) = _
  rw [hread, hw.2]
  rfl

theorem yields_scalar {f : Scalar → Option α} {s : Scalar}
    (h : ∀ t, s.returnsAs t = true → ∃ a, P a ∧ f t = some a) :
    Yields (readScalar f) (.scalar s) P := by
  intro n hn
  obtain ⟨t, rfl, ht⟩ := exists_scalar_of_returnsAs hn
  obtain ⟨a, ha, hf⟩ := h t ht
  refine ⟨a, ha, fun links => ?_⟩
  show (orUnsuitable (f t)).bind (fun b => Except.ok (b, links)) = _
  rw [hf]
  rfl

theorem text?_of_returnsAs {x : String} {t : Scalar} (h : (Scalar.text x).returnsAs t = true) :
    t = .text x ∨ t = .plain x := by
  simpa [Scalar.returnsAs] using h

theorem yields_text (x : String) : Yields readText (.scalar (.text x)) (· = x) := by
  refine yields_scalar fun t ht => ⟨x, rfl, ?_⟩
  rcases text?_of_returnsAs ht with rfl | rfl <;> rfl

theorem yields_flag (b : Bool) : Yields readFlag (.scalar (.flag b)) (· = b) :=
  yields_scalar fun t ht => ⟨b, rfl, by simpa [Scalar.returnsAs] using ht⟩

/-- A number below a smaller bound is taken under that bound, too. -/
theorem yields_natural {bound n : Nat} (h : n < bound) :
    Yields (readNatural bound) (.scalar (.integer n)) (· = n) := by
  refine yields_scalar fun t ht => ⟨n, rfl, ?_⟩
  have hvalue : t.natural? size64 = some n := by
    simp only [Scalar.returnsAs, beq_iff_eq, Option.map_eq_some_iff] at ht
    obtain ⟨m, hm, hmn⟩ := ht
    rw [hm, Int.ofNat.inj hmn]
  unfold Scalar.natural? at hvalue ⊢
  obtain ⟨hsome, -⟩ := Option.filter_eq_some_iff.mp hvalue
  exact Option.filter_eq_some_iff.mpr ⟨hsome, by simpa using h⟩

theorem yields_number (x : Binary64) : Yields readNumber (.scalar (.number x)) fun _ => True := by
  refine yields_scalar fun t ht => ?_
  simp only [Scalar.returnsAs, Option.any_eq_true] at ht
  obtain ⟨y, hy, -⟩ := ht
  exact ⟨y, trivial, hy⟩

/-! ### Lists -/

theorem exists_mapM_of_itemsReturnAs {f : β → Node} {R : β → α → Prop} {bs : List β}
    (h : ∀ b ∈ bs, Yields r (f b) (R b)) {items : List Node}
    (hitems : itemsReturnAs (bs.map f) items = true) :
    ∃ as, List.Forall₂ R bs as ∧ ∀ links, items.mapM r links = .ok (as, links) := by
  induction bs generalizing items with
  | nil =>
    cases items with
    | nil => exact ⟨[], .nil, fun _ => rfl⟩
    | cons n rest => simp [itemsReturnAs] at hitems
  | cons b bs ih =>
    cases items with
    | nil => simp [itemsReturnAs] at hitems
    | cons n rest =>
      simp only [List.map_cons, itemsReturnAs, Bool.and_eq_true] at hitems
      obtain ⟨a, ha, hread⟩ := h b List.mem_cons_self n hitems.1
      obtain ⟨as, has, hrest⟩ := ih (fun c hc => h c (List.mem_cons_of_mem b hc)) hitems.2
      refine ⟨a :: as, .cons ha has, fun links => ?_⟩
      rw [List.mapM_cons]
      show (r n links).bind (fun p => (rest.mapM r p.2).bind fun q => .ok (p.1 :: q.1, q.2)) = _
      rw [hread]
      show (rest.mapM r links).bind (fun q => Except.ok (a :: q.1, q.2)) = _
      rw [hrest]
      rfl

/-- A list is taken item by item. -/
theorem yields_list {f : β → Node} {R : β → α → Prop} {bs : List β}
    (h : ∀ b ∈ bs, Yields r (f b) (R b)) (positional closed : Bool) :
    Yields (readList r) (.list positional (bs.map f) closed) fun as => List.Forall₂ R bs as := by
  intro n hn
  cases n with
  | list positional' items closed' =>
    simp only [Node.returnsAs, Bool.and_eq_true] at hn
    obtain ⟨rfl, hitems⟩ := hn
    obtain ⟨as, has, hread⟩ := exists_mapM_of_itemsReturnAs h hitems
    refine ⟨as, has, fun links => ?_⟩
    show (items.mapM r links).bind (fun q => Except.ok (q.1, q.2)) = _
    rw [hread]
    rfl
  | _ => simp [Node.returnsAs] at hn

end Values

/-! ### Labels -/

/-- A name with its text. -/
def readPair : Node × Node → Decoding (String × String) :=
  fun e => do return (← readText e.1, ← readText e.2)

theorem exists_mapM_of_entriesReturnAs {es : List (String × String)} {entries : List (Node × Node)}
    (h : entriesReturnAs (es.map fun e => (.scalar (.text e.1), .scalar (.text e.2))) entries = true) :
    ∃ pairs, ∀ links, entries.mapM readPair links = .ok (pairs, links) := by
  induction es generalizing entries with
  | nil =>
    cases entries with
    | nil => exact ⟨[], fun _ => rfl⟩
    | cons e rest => simp [entriesReturnAs] at h
  | cons e es ih =>
    cases entries with
    | nil => simp [entriesReturnAs] at h
    | cons d rest =>
      obtain ⟨key, value⟩ := d
      simp only [List.map_cons, entriesReturnAs, Bool.and_eq_true] at h
      obtain ⟨x, -, hkey⟩ := yields_text e.1 key h.1.1
      obtain ⟨y, -, hvalue⟩ := yields_text e.2 value h.1.2
      obtain ⟨pairs, hrest⟩ := ih h.2
      have hpair : ∀ links, readPair (key, value) links = .ok ((x, y), links) := by
        intro links
        show (readText key links).bind (fun p => (readText value p.2).bind fun q =>
          Except.ok ((p.1, q.1), q.2)) = _
        rw [hkey]
        show (readText value links).bind (fun q => Except.ok ((x, q.1), q.2)) = _
        rw [hvalue]
        rfl
      refine ⟨(x, y) :: pairs, fun links => ?_⟩
      rw [List.mapM_cons]
      show (readPair (key, value) links).bind (fun p =>
        (rest.mapM readPair p.2).bind fun q => Except.ok (p.1 :: q.1, q.2)) = _
      rw [hpair]
      show (rest.mapM readPair links).bind (fun q => Except.ok ((x, y) :: q.1, q.2)) = _
      rw [hrest]
      rfl

/-- A map of texts is taken as some map. -/
theorem yields_labels (es : List (String × String)) (closed : Bool) :
    Yields readLabels
      (.record (es.map fun e => (.scalar (.text e.1), .scalar (.text e.2))) closed)
      fun _ => True := by
  intro n hn
  cases n with
  | record entries closed' =>
    simp only [Node.returnsAs, Bool.and_eq_true] at hn
    obtain ⟨rfl, hentries⟩ := hn
    obtain ⟨pairs, hread⟩ := exists_mapM_of_entriesReturnAs hentries
    refine ⟨Labels.ofList pairs, trivial, fun links => ?_⟩
    show (entries.mapM readPair links).bind (fun q => Except.ok (Labels.ofList q.1, q.2)) = _
    rw [hread]
    rfl
  | _ => simp [Node.returnsAs] at hn

/-! ### Records -/

section Records

variable {σ : Type} {fields : List (RecordField σ)} {seen seen' : List String} {draft : σ}
  {Q : σ → Prop}

/-- From whatever comes back of some entries, a draft is filled in that has a property; the names of the
fields are then `seen'`. -/
def Fills (fields : List (RecordField σ)) (seen : List String) (draft : σ)
    (written : List (Node × Node)) (seen' : List String) (Q : σ → Prop) : Prop :=
  ∀ entries, entriesReturnAs written entries = true →
    ∃ last, Q last ∧ ∀ links, readEntries fields seen draft entries links = .ok ((seen', last), links)

theorem Fills.done (h : Q draft) : Fills fields seen draft [] seen Q := by
  intro entries hentries
  cases entries with
  | nil => exact ⟨draft, h, fun _ => rfl⟩
  | cons e rest => simp [entriesReturnAs] at hentries

/-- An entry with the name of a field that was not there before. -/
theorem Fills.entry {α : Type} {f : RecordField σ} {value : Reading α} {put : α → σ → σ}
    {P : α → Prop} {name : String} {v : Node} {rest : List (Node × Node)}
    (hfield : fields.find? (·.isCalled name) = some f)
    (hput : f.read = fun n s => return put (← value n) s)
    (hnew : seen.contains f.name = false) (hvalue : Yields value v P)
    (hrest : ∀ a, P a → Fills fields (f.name :: seen) (put a draft) rest seen' Q) :
    Fills fields seen draft ((.scalar (.text name), v) :: rest) seen' Q := by
  intro entries hentries
  cases entries with
  | nil => simp [entriesReturnAs] at hentries
  | cons e others =>
    obtain ⟨key, node⟩ := e
    simp only [entriesReturnAs, Bool.and_eq_true] at hentries
    obtain ⟨⟨hkey, hnode⟩, hothers⟩ := hentries
    obtain ⟨x, rfl, hname⟩ := yields_text name key hkey
    obtain ⟨a, ha, hread⟩ := hvalue node hnode
    obtain ⟨last, hlast, hfilled⟩ := hrest a ha others hothers
    refine ⟨last, hlast, fun links => ?_⟩
    rw [readEntries]
    show ((readText key links).bind fun p => _) = _
    rw [hname]
    simp only [Except.bind]
    rw [hfield]
    dsimp only
    rw [hnew, if_neg Bool.false_ne_true, hput]
    show (((value node links).bind fun p => Except.ok (put p.1 draft, p.2)).bind fun p =>
      readEntries fields (f.name :: seen) p.1 others p.2) = _
    rw [hread]
    exact hfilled links

/-- A record is taken from its entries, if no field is missing that it needs. -/
theorem Fills.record {written : List (Node × Node)} (h : Fills fields [] draft written seen' Q)
    (hneeded : (fields.any fun f => f.required && !seen'.contains f.name) = false) (closed : Bool) :
    Yields (readRecord fields draft) (.record written closed) Q := by
  intro n hn
  cases n with
  | record entries closed' =>
    simp only [Node.returnsAs, Bool.and_eq_true] at hn
    obtain ⟨rfl, hentries⟩ := hn
    obtain ⟨last, hlast, hread⟩ := h entries hentries
    refine ⟨last, hlast, fun links => ?_⟩
    show ((readEntries fields [] draft entries links).bind fun p => _) = _
    rw [hread]
    simp only [Except.bind]
    rw [hneeded]
    rfl
  | _ => simp [Node.returnsAs] at hn

end Records

end Document

end LoadBalancer

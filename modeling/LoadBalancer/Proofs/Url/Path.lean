import Mathlib
import LoadBalancer.Proofs.Text.Cut
import LoadBalancer.Proofs.Url.Percent
import LoadBalancer.Url.Path

/-!
# Laws of paths

What the segments of a path that was read are like, and what becomes of them when the path is read
again under a special scheme.

* `isDots`, `isDots_encode` – dot segments, which encoding does not bring about;
* `IsWritten` – the characters of a segment that was read;
* `isRead_of_mem_readSegments`, `isWritten_of_mem_readFileSegments` – what holds of segments that are read;
* `fields_text`, `text_inj` – a written path has its segments between the slashes;
* `text_reread_iff` – which paths are the same when they are read again.
-/

namespace LoadBalancer.Url.Path

open LoadBalancer.Text

/-! ### Dot segments -/

/-- The segment stands for the one it is in, or for the one above. -/
def isDots (s : List Char) : Bool := isSingleDot s || isDoubleDot s

/-- The three forms of a dot. -/
def dots : List (List Char) := [['.'], ['%', '2', 'e'], ['%', '2', 'E']]

/-- All dot segments. -/
def dotSegments : List (List Char) := dots ++ dots.flatMap fun d => dots.map (d ++ ·)

theorem mem_dots_of_isSingleDot {s : List Char} (h : isSingleDot s = true) : s ∈ dots := by
  simp only [isSingleDot, Bool.or_eq_true, decide_eq_true_eq] at h
  rcases h with (rfl | rfl) | rfl <;> decide

theorem mem_dotSegments {s : List Char} (h : isDots s = true) : s ∈ dotSegments := by
  refine List.mem_append.mpr ?_
  rcases (Bool.or_eq_true _ _).mp h with hsingle | hdouble
  · exact Or.inl (mem_dots_of_isSingleDot hsingle)
  · refine Or.inr ?_
    unfold isDoubleDot at hdouble
    split at hdouble
    · exact List.mem_flatMap.mpr
        ⟨['.'], by decide, List.mem_map_of_mem (mem_dots_of_isSingleDot hdouble)⟩
    · rename_i e rest
      obtain ⟨he, hrest⟩ := (Bool.and_eq_true _ _).mp hdouble
      have hmem : ['%', '2', e] ∈ dots := by
        simp only [Bool.or_eq_true, beq_iff_eq] at he
        rcases he with rfl | rfl <;> decide
      exact List.mem_flatMap.mpr
        ⟨_, hmem, List.mem_map_of_mem (mem_dots_of_isSingleDot hrest)⟩
    · cases hdouble

/-- The only triple in a dot segment is that of the dot. -/
theorem triple_in_dotSegments :
    ∀ d ∈ dotSegments, ∀ n < 256, Percent.triple (UInt8.ofNat n) <:+: d → n = 0x2E := by
  have hforms : ∀ d ∈ dotSegments, ∀ t ∈ d.tails, t.head? = some '%' →
      t.take 3 = ['%', '2', 'e'] ∨ t.take 3 = ['%', '2', 'E'] := by
    decide +kernel
  have hdot : ∀ n < 256, Percent.triple (UInt8.ofNat n) = ['%', '2', 'e'] ∨
      Percent.triple (UInt8.ofNat n) = ['%', '2', 'E'] → n = 0x2E := by
    decide +kernel
  intro d hd n hn hinfix
  obtain ⟨t, ⟨rest, rfl⟩, htail⟩ := List.infix_iff_prefix_suffix.mp hinfix
  exact hdot n hn (hforms d hd _ ((List.mem_tails _ d).mpr htail) rfl)

/-- A dot is shown as it is, so encoding makes no dot segment of another text. -/
theorem isDots_encode {s : List Char} (h : isDots s = false) :
    isDots (Percent.encode Percent.inPath s) = false := by
  by_cases hsame : Percent.encode Percent.inPath s = s
  · rw [hsame, h]
  · obtain ⟨o, front, back, hcode, hhidden⟩ := Percent.exists_triple_of_encode_ne hsame
    by_contra hdots
    rw [Bool.not_eq_false] at hdots
    have hmem := mem_dotSegments hdots
    have hinfix : Percent.triple (UInt8.ofNat o.toNat) <:+:
        Percent.encode Percent.inPath s := by
      rw [UInt8.ofNat_toNat, hcode]
      exact ⟨front, back, by rw [List.append_assoc]⟩
    have hdot := triple_in_dotSegments _ hmem o.toNat o.toNat_lt hinfix
    exact hhidden '.' ⟨by decide, by decide⟩ hdot.symm

/-! ### Segments that were read -/

/-- All characters are shown in paths, and none is a slash. -/
def IsWritten (s : List Char) : Prop := ∀ c ∈ s, Percent.Shows Percent.inPath c ∧ c ≠ '/'

theorem IsWritten.notMem {s : List Char} (h : IsWritten s) : '/' ∉ s := fun hmem => (h _ hmem).2 rfl

theorem isWritten_encode {s : List Char} (h : '/' ∉ s) :
    IsWritten (Percent.encode Percent.inPath s) := by
  refine Percent.forall_mem_encode ?_ ?_ ?_
  · intro c hc hshown
    exact ⟨hshown, fun heq => h (heq ▸ hc)⟩
  · exact ⟨⟨by decide, by decide⟩, by decide⟩
  · unfold Percent.Shows
    decide

theorem notMem_encode {c : Char} (hsign : c ≠ '%') (hdigit : ∀ n < 16, c ≠ Percent.hexDigit n)
    {set : Char → Bool} {s : List Char} (h : c ∉ s) : c ∉ Percent.encode set s := by
  intro hc
  refine Percent.forall_mem_encode (P := fun d => d ≠ c) ?_ hsign.symm ?_ c hc rfl
  · intro d hd _ heq
    exact h (heq ▸ hd)
  · intro n hn heq
    exact hdigit n hn heq.symm

section Pieces

variable {P : String → Prop}

theorem forall_mem_push {ss : List String} {piece : List Char} (hss : ∀ s ∈ ss, P s)
    (hempty : P "") (hpiece : isDots piece = false → P (Percent.encodeText Percent.inPath piece))
    (last : Bool) : ∀ s ∈ push last ss piece, P s := by
  have hparent : ∀ s ∈ parent ss, P s := by
    intro s hs
    unfold parent at hs
    split at hs
    · exact hss s hs
    · exact hss s (List.dropLast_subset ss hs)
  have hsnoc : ∀ ts : List String, (∀ s ∈ ts, P s) → ∀ t, P t → ∀ s ∈ ts ++ [t], P s := by
    intro ts hts t ht s hs
    rcases List.mem_append.mp hs with hs | hs
    · exact hts s hs
    · rw [List.mem_singleton.mp hs]
      exact ht
  unfold push
  split
  · split
    · exact hsnoc _ hparent "" hempty
    · exact hparent
  · rename_i hdouble
    split
    · split
      · exact hsnoc _ hss "" hempty
      · exact hss
    · rename_i hsingle
      exact hsnoc _ hss _ (hpiece (by simp only [isDots, hsingle, hdouble, Bool.or_self]))

theorem forall_mem_pushFile {ss : List String} {piece : List Char} (hss : ∀ s ∈ ss, P s)
    (hempty : P "") (hdisk : ∀ letter : Char, letter.isAlpha = true → P (String.ofList [letter, ':']))
    (hpiece : ∀ part : List Char, (∀ c ∈ part, c ∈ piece) →
      P (Percent.encodeText Percent.inPath part)) (last : Bool) :
    ∀ s ∈ pushFile last ss piece, P s := by
  have hunbroken : ∀ c ∈ unbroken piece, c ∈ piece := fun c hc => (List.mem_filter.mp hc).1
  unfold pushFile
  split
  · rename_i letter rest heq
    have hcut : cutDisk piece = some (letter, rest) := by
      split at heq
      · exact heq
      · cases heq
    obtain ⟨halpha, hrest⟩ : letter.isAlpha = true ∧ ∀ c ∈ rest, c ∈ unbroken piece := by
      unfold cutDisk at hcut
      split at hcut
      · split at hcut
        · rename_i hdrive
          cases hcut
          exact ⟨((Bool.and_eq_true _ _).mp hdrive).1, fun c hc => by cases hc⟩
        · cases hcut
      · rename_i letter' rest' mark c back hpart _
        split at hcut
        · rename_i hboth
          cases hcut
          refine ⟨((Bool.and_eq_true _ _).mp hboth).1, ?_⟩
          intro c hc
          rw [hpart]
          exact List.mem_cons_of_mem _ (List.mem_cons_of_mem _ hc)
        · cases hcut
      · cases hcut
    have hfirst := hdisk letter halpha
    intro s hs
    dsimp only at hs
    split at hs
    · rw [List.mem_singleton.mp hs]
      exact hfirst
    · simp only [List.mem_cons, List.not_mem_nil, or_false] at hs
      rcases hs with rfl | rfl
      · exact hfirst
      · exact hpiece rest fun c hc => hunbroken c (hrest c hc)
  · exact forall_mem_push hss hempty (fun _ => hpiece _ hunbroken) last

/-- All but the last piece have a slash behind them. -/
theorem pushAll_cons {step : Bool → List String → List Char → List String} {pieces : List (List Char)}
    (h : pieces ≠ []) (ss : List String) (piece : List Char) :
    pushAll step ss (piece :: pieces) = pushAll step (step false ss piece) pieces := by
  cases pieces with
  | nil => exact absurd rfl h
  | cons q qs => rfl

/-- What every piece keeps holds after all pieces, by induction on them. -/
theorem forall_mem_pushAll {step : Bool → List String → List Char → List String}
    {pieces : List (List Char)}
    (hstep : ∀ piece ∈ pieces, ∀ last ss, (∀ s ∈ ss, P s) → ∀ s ∈ step last ss piece, P s)
    {ss : List String} (hss : ∀ s ∈ ss, P s) : ∀ s ∈ pushAll step ss pieces, P s := by
  induction pieces generalizing ss with
  | nil => exact hss
  | cons piece rest ih =>
      have hone := fun last => hstep piece List.mem_cons_self last ss hss
      cases rest with
      | nil => exact hone true
      | cons q qs => exact ih (fun p hp => hstep p (List.mem_cons_of_mem _ hp)) (hone false)

theorem mem_turnSlashes {turn : Bool} {s : List Char} {c : Char} (h : c ∈ turnSlashes turn s) :
    (turn = true → c ≠ '\\') ∧ (c = '/' ∨ c ∈ s) := by
  unfold turnSlashes at h
  split at h
  · obtain ⟨d, hd, rfl⟩ := List.mem_map.mp h
    split
    · exact ⟨fun _ => by decide, Or.inl rfl⟩
    · rename_i hne
      exact ⟨fun _ => hne, Or.inr hd⟩
  · rename_i hturn
    exact ⟨fun ht => absurd ht hturn, Or.inr h⟩

/-- The characters of a piece between slashes. -/
theorem mem_piece {turn : Bool} {s piece : List Char} (h : piece ∈ fields '/' (turnSlashes turn s)) :
    '/' ∉ piece ∧ (turn = true → '\\' ∉ piece) ∧ ∀ c ∈ piece, c ∈ s := by
  have hslash := notMem_of_mem_fields h
  refine ⟨hslash, ?_, ?_⟩
  · intro hturn hmem
    exact (mem_turnSlashes (mem_of_mem_fields h hmem)).1 hturn rfl
  · intro c hc
    rcases (mem_turnSlashes (mem_of_mem_fields h hc)).2 with rfl | hmem
    · exact absurd hc hslash
    · exact hmem

end Pieces

/-- What holds of a segment that was read: it is written, is no dot segment, and has no backslash where
backslashes were slashes. -/
structure IsRead (turn : Bool) (s : String) : Prop where
  written : IsWritten s.toList
  turned : turn = true → '\\' ∉ s.toList
  undotted : isDots s.toList = false

/-- **The segments of a path** that was read. -/
theorem isRead_of_mem_readSegments (turn : Bool) (s : List Char) :
    ∀ t ∈ readSegments turn s, IsRead turn t := by
  have hempty : IsRead turn "" := by
    refine ⟨?_, ?_, by decide⟩
    · intro c hc
      cases hc
    · intro _ hc
      cases hc
  refine forall_mem_pushAll ?_ (by simp)
  intro piece hpiece last ss hss
  obtain ⟨hslash, hturned, -⟩ := mem_piece hpiece
  refine forall_mem_push hss hempty ?_ last
  intro hdots
  refine ⟨?_, ?_, ?_⟩
  · rw [Percent.encodeText, String.toList_ofList]
    exact isWritten_encode hslash
  · intro hturn
    rw [Percent.encodeText, String.toList_ofList]
    exact notMem_encode (by decide) (by decide) (hturned hturn)
  · rw [Percent.encodeText, String.toList_ofList]
    exact isDots_encode hdots

/-- A letter is shown in paths, and is no slash. -/
theorem shows_of_isAlpha {c : Char} (h : c.isAlpha = true) :
    Percent.Shows Percent.inPath c ∧ c ≠ '/' ∧ c ≠ '\\' := by
  have hcode : 65 ≤ c.toNat ∧ c.toNat ≤ 122 := by
    simp only [Char.isAlpha, Char.isUpper, Char.isLower, Bool.or_eq_true, Bool.and_eq_true,
      decide_eq_true_eq, ge_iff_le, UInt32.le_iff_toNat_le] at h
    have hnat : c.toNat = c.val.toNat := rfl
    rcases h with ⟨h1, h2⟩ | ⟨h1, h2⟩
    · exact ⟨by rw [hnat]; exact h1, by rw [hnat]; exact le_trans h2 (by decide)⟩
    · exact ⟨by rw [hnat]; exact le_trans (by decide) h1, by rw [hnat]; exact h2⟩
  have hother : ∀ d : Char, d.isAlpha = false → c ≠ d := by
    intro d hd heq
    rw [heq, hd] at h
    cases h
  refine ⟨⟨?_, by omega⟩, hother '/' (by decide), hother '\\' (by decide)⟩
  simp only [Percent.inPath, Percent.inFragment, Percent.inControls, Bool.or_eq_false_iff,
    decide_eq_false_iff_not, beq_eq_false_iff_ne, List.contains_eq_mem, List.mem_cons,
    List.not_mem_nil, or_false, not_or]
  refine ⟨⟨⟨by omega, by omega⟩, ?_⟩, ?_⟩
  · exact ⟨hother _ (by decide), hother _ (by decide), hother _ (by decide), hother _ (by decide),
      hother _ (by decide)⟩
  · exact ⟨hother _ (by decide), hother _ (by decide), hother _ (by decide), hother _ (by decide)⟩

/-- The segments of a file have no backslash either, but behind a disk there may be a dot segment. -/
theorem isWritten_of_mem_readFileSegments {s : List Char} :
    ∀ t ∈ readFileSegments s, IsWritten t.toList ∧ '\\' ∉ t.toList := by
  refine forall_mem_pushAll ?_ (by simp)
  intro piece hpiece last ss hss
  obtain ⟨hslash, hturned, -⟩ := mem_piece hpiece
  refine forall_mem_pushFile hss ⟨?_, ?_⟩ ?_ ?_ last
  · intro c hc
    cases hc
  · intro hc
    cases hc
  · intro letter halpha
    rw [String.toList_ofList]
    obtain ⟨hshown, hslash, hback⟩ := shows_of_isAlpha halpha
    refine ⟨?_, by simp [Ne.symm hback]⟩
    intro c hc
    simp only [List.mem_cons, List.not_mem_nil, or_false] at hc
    rcases hc with rfl | rfl
    · exact ⟨hshown, hslash⟩
    · exact ⟨⟨by decide, by decide⟩, by decide⟩
  · intro part hpart
    rw [Percent.encodeText, String.toList_ofList]
    exact ⟨isWritten_encode fun hc => hslash (hpart _ hc),
      notMem_encode (by decide) (by decide) fun hc => hturned rfl (hpart _ hc)⟩

/-! ### Written paths -/

theorem toList_text (ss : List String) :
    (text (.segments ss)).toList = ss.flatMap fun s => '/' :: s.toList := by
  simp only [text, String.toList_join, List.flatMap_map, String.toList_append]
  rfl

theorem text_eq_empty_iff {ss : List String} : text (.segments ss) = "" ↔ ss = [] := by
  rw [← String.toList_inj, toList_text]
  cases ss <;> simp

/-- The slashes of a written path stand before its segments. -/
theorem toList_text_of_ne_nil {ss : List String} (h : ss ≠ []) :
    (text (.segments ss)).toList = '/' :: joinWith '/' (ss.map String.toList) := by
  rw [toList_text]
  induction ss with
  | nil => exact absurd rfl h
  | cons s rest ih =>
      by_cases hrest : rest = []
      · rw [hrest]
        simp [joinWith]
      · have hmap : rest.map String.toList ≠ [] := by simpa using hrest
        rw [List.flatMap_cons, ih hrest, List.map_cons, joinWith_cons hmap, List.cons_append]

theorem fields_text {ss : List String} (hne : ss ≠ []) (h : ∀ s ∈ ss, '/' ∉ s.toList) :
    fields '/' (text (.segments ss)).toList.tail = ss.map String.toList := by
  rw [toList_text_of_ne_nil hne, List.tail_cons]
  refine fields_joinWith (by simpa using hne) ?_
  intro piece hpiece
  obtain ⟨s, hs, rfl⟩ := List.mem_map.mp hpiece
  exact h s hs

/-- Two paths that are written alike have the same segments. -/
theorem text_inj {ss ts : List String} (hss : ∀ s ∈ ss, '/' ∉ s.toList)
    (hts : ∀ t ∈ ts, '/' ∉ t.toList) (h : text (.segments ss) = text (.segments ts)) : ss = ts := by
  by_cases hne : ss = []
  · have hempty := text_eq_empty_iff.mpr hne
    rw [h, text_eq_empty_iff] at hempty
    rw [hne, hempty]
  · have hne' : ts ≠ [] := by
      intro heq
      rw [text_eq_empty_iff.mpr heq, text_eq_empty_iff] at h
      exact hne h
    have hfields := fields_text hne hss
    rw [h, fields_text hne' hts] at hfields
    exact (List.map_injective_iff.mpr (fun _ _ => String.toList_injective) hfields).symm

/-! ### Reading again -/

/-- Pieces that are no dot segments are put on one after the other. -/
theorem pushAll_push {pieces : List (List Char)} (h : ∀ piece ∈ pieces, isDots piece = false)
    (ss : List String) :
    pushAll push ss pieces = ss ++ pieces.map (Percent.encodeText Percent.inPath) := by
  have hone : ∀ piece ∈ pieces, ∀ last ts,
      push last ts piece = ts ++ [Percent.encodeText Percent.inPath piece] := by
    intro piece hpiece last ts
    have hdots := h piece hpiece
    simp only [isDots, Bool.or_eq_false_iff] at hdots
    simp only [push, hdots.1, hdots.2, Bool.false_eq_true, if_false]
  induction pieces generalizing ss with
  | nil => simp [pushAll]
  | cons piece rest ih =>
      have hfirst := hone piece List.mem_cons_self
      cases rest with
      | nil => rw [pushAll, hfirst, List.map_cons, List.map_nil]
      | cons q qs =>
          rw [pushAll, hfirst, ih (fun p hp => h p (List.mem_cons_of_mem _ hp)) _
            fun p hp => hone p (List.mem_cons_of_mem _ hp), List.append_assoc]
          · rfl
          · simp

theorem turnSlashes_of_notMem {s : List Char} (h : '\\' ∉ s) (turn : Bool) : turnSlashes turn s = s := by
  cases turn with
  | false => rfl
  | true =>
      refine (List.map_congr_left ?_).trans (List.map_id s)
      intro c hc
      have hne : c ≠ '\\' := fun heq => h (heq ▸ hc)
      rw [if_neg hne]
      rfl

/-- Segments without backslashes and dot segments are read again as they are. -/
theorem readSegments_text {ss : List String} (hne : ss ≠ []) (hwritten : ∀ s ∈ ss, IsWritten s.toList)
    (hturned : ∀ s ∈ ss, '\\' ∉ s.toList) (hdots : ∀ s ∈ ss, isDots s.toList = false) (turn : Bool) :
    readSegments turn (text (.segments ss)).toList.tail = ss := by
  have hback : '\\' ∉ (text (.segments ss)).toList.tail := by
    intro hmem
    have hmem := List.mem_of_mem_tail hmem
    rw [toList_text] at hmem
    obtain ⟨s, hs, hc⟩ := List.mem_flatMap.mp hmem
    rcases List.mem_cons.mp hc with hc | hc
    · cases hc
    · exact hturned s hs hc
  have hslash : ∀ s ∈ ss, '/' ∉ s.toList := fun s hs hmem => (hwritten s hs _ hmem).2 rfl
  rw [readSegments, turnSlashes_of_notMem hback, fields_text hne hslash, pushAll_push, List.nil_append,
    List.map_map]
  · refine (List.map_congr_left ?_).trans (List.map_id ss)
    intro s hs
    show Percent.encodeText Percent.inPath s.toList = s
    rw [Percent.encodeText, Percent.encode_eq_self fun c hc => (hwritten s hs c hc).1,
      String.ofList_toList]
  · intro piece hpiece
    obtain ⟨s, hs, rfl⟩ := List.mem_map.mp hpiece
    exact hdots s hs

/-- An empty path is taken for a slash. -/
theorem slash_or_text (ss : List String) :
    (if text (.segments ss) = "" then "/" else text (.segments ss)) =
      text (.segments (if ss = [] then [""] else ss)) := by
  by_cases hss : ss = []
  · rw [if_pos (text_eq_empty_iff.mpr hss), if_pos hss]
    decide
  · rw [if_neg (mt text_eq_empty_iff.mp hss), if_neg hss]

/-- What is read is what was written, if both are written alike. -/
theorem readSegments_eq_of_text {ss : List String} (hwritten : ∀ s ∈ ss, IsWritten s.toList)
    {cs : List Char} (h : text (.segments (readSegments true cs)) =
      if text (.segments ss) = "" then "/" else text (.segments ss)) :
    readSegments true cs = if ss = [] then [""] else ss := by
  rw [slash_or_text] at h
  refine text_inj (fun t ht => (isRead_of_mem_readSegments true cs t ht).written.notMem) ?_ h
  intro s hs
  split at hs
  · rw [List.mem_singleton.mp hs]
    exact List.not_mem_nil
  · exact (hwritten s hs).notMem

/-- **Reading again.**  Under a special scheme a path stays as it is exactly if it has no backslash and
no dot segment; an empty one becomes a slash. -/
theorem text_reread_iff {ss : List String} (hwritten : ∀ s ∈ ss, IsWritten s.toList) :
    text (.segments (readSegments true (text (.segments ss)).toList.tail)) =
        (if text (.segments ss) = "" then "/" else text (.segments ss)) ↔
      ∀ s ∈ ss, '\\' ∉ s.toList ∧ isDots s.toList = false := by
  constructor
  · intro h s hs
    have hsame := readSegments_eq_of_text hwritten h
    rw [if_neg (List.ne_nil_of_mem hs)] at hsame
    have hread := isRead_of_mem_readSegments true _ s (hsame ▸ hs)
    exact ⟨hread.turned rfl, hread.undotted⟩
  · intro h
    by_cases hne : ss = []
    · subst hne
      decide
    · rw [if_neg (mt text_eq_empty_iff.mp hne),
        readSegments_text hne hwritten (fun s hs => (h s hs).1) fun s hs => (h s hs).2]

/-- Pieces come after those before them. -/
theorem pushAll_append {step : Bool → List String → List Char → List String}
    {ys : List (List Char)} (h : ys ≠ []) (xs : List (List Char)) (ss : List String) :
    pushAll step ss (xs ++ ys) = pushAll step (xs.foldl (step false) ss) ys := by
  induction xs generalizing ss with
  | nil => rfl
  | cons x rest ih =>
      rw [List.cons_append, pushAll_cons (List.append_ne_nil_of_right_ne_nil rest h), ih,
        List.foldl_cons]

/-- A dot segment has no colon. -/
theorem isDots_of_colon {s : List Char} (h : ':' ∈ s) : isDots s = false := by
  have hnone : ∀ d ∈ dotSegments, ':' ∉ d := by decide
  by_contra hdots
  exact hnone s (mem_dotSegments (by simpa using hdots)) h

/-- **More in front.**  A path does not come out of a longer text that ends in it, if a colon and some
digits stand before it: they are part of a segment of their own. -/
theorem text_behind_ne {ss : List String} (hwritten : ∀ s ∈ ss, IsWritten s.toList)
    {digits : List Char} (hdigits : '/' ∉ digits ∧ '\\' ∉ digits) (front : List Char) :
    text (.segments (readSegments true
        (front ++ ':' :: (digits ++ (text (.segments ss)).toList)))) ≠
      if text (.segments ss) = "" then "/" else text (.segments ss) := by
  intro h
  have hsame := readSegments_eq_of_text hwritten h
  have hkept : ∀ s ∈ ss, IsRead true s := by
    intro s hs
    rw [if_neg (List.ne_nil_of_mem hs)] at hsame
    exact isRead_of_mem_readSegments true _ s (hsame ▸ hs)
  -- nothing is turned behind the front, so the pieces there are a last one of the front and those written
  have hback : '\\' ∉ ':' :: (digits ++ (text (.segments ss)).toList) := by
    intro hmem
    rw [toList_text] at hmem
    simp only [List.mem_cons, List.mem_append, List.mem_flatMap] at hmem
    rcases hmem with hc | hc | ⟨s, hs, hc | hc⟩
    · cases hc
    · exact hdigits.2 hc
    · cases hc
    · exact (hkept s hs).turned rfl hc
  have hturned : turnSlashes true (front ++ ':' :: (digits ++ (text (.segments ss)).toList)) =
      turnSlashes true front ++ ':' :: (digits ++ (text (.segments ss)).toList) := by
    refine (List.map_append).trans ?_
    exact congrArg (turnSlashes true front ++ ·) (turnSlashes_of_notMem hback true)
  obtain ⟨zs, last, hfront⟩ := fields_append_of_notMem
    (show '/' ∉ ':' :: digits by simp [hdigits.1]) (turnSlashes true front)
  have hpieces : fields '/' (turnSlashes true front ++ ':' :: (digits ++ (text (.segments ss)).toList)) =
      zs ++ (last ++ ':' :: digits) :: ss.map String.toList := by
    by_cases hss : ss = []
    · rw [hss]
      exact (congrArg (fields '/') (by simp [text])).trans hfront
    · have hsplit : turnSlashes true front ++ ':' :: (digits ++ (text (.segments ss)).toList) =
          (turnSlashes true front ++ ':' :: digits) ++
            '/' :: joinWith '/' (ss.map String.toList) := by
        rw [toList_text_of_ne_nil hss]
        simp
      rw [hsplit, fields_append, hfront, fields_joinWith (by simpa using hss), List.append_assoc]
      · rfl
      · intro piece hpiece
        obtain ⟨s, hs, rfl⟩ := List.mem_map.mp hpiece
        exact (hwritten s hs).notMem
  have hundotted : ∀ piece ∈ (last ++ ':' :: digits) :: ss.map String.toList,
      isDots piece = false := by
    intro piece hpiece
    rcases List.mem_cons.mp hpiece with rfl | hpiece
    · exact isDots_of_colon (by simp)
    · obtain ⟨s, hs, rfl⟩ := List.mem_map.mp hpiece
      exact (hkept s hs).undotted
  rw [readSegments, hturned, hpieces, pushAll_append (by simp), pushAll_push hundotted] at hsame
  split at hsame
  · -- the one segment is not empty
    rename_i hss
    have hlength := congrArg (fun ts : List String => (ts.map String.length).sum) hsame
    have hencoded := Percent.length_le_encode Percent.inPath (last ++ ':' :: digits)
    simp only [List.map_append, List.map_cons, List.sum_append, List.sum_cons, Percent.encodeText,
      String.length_ofList, List.map_nil, List.sum_nil] at hlength
    simp only [List.length_append, List.length_cons] at hencoded
    have hzero : "".length = 0 := rfl
    omega
  · -- there is a segment too many
    have hlength := congrArg List.length hsame
    simp only [List.length_append, List.length_map, List.length_cons] at hlength
    omega

end LoadBalancer.Url.Path

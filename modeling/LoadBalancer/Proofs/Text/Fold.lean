import Mathlib
import LoadBalancer.Proofs.Text.Octets
import LoadBalancer.Headers
import LoadBalancer.Text.Blank

/-!
# Laws of comparison up to ASCII case

Texts are compared character by character here. In octets it comes to the same: making a text small changes
octets only that are characters of their own, and no character begins like another.

* `toNat_lower` – what becomes of a character; `isBlank_lower`, `isTextChar_lower` – what stays;
* `exists_append_trim`, `isBlank_of_head?_trim`, `isBlank_of_getLast?_trim` – what trimming takes off, and that
  it takes off all there is;
* `wording` – a text without blanks at its ends and in small letters; `Respelled` – one change of spelling;
* `startsFolded_iff_octets` – the beginning of a text, compared octet by octet;
* `exists_append_of_startsFolded` – a text that begins with another can be cut there.
-/

namespace LoadBalancer.Text

/-! ### Characters -/

theorem toNat_lower (c : Char) :
    (lower c).toNat = if 65 ≤ c.toNat ∧ c.toNat ≤ 90 then c.toNat + 32 else c.toNat := by
  have hcapital : 'A' ≤ c ∧ c ≤ 'Z' ↔ 65 ≤ c.toNat ∧ c.toNat ≤ 90 := Iff.rfl
  unfold lower
  simp only [hcapital]
  split
  · rename_i h
    have hvalid : (c.toNat + 32).isValidChar := Or.inl (by omega)
    rw [Char.ofNat, dif_pos hvalid]
    rfl
  · rfl

theorem lower_of_small {c : Char} (h : ¬(65 ≤ c.toNat ∧ c.toNat ≤ 90)) : lower c = c := by
  apply Char.toNat_inj.mp
  rw [toNat_lower, if_neg h]

theorem isBlank_lower (c : Char) : isBlank (lower c) = isBlank c := by
  by_cases h : 65 ≤ c.toNat ∧ c.toNat ≤ 90
  · -- neither a capital nor a small letter is blank
    have hsmall := toNat_lower c
    rw [if_pos h] at hsmall
    simp only [isBlank, blankRanges, List.any_cons, List.any_nil, hsmall]
    rw [Bool.eq_iff_iff]
    simp only [Bool.or_eq_true, Bool.and_eq_true, decide_eq_true_eq, Bool.or_false]
    omega
  · rw [lower_of_small h]

theorem isTextChar_lower (c : Char) : Headers.isTextChar (lower c) = Headers.isTextChar c := by
  by_cases h : 65 ≤ c.toNat ∧ c.toNat ≤ 90
  · have hsmall := toNat_lower c
    rw [if_pos h] at hsmall
    have hne : ∀ d : Char, d.toNat ≠ 9 → d ≠ '\t' := fun d hd heq => hd (by rw [heq]; rfl)
    have htab := hne c (by omega)
    have htab' := hne (lower c) (by omega)
    simp only [Headers.isTextChar, hsmall, beq_eq_false_iff_ne.mpr htab, beq_eq_false_iff_ne.mpr htab',
      Bool.false_or]
    rw [Bool.eq_iff_iff]
    simp only [Bool.and_eq_true, decide_eq_true_eq]
    omega
  · rw [lower_of_small h]

/-! ### Texts without blanks at their ends -/

/-- Trimming and making small can be done in any order. -/
theorem lowerList_trimList (s : List Char) : lowerList (trimList s) = trimList (lowerList s) := by
  have hstart : ∀ s : List Char, lowerList (trimStartList s) = trimStartList (lowerList s) := by
    intro s
    have hblank : isBlank ∘ lower = isBlank := funext isBlank_lower
    rw [lowerList, lowerList, trimStartList, trimStartList, List.dropWhile_map, hblank]
  have hreverse : ∀ s : List Char, lowerList s.reverse = (lowerList s).reverse := fun s => List.map_reverse
  have hend : ∀ s : List Char, lowerList (trimEndList s) = trimEndList (lowerList s) := by
    intro s
    have h := hstart s.reverse
    rw [hreverse] at h
    rw [trimEndList, hreverse, trimEndList]
    exact congrArg List.reverse h
  rw [trimList, hend, hstart, trimList]

theorem trimStartList_append {before : List Char} (h : before.all isBlank = true) (s : List Char) :
    trimStartList (before ++ s) = trimStartList s := by
  rw [trimStartList, List.dropWhile_append_of_pos fun c hc => List.all_eq_true.mp h c hc]
  rfl

theorem trimEndList_append {after : List Char} (h : after.all isBlank = true) (s : List Char) :
    trimEndList (s ++ after) = trimEndList s := by
  have hreverse : after.reverse.all isBlank = true := by rw [List.all_reverse]; exact h
  rw [trimEndList, List.reverse_append]
  exact congrArg List.reverse (trimStartList_append hreverse s.reverse)

/-- Blanks at the two ends do not count. -/
theorem trimList_append {before after : List Char} (hbefore : before.all isBlank = true)
    (hafter : after.all isBlank = true) (s : List Char) :
    trimList (before ++ s ++ after) = trimList s := by
  rw [trimList, trimList, List.append_assoc, trimStartList_append hbefore]
  by_cases hs : s.all isBlank = true
  · -- nothing is left of blanks
    have hnothing : ∀ t : List Char, t.all isBlank = true → trimStartList t = [] := by
      intro t ht
      exact List.dropWhile_eq_nil_iff.mpr fun c hc => List.all_eq_true.mp ht c hc
    rw [hnothing s hs, hnothing (s ++ after) (by rw [List.all_append, hs, hafter]; rfl)]
  · have hstart : trimStartList (s ++ after) = trimStartList s ++ after := by
      rw [trimStartList, List.dropWhile_append, if_neg]
      · rfl
      · rw [List.isEmpty_iff, List.dropWhile_eq_nil_iff]
        exact fun hall => hs (List.all_eq_true.mpr hall)
    rw [hstart, trimEndList_append hafter]

theorem trim_append {before after : String} (hbefore : isBlankText before = true)
    (hafter : isBlankText after = true) (s : String) : trim (before ++ s ++ after) = trim s := by
  rw [trim, trim, String.toList_append, String.toList_append, trimList_append hbefore hafter]

/-- Only blanks are taken off, at the two ends. -/
theorem exists_append_trim (s : String) :
    ∃ before after, isBlankText before = true ∧ isBlankText after = true ∧
      s = before ++ trim s ++ after := by
  let before := s.toList.takeWhile isBlank
  let after := (trimStartList s.toList).rtakeWhile isBlank
  have hbefore : before.all isBlank = true := List.all_takeWhile
  have hafter : after.all isBlank = true := List.all_eq_true.mpr fun c hc => List.mem_rtakeWhile_imp hc
  have hsplit : s.toList = before ++ trimList s.toList ++ after := by
    have hend : trimList s.toList ++ after = trimStartList s.toList :=
      List.rdropWhile_append_rtakeWhile
    rw [List.append_assoc, hend]
    exact List.takeWhile_append_dropWhile.symm
  refine ⟨String.ofList before, String.ofList after, ?_, ?_, ?_⟩
  · rw [isBlankText, String.toList_ofList, hbefore]
  · rw [isBlankText, String.toList_ofList, hafter]
  · rw [trim, ← String.ofList_append, ← String.ofList_append, ← hsplit, String.ofList_toList]

/-- No blank is left at the end. -/
theorem isBlank_of_getLast?_trim {s : String} {c : Char} (h : (trim s).toList.getLast? = some c) :
    isBlank c = false := by
  rw [toList_trim] at h
  have hne : trimList s.toList ≠ [] := List.ne_nil_of_mem (List.mem_of_getLast? h)
  have hlast : ¬isBlank ((trimList s.toList).getLast hne) = true :=
    List.rdropWhile_last_not isBlank _ hne
  rw [List.getLast?_eq_some_getLast hne, Option.some.injEq] at h
  rw [← h]
  exact Bool.eq_false_of_not_eq_true hlast

/-- No blank is left at the beginning. -/
theorem isBlank_of_head?_trim {s : String} {c : Char} (h : (trim s).toList.head? = some c) :
    isBlank c = false := by
  rw [toList_trim] at h
  obtain ⟨rest, hrest⟩ := List.head?_eq_some_iff.mp h
  -- what is left without the blanks at the end begins as it did with them
  obtain ⟨after, hafter⟩ : trimList s.toList <+: trimStartList s.toList := List.rdropWhile_prefix isBlank _
  have hstart : s.toList.dropWhile isBlank = c :: (rest ++ after) := by
    show trimStartList s.toList = _
    rw [← hafter, hrest, List.cons_append]
  have hfirst := List.head?_dropWhile_not isBlank s.toList
  rw [hstart] at hfirst
  exact hfirst

/-! ### Spelling -/

/-- A text without blanks at its ends and in small letters. -/
def wording (s : String) : List Char := lowerList (trimList s.toList)

theorem sameFolded_trim_iff {a b : String} :
    sameFolded (trim a) (trim b) = true ↔ wording a = wording b := by
  rw [sameFolded_iff, toList_trim, toList_trim, wording, wording]

/-- A text is spelled otherwise: in letters of another case, or with blanks around it. -/
inductive Respelled : String → String → Prop
  | folded {a b : String} (h : sameFolded a b = true) : Respelled a b
  | padded (a : String) {before after : String} (hbefore : isBlankText before = true)
      (hafter : isBlankText after = true) : Respelled a (before ++ a ++ after)

theorem Respelled.wording_eq {a b : String} (h : Respelled a b) : wording b = wording a := by
  cases h with
  | folded h => rw [wording, wording, lowerList_trimList, lowerList_trimList, sameFolded_iff.mp h]
  | padded hbefore hafter =>
    rw [wording, wording, String.toList_append, String.toList_append, trimList_append hbefore hafter]

/-- Changes of spelling, made or unmade in turn, leave the wording alone. -/
theorem wording_eq_of_eqvGen {a b : String} (h : Relation.EqvGen Respelled a b) :
    wording b = wording a := by
  induction h with
  | rel a b h => exact h.wording_eq
  | refl a => rfl
  | symm a b _ ih => exact ih.symm
  | trans a b c _ _ ih ih' => exact ih'.trans ih

/-! ### Beginnings -/

/-- An octet that is an ASCII capital, made small. -/
def foldOctet (o : UInt8) : UInt8 := if 65 ≤ o.toNat ∧ o.toNat ≤ 90 then UInt8.ofNat (o.toNat + 32) else o

/-- The octets of a text in UTF-8, with ASCII capitals made small. -/
def foldedOctets (s : String) : List UInt8 := s.toUTF8.toList.map foldOctet

theorem map_foldOctet_utf8EncodeChar (c : Char) :
    (String.utf8EncodeChar c).map foldOctet = String.utf8EncodeChar (lower c) := by
  by_cases hascii : c.toNat ≤ 127
  · have hlower : (lower c).toNat ≤ 127 := by
      rw [toNat_lower]
      split <;> omega
    rw [← octets_eq, ← octets_eq, octets_of_ascii hascii,
      octets_of_ascii hlower, toNat_lower, List.map_singleton, foldOctet, UInt8.toNat_ofNat']
    have hsmall : c.toNat % 2 ^ 8 = c.toNat := by omega
    rw [hsmall]
    split <;> rfl
  · rw [lower_of_small (by omega)]
    refine (List.map_congr_left fun o ho => ?_).trans (List.map_id _)
    rw [foldOctet, if_neg]
    · rfl
    · intro hcapital
      rw [← octets_eq] at ho
      have hsame := toNat_of_mem_octets ho (by omega)
      omega

theorem foldedOctets_eq (s : String) :
    foldedOctets s = (lowerList s.toList).flatMap String.utf8EncodeChar := by
  rw [foldedOctets, toUTF8_toList, List.map_flatMap, lowerList, List.flatMap_map]
  simp only [map_foldOctet_utf8EncodeChar]

/-- **A text begins with another**, up to ASCII case, exactly if its octets do. -/
theorem startsFolded_iff_octets {start s : String} :
    startsFolded start s = true ↔ foldedOctets start <+: foldedOctets s := by
  rw [foldedOctets_eq, foldedOctets_eq, flatMap_utf8EncodeChar_prefix_iff, startsFolded,
    List.isPrefixOf_iff_prefix]

/-- A text that begins with another can be cut there: it is long enough, and no character is divided. -/
theorem exists_append_of_startsFolded {start s : String} (h : startsFolded start s = true) :
    ∃ head tail, s = head ++ tail ∧ sameFolded head start = true ∧
      head.utf8ByteSize = start.utf8ByteSize := by
  obtain ⟨more, hmore⟩ := List.isPrefixOf_iff_prefix.mp h
  obtain ⟨head, tail, hs, hhead, -⟩ := List.map_eq_append_iff.mp hmore.symm
  have hsame : sameFolded (String.ofList head) start = true := by
    rw [sameFolded_iff, String.toList_ofList]
    exact hhead
  refine ⟨String.ofList head, String.ofList tail, ?_, hsame, ?_⟩
  · rw [← String.ofList_append, ← hs, String.ofList_toList]
  · have hsize : ∀ t : String, t.utf8ByteSize = (foldedOctets t).length := by
      intro t
      rw [foldedOctets, List.length_map, toList_eq]
      rfl
    rw [hsize, hsize, foldedOctets_eq, foldedOctets_eq, sameFolded_iff.mp hsame]

end LoadBalancer.Text

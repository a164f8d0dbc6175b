import Mathlib
import LoadBalancer.Proofs.Text.Octets
import LoadBalancer.Url.Percent

/-!
# Laws of percent-encoding

What an encoded text looks like, and which characters a decoded one keeps.

* `Shows`, `forall_mem_encode` – an encoded text has characters that the set shows, and triples;
* `length_le_encode` – encoding makes no text shorter;
* `exists_triple_of_encode_ne` – a text that is not its own code has a triple of some octet in it;
* `mem_decode` – characters that are no part of triples are still there after decoding.
-/

namespace LoadBalancer.Url.Percent

open LoadBalancer.Text

/-! ### Encoding -/

/-- The character is shown as it is. -/
def Shows (set : Char → Bool) (c : Char) : Prop := set c = false ∧ c.toNat ≤ 0x7F

theorem encodeChar_of_shows {set : Char → Bool} {c : Char} (h : Shows set c) :
    encodeChar set c = [c] := by
  have hn : ¬0x7F < c.toNat := not_lt.mpr h.2
  simp [encodeChar, h.1, hn]

theorem encodeChar_of_not_shows {set : Char → Bool} {c : Char} (h : ¬Shows set c) :
    encodeChar set c = (octets c).flatMap triple := by
  have hc : (set c || decide (0x7F < c.toNat)) = true := by
    by_contra hnot
    simp only [Bool.or_eq_true, decide_eq_true_eq, not_or, Bool.not_eq_true, not_lt] at hnot
    exact h hnot
  rw [encodeChar, if_pos hc]
  rfl

theorem octets_ne_nil (c : Char) : octets c ≠ [] := by
  rw [octets_eq]
  simp only [String.utf8EncodeChar]
  repeat' split
  all_goals simp

/-- **The characters of an encoded text** are shown ones of the text itself, and those of triples. -/
theorem forall_mem_encode {set : Char → Bool} {s : List Char} {P : Char → Prop}
    (hs : ∀ c ∈ s, Shows set c → P c) (hsign : P '%') (hdigit : ∀ n < 16, P (hexDigit n)) :
    ∀ c ∈ encode set s, P c := by
  intro c hc
  obtain ⟨d, hd, hcd⟩ := List.mem_flatMap.mp hc
  by_cases hshown : Shows set d
  · rw [encodeChar_of_shows hshown, List.mem_singleton] at hcd
    rw [hcd]
    exact hs d hd hshown
  · rw [encodeChar_of_not_shows hshown] at hcd
    obtain ⟨o, -, hco⟩ := List.mem_flatMap.mp hcd
    have ho := o.toNat_lt
    simp only [triple, List.mem_cons, List.not_mem_nil, or_false] at hco
    rcases hco with rfl | rfl | rfl
    · exact hsign
    · exact hdigit _ (by omega)
    · exact hdigit _ (by omega)

/-- Encoding makes no text shorter. -/
theorem length_le_encode (set : Char → Bool) (s : List Char) : s.length ≤ (encode set s).length := by
  induction s with
  | nil => simp
  | cons c rest ih =>
      have hone : 1 ≤ (encodeChar set c).length := by
        by_cases hc : Shows set c
        · rw [encodeChar_of_shows hc]
          rfl
        · obtain ⟨o, os, hos⟩ := List.exists_cons_of_ne_nil (octets_ne_nil c)
          rw [encodeChar_of_not_shows hc, hos, List.flatMap_cons, List.length_append]
          have htriple : (triple o).length = 3 := rfl
          omega
      rw [encode_cons, List.length_cons, List.length_append]
      omega

/-- A text that is not shown as it is has a triple in its code, of an octet that no shown character
is. -/
theorem exists_triple_of_encode_ne {set : Char → Bool} {s : List Char} (h : encode set s ≠ s) :
    ∃ o front back, encode set s = front ++ (triple o ++ back) ∧
      ∀ c, Shows set c → c.toNat ≠ o.toNat := by
  obtain ⟨c, hc, hhidden⟩ : ∃ c ∈ s, ¬Shows set c := by
    by_contra hnone
    push Not at hnone
    exact h (encode_eq_self hnone)
  obtain ⟨front, back, rfl⟩ := List.append_of_mem hc
  obtain ⟨o, os, hos⟩ := List.exists_cons_of_ne_nil (octets_ne_nil c)
  refine ⟨o, encode set front, os.flatMap triple ++ encode set back, ?_, ?_⟩
  · rw [encode_append, encode_cons, encodeChar_of_not_shows hhidden, hos, List.flatMap_cons,
      List.append_assoc]
  · intro d hd heq
    have ho : o.toNat < 0x80 := by
      rw [← heq]
      exact Nat.lt_succ_of_le hd.2
    have hcd : c.toNat = o.toNat := toNat_of_mem_octets (by rw [hos]; exact List.mem_cons_self) ho
    have hsame : c = d := Char.toNat_inj.mp (hcd.trans heq.symm)
    exact hhidden (hsame ▸ hd)

/-! ### Decoding -/

/-- An ASCII character that is no part of a triple is among the octets that a text stands for. -/
theorem mem_decode {c : Char} (hascii : c.toNat ≤ 0x7F) (hsign : c ≠ '%') (hdigit : hexDigit? c = none)
    {s : List Char} (h : c ∈ s) : UInt8.ofNat c.toNat ∈ decode s := by
  fun_induction decode s with
  | case1 a b rest x y hb ha ih =>
      -- neither the sign nor one of its two digits is the character
      simp only [List.mem_cons, hsign, false_or] at h
      rcases h with rfl | rfl | hrest
      · rw [hdigit] at ha
        cases ha
      · rw [hdigit] at hb
        cases hb
      · exact List.mem_cons_of_mem _ (ih hrest)
  | case2 a b rest hnot ih =>
      refine List.mem_cons_of_mem _ (ih ?_)
      simpa only [List.mem_cons, hsign, false_or] using h
  | case3 d rest hnot ih =>
      rcases List.mem_cons.mp h with rfl | hrest
      · refine List.mem_append_left _ ?_
        show _ ∈ octets c
        rw [octets_of_ascii hascii]
        exact List.mem_singleton.mpr rfl
      · exact List.mem_append_right _ (ih hrest)
  | case4 => cases h

end LoadBalancer.Url.Percent

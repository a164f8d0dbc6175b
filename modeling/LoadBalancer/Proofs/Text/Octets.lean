import Mathlib

/-!
# Laws of UTF-8

What the octets of a text say about its characters.

* `octets_of_ascii`, `toNat_of_mem_octets` – octets below 0x80 are the ASCII characters;
* `toUTF8_toList`, `exists_mem_of_fromUTF8` – the octets of a text are those of its characters, in order;
* `flatMap_utf8EncodeChar_prefix_iff` – octets begin like other octets exactly if the characters do.
-/

namespace LoadBalancer.Text

/-! ### Lists of octets -/

theorem toList_loop (bs : ByteArray) (i : Nat) (r : List UInt8) :
    ByteArray.toList.loop bs i r = r.reverse ++ bs.data.toList.drop i := by
  induction hn : bs.size - i generalizing i r with
  | zero =>
      have hi : ¬i < bs.size := by omega
      have hdrop : bs.data.toList.drop i = [] := by
        rw [List.drop_eq_nil_iff]
        show bs.size ≤ i
        omega
      rw [ByteArray.toList.loop, if_neg hi, hdrop, List.append_nil]
  | succ n ih =>
      have hi : i < bs.size := by omega
      have hi' : i < bs.data.toList.length := hi
      rw [ByteArray.toList.loop, if_pos hi, ih (i + 1) _ (by omega),
        List.drop_eq_getElem_cons hi', List.reverse_cons, List.append_assoc]
      have hget : bs.get! i = bs.data.toList[i] := by
        show bs.data[i]! = _
        rw [getElem!_pos bs.data i hi]
        rfl
      rw [hget]
      rfl

theorem toList_eq (bs : ByteArray) : bs.toList = bs.data.toList := by
  rw [ByteArray.toList, toList_loop]
  rfl

/-! ### Characters -/

/-- The octets of one character. -/
def octets (c : Char) : List UInt8 := (String.singleton c).toUTF8.toList

theorem octets_eq (c : Char) : octets c = String.utf8EncodeChar c := by
  rw [octets, toList_eq, String.toUTF8_eq_toByteArray, String.toByteArray_singleton,
    List.utf8Encode_singleton, List.toList_data_toByteArray]

theorem octets_of_ascii {c : Char} (h : c.toNat ≤ 0x7F) : octets c = [UInt8.ofNat c.toNat] := by
  have hv : c.val.toNat ≤ 127 := h
  rw [octets_eq]
  simp only [String.utf8EncodeChar, hv, if_true]
  rfl

/-- Only an ASCII character has an octet below 0x80: itself. -/
theorem toNat_of_mem_octets {c : Char} {o : UInt8} (h : o ∈ octets c) (ho : o.toNat < 0x80) :
    c.toNat = o.toNat := by
  rw [octets_eq] at h
  simp only [String.utf8EncodeChar] at h
  have hsize : c.val.toNat < 1114112 := by
    rcases c.valid with hc | hc
    · have : c.val.toNat < 55296 := hc
      omega
    · exact hc.2
  split at h
  · rw [List.mem_singleton.mp h, UInt8.toNat_ofNat']
    show c.val.toNat = _
    omega
  · exfalso
    split at h
    · simp only [List.mem_cons, List.not_mem_nil, or_false] at h
      rcases h with rfl | rfl <;> simp only [UInt8.toNat_ofNat'] at ho <;> omega
    · split at h
      · simp only [List.mem_cons, List.not_mem_nil, or_false] at h
        rcases h with rfl | rfl | rfl <;> simp only [UInt8.toNat_ofNat'] at ho <;> omega
      · simp only [List.mem_cons, List.not_mem_nil, or_false] at h
        rcases h with rfl | rfl | rfl | rfl <;> simp only [UInt8.toNat_ofNat'] at ho <;> omega

/-! ### Texts -/

theorem toUTF8_toList (s : String) : s.toUTF8.toList = s.toList.flatMap String.utf8EncodeChar := by
  rw [toList_eq, String.toUTF8_eq_toByteArray, ← String.utf8Encode_toList, List.utf8Encode,
    List.toList_data_toByteArray]

/-- A text that octets stand for has a character for every one of them. -/
theorem exists_mem_of_fromUTF8 {os : List UInt8} {t : String}
    (h : String.fromUTF8? ⟨os.toArray⟩ = some t) {o : UInt8} (ho : o ∈ os) :
    ∃ c ∈ t.toList, o ∈ octets c := by
  unfold String.fromUTF8? at h
  split at h
  · rename_i hvalid
    have ht : t.toByteArray = ⟨os.toArray⟩ := by
      rw [← Option.some.inj h]
      rfl
    rw [← String.utf8Encode_toList, List.utf8Encode] at ht
    have hos : t.toList.flatMap String.utf8EncodeChar = os := by
      have hdata := congrArg (fun bs : ByteArray => bs.data.toList) ht
      simpa only [List.toList_data_toByteArray] using hdata
    rw [← hos] at ho
    obtain ⟨c, hc, hoc⟩ := List.mem_flatMap.mp ho
    exact ⟨c, hc, by rw [octets_eq]; exact hoc⟩
  · cases h

/-! ### Beginnings -/

/-- No character begins like another. -/
theorem utf8EncodeChar_append_inj {c d : Char} {s t : List UInt8}
    (h : String.utf8EncodeChar c ++ s = String.utf8EncodeChar d ++ t) : c = d ∧ s = t := by
  have hdecode : ∀ (c : Char) (s : List UInt8),
      (String.utf8EncodeChar c ++ s).toByteArray.utf8DecodeChar? 0 = some c := by
    intro c s
    rw [List.toByteArray_append]
    exact ByteArray.utf8DecodeChar?_utf8EncodeChar_append
  have hc := hdecode c s
  rw [h, hdecode d t] at hc
  obtain rfl := Option.some.inj hc
  exact ⟨rfl, List.append_cancel_left h⟩

/-- Octets begin like other octets exactly if the characters do. -/
theorem flatMap_utf8EncodeChar_prefix_iff {s t : List Char} :
    s.flatMap String.utf8EncodeChar <+: t.flatMap String.utf8EncodeChar ↔ s <+: t := by
  constructor
  · intro h
    induction s generalizing t with
    | nil => exact List.nil_prefix
    | cons c rest ih =>
      obtain ⟨more, hmore⟩ := h
      rw [List.flatMap_cons, List.append_assoc] at hmore
      cases t with
      | nil =>
        have hlength := congrArg List.length hmore
        rw [List.length_append, String.length_utf8EncodeChar] at hlength
        have hpos := Char.utf8Size_pos c
        simp only [List.flatMap_nil, List.length_nil] at hlength
        omega
      | cons d later =>
        rw [List.flatMap_cons] at hmore
        obtain ⟨rfl, hrest⟩ := utf8EncodeChar_append_inj hmore
        exact List.cons_prefix_cons.mpr ⟨rfl, ih ⟨more, hrest⟩⟩
  · rintro ⟨more, rfl⟩
    rw [List.flatMap_append]
    exact List.prefix_append _ _

end LoadBalancer.Text

import Mathlib
import LoadBalancer.Net.Endpoint
import LoadBalancer.Proofs.Text.Cut
import LoadBalancer.Proofs.Text.Numeral

/-!
# Laws of addresses and endpoints

The characters of written addresses, and written addresses and endpoints that are read again.

* `mem_of_read_ipv4`, `mem_of_read_ipv6` – the characters of written addresses;
* `Ipv4.read_text` – every address of version 4 is read as it was written;
* `Ipv6.longestRun_spec` – the groups that the compressed form leaves out are zero;
* `Ipv6.read_text`, `Ipv6.read_mappedText` – the same for version 6, in both of its forms;
* `Endpoint.read_text` – every endpoint is read as it was written.
-/

namespace LoadBalancer.Net

open LoadBalancer.Text

/-! ### Written addresses -/

/-- The characters of addresses: digits, dots and colons. -/
def isAddressChar (c : Char) : Bool := (hexDigit? c).isSome || c == '.' || c == ':'

theorem isAddressChar_of_digit? {c : Char} (h : (digit? c).isSome = true) : isAddressChar c = true := by
  have hhex : (hexDigit? c).isSome = true := by
    unfold digit? at h
    unfold hexDigit?
    split at h
    · rename_i hc
      rw [if_pos hc]
      rfl
    · cases h
  simp [isAddressChar, hhex]

theorem isSome_digit?_of_readDigits {bound n v : Nat} {s : List Char}
    (h : readDigits bound n s = .ok v) : ∀ c ∈ s, (digit? c).isSome = true := by
  induction s generalizing n with
  | nil =>
      intro c hc
      cases hc
  | cons d rest ih =>
      intro c hc
      simp only [readDigits] at h
      split at h
      · cases h
      · rename_i k hk
        split at h
        · rcases List.mem_cons.mp hc with rfl | hrest
          · rw [hk]
            rfl
          · exact ih h c hrest
        · cases h

theorem mem_of_readOctet {s : List Char} {o : UInt8} (h : Ipv4.readOctet s = some o) :
    ∀ c ∈ s, isAddressChar c = true := by
  unfold Ipv4.readOctet at h
  split at h
  · cases h
  · cases h
  · split at h
    · rename_i n heq
      intro c hc
      exact isAddressChar_of_digit? (isSome_digit?_of_readDigits heq c hc)
    · cases h

theorem mem_of_read_ipv4 {s : List Char} {ip : Ipv4} (h : Ipv4.read s = some ip) :
    ∀ c ∈ s, isAddressChar c = true := by
  unfold Ipv4.read at h
  split at h
  · rename_i w x y z heq
    obtain ⟨a, ha, h⟩ := Option.bind_eq_some_iff.mp h
    obtain ⟨b, hb, h⟩ := Option.bind_eq_some_iff.mp h
    obtain ⟨k, hk, h⟩ := Option.bind_eq_some_iff.mp h
    obtain ⟨d, hd, -⟩ := Option.bind_eq_some_iff.mp h
    intro c hc
    rcases mem_fields '.' hc with rfl | ⟨piece, hpiece, hcp⟩
    · decide
    · rw [heq] at hpiece
      simp only [List.mem_cons, List.not_mem_nil, or_false] at hpiece
      rcases hpiece with rfl | rfl | rfl | rfl
      · exact mem_of_readOctet ha c hcp
      · exact mem_of_readOctet hb c hcp
      · exact mem_of_readOctet hk c hcp
      · exact mem_of_readOctet hd c hcp
  · cases h

theorem mem_of_readGroup {s : List Char} {g : UInt16} (h : Ipv6.readGroup s = some g) :
    ∀ c ∈ s, isAddressChar c = true := by
  simp only [Ipv6.readGroup] at h
  split at h
  · cases h
  · split at h
    · rename_i hall
      intro c hc
      have hsome := List.all_eq_true.mp hall _ (List.mem_map_of_mem hc)
      simp [isAddressChar, hsome]
    · cases h

theorem mem_of_readPieces {dotted : Bool} {pieces : List (List Char)} {gs : List UInt16}
    (h : Ipv6.readPieces dotted pieces = some gs) :
    ∀ piece ∈ pieces, ∀ c ∈ piece, isAddressChar c = true := by
  induction pieces generalizing gs with
  | nil =>
      intro piece hpiece
      cases hpiece
  | cons first rest ih =>
      cases rest with
      | nil =>
          intro piece hpiece
          rw [List.mem_singleton.mp hpiece]
          simp only [Ipv6.readPieces] at h
          split at h
          · rename_i g hg
            exact mem_of_readGroup hg
          · split at h
            · obtain ⟨ip, hip, -⟩ := Option.map_eq_some_iff.mp h
              exact mem_of_read_ipv4 hip
            · cases h
      | cons second others =>
          simp only [Ipv6.readPieces] at h
          obtain ⟨g, hg, h⟩ := Option.bind_eq_some_iff.mp h
          obtain ⟨gs', hgs, -⟩ := Option.bind_eq_some_iff.mp h
          intro piece hpiece
          rcases List.mem_cons.mp hpiece with rfl | hpiece
          · exact mem_of_readGroup hg
          · exact ih hgs piece hpiece

theorem mem_of_readPieces_fields {dotted : Bool} {s : List Char} {gs : List UInt16}
    (h : Ipv6.readPieces dotted (fields ':' s) = some gs) : ∀ c ∈ s, isAddressChar c = true := by
  intro c hc
  rcases mem_fields ':' hc with rfl | ⟨piece, hpiece, hcp⟩
  · decide
  · exact mem_of_readPieces h piece hpiece c hcp

theorem mem_of_readSide {dotted : Bool} {s : List Char} {gs : List UInt16}
    (h : Ipv6.readSide dotted s = some gs) : ∀ c ∈ s, isAddressChar c = true := by
  unfold Ipv6.readSide at h
  split at h
  · rename_i hempty
    rw [List.isEmpty_iff.mp hempty]
    intro c hc
    cases hc
  · exact mem_of_readPieces_fields h

theorem cutDouble_eq {s left right : List Char} (h : Ipv6.cutDouble s = some (left, right)) :
    s = left ++ ':' :: ':' :: right := by
  fun_induction Ipv6.cutDouble s generalizing left with
  | case1 rest =>
      cases h
      rfl
  | case2 c rest hnot ih =>
      obtain ⟨⟨l, r⟩, hcut, heq⟩ := Option.map_eq_some_iff.mp h
      obtain ⟨rfl, rfl⟩ := Prod.mk.inj heq
      rw [ih hcut, List.cons_append]
  | case3 => cases h

theorem mem_of_read_ipv6 {s : List Char} {ip : Ipv6} (h : Ipv6.read s = some ip) :
    ∀ c ∈ s, isAddressChar c = true := by
  unfold Ipv6.read at h
  split at h
  · obtain ⟨gs, hgs, -⟩ := Option.bind_eq_some_iff.mp h
    exact mem_of_readPieces_fields hgs
  · rename_i left right heq
    obtain ⟨front, hfront, h⟩ := Option.bind_eq_some_iff.mp h
    obtain ⟨back, hback, -⟩ := Option.bind_eq_some_iff.mp h
    intro c hc
    rw [cutDouble_eq heq] at hc
    simp only [List.mem_append, List.mem_cons] at hc
    rcases hc with hc | rfl | rfl | hc
    · exact mem_of_readSide hfront c hc
    · decide
    · decide
    · exact mem_of_readSide hback c hc

/-! ### Version 4 -/

namespace Ipv4

/-- An octet is written without leading zeros, and is read again. -/
theorem readOctet_toDigits (o : UInt8) : readOctet (Nat.toDigits 10 o.toNat) = some o := by
  have hall : ∀ n < 256, readOctet (Nat.toDigits 10 n) = some (UInt8.ofNat n) := by decide +kernel
  rw [hall o.toNat o.toNat_lt, UInt8.ofNat_toNat]

/-- The four octets of the dotted form. -/
theorem toList_text (ip : Ipv4) :
    ip.text.toList = joinWith '.' [Nat.toDigits 10 ip.a.toNat, Nat.toDigits 10 ip.b.toNat,
      Nat.toDigits 10 ip.c.toNat, Nat.toDigits 10 ip.d.toNat] := by
  have hdot : (toString ".").toList = ['.'] := rfl
  simp [text, joinWith, Nat.toList_repr, hdot]

theorem notMem_text {ip : Ipv4} {c : Char} (hc : c.isDigit = false) (hdot : c ≠ '.') :
    c ∉ ip.text.toList := by
  rw [toList_text]
  simp [joinWith, notMem_toDigits hc, hdot]

/-- **Addresses of version 4 are read as they were written.** -/
theorem read_text (ip : Ipv4) : read ip.text.toList = some ip := by
  have hfields : fields '.' ip.text.toList = [Nat.toDigits 10 ip.a.toNat,
      Nat.toDigits 10 ip.b.toNat, Nat.toDigits 10 ip.c.toNat, Nat.toDigits 10 ip.d.toNat] := by
    rw [toList_text]
    refine fields_joinWith (List.cons_ne_nil _ _) fun piece hpiece => ?_
    simp only [List.mem_cons, List.not_mem_nil, or_false] at hpiece
    rcases hpiece with rfl | rfl | rfl | rfl <;> exact notMem_toDigits (by decide)
  unfold read
  rw [hfields]
  simp only [readOctet_toDigits, Option.bind_eq_bind, Option.bind_some]
  rfl

end Ipv4

/-! ### Version 6 -/

namespace Ipv6

/-- The digits of a group. -/
def groupDigits (g : UInt16) : List Char := Nat.toDigits 16 g.toNat

theorem groupDigits_ne_nil (g : UInt16) : groupDigits g ≠ [] := Nat.toDigits_ne_nil

theorem notMem_groupDigits {g : UInt16} {c : Char} (hc : hexDigit? c = none) : c ∉ groupDigits g := by
  intro hmem
  have hsome := hexDigit?_isSome_of_mem_toDigits hmem
  rw [hc] at hsome
  cases hsome

theorem readGroup_groupDigits (g : UInt16) : readGroup (groupDigits g) = some g := by
  have hempty : (groupDigits g).isEmpty = false := by simpa using groupDigits_ne_nil g
  have hlength : ¬4 < (groupDigits g).length := Nat.not_lt.mpr (length_toDigits_sixteen g.toNat_lt)
  have hall : ((groupDigits g).map hexDigit?).all Option.isSome = true := by
    refine List.all_eq_true.mpr fun d hd => ?_
    obtain ⟨c, hc, rfl⟩ := List.mem_map.mp hd
    exact hexDigit?_isSome_of_mem_toDigits hc
  unfold readGroup
  simp only [hempty, hlength, decide_false, Bool.or_self, Bool.false_eq_true, if_false, hall, if_true]
  rw [groupDigits, foldl_hexDigit?_toDigits, UInt16.ofNat_toNat]

theorem readPieces_groupDigits (dotted : Bool) (gs : List UInt16) :
    readPieces dotted (gs.map groupDigits) = some gs := by
  induction gs with
  | nil => rfl
  | cons g rest ih =>
    cases rest with
    | nil => simp [readPieces, readGroup_groupDigits]
    | cons next others =>
      show ((readGroup (groupDigits g)).bind fun x =>
        (readPieces dotted ((next :: others).map groupDigits)).bind fun xs => some (x :: xs)) = _
      rw [readGroup_groupDigits, ih]
      rfl

theorem toList_hexGroups (gs : List UInt16) :
    (hexGroups gs).toList = joinWith ':' (gs.map groupDigits) := by
  unfold hexGroups
  rw [String.toList_intercalate, List.map_map, show ":".toList = [':'] from rfl,
    intercalate_eq_joinWith]
  congr 1
  exact List.map_congr_left fun g _ => String.toList_ofList

theorem readPieces_hexGroups (dotted : Bool) {gs : List UInt16} (h : gs ≠ []) :
    readPieces dotted (fields ':' (hexGroups gs).toList) = some gs := by
  have hfields : fields ':' (joinWith ':' (gs.map groupDigits)) = gs.map groupDigits := by
    refine fields_joinWith (by simpa using h) fun piece hpiece => ?_
    obtain ⟨x, -, rfl⟩ := List.mem_map.mp hpiece
    exact notMem_groupDigits (by decide)
  rw [toList_hexGroups, hfields]
  exact readPieces_groupDigits dotted gs

/-- A side of the compressed form, which may be empty. -/
theorem readSide_hexGroups (dotted : Bool) (gs : List UInt16) :
    readSide dotted (hexGroups gs).toList = some gs := by
  cases gs with
  | nil => rfl
  | cons g rest =>
    obtain ⟨t, ht, -⟩ := exists_joinWith_cons ':' (groupDigits g) (rest.map groupDigits)
    have hempty : (hexGroups (g :: rest)).toList.isEmpty = false := by
      rw [toList_hexGroups, List.map_cons, ht, List.isEmpty_eq_false_iff]
      exact List.append_ne_nil_of_left_ne_nil (groupDigits_ne_nil g) t
    unfold readSide
    rw [hempty]
    exact readPieces_hexGroups dotted (List.cons_ne_nil g rest)

/-! #### The first double colon -/

theorem cutDouble_append {s : List Char} (h : ':' ∉ s) (t : List Char) :
    cutDouble (s ++ t) = (cutDouble t).map fun p => (s ++ p.1, p.2) := by
  induction s with
  | nil => simp
  | cons c rest ih =>
    have hc : c ≠ ':' := fun heq => h (by simp [heq])
    have hrest : ':' ∉ rest := fun hmem => h (List.mem_cons_of_mem _ hmem)
    rw [List.cons_append, cutDouble]
    · rw [ih hrest, Option.map_map]
      rfl
    · rintro _ rfl
      exact absurd rfl hc

theorem cutDouble_colon {c : Char} (h : c ≠ ':') (t : List Char) :
    cutDouble (':' :: c :: t) = (cutDouble (c :: t)).map fun p => (':' :: p.1, p.2) := by
  rw [cutDouble]
  intro rest _ heq
  exact absurd (List.cons.inj heq).1 h

/-- Pieces with one colon between them have no double colon. -/
theorem cutDouble_joinWith {pieces : List (List Char)} (h : ∀ p ∈ pieces, p ≠ [] ∧ ':' ∉ p)
    (t : List Char) :
    cutDouble (joinWith ':' pieces ++ t) =
      (cutDouble t).map fun p => (joinWith ':' pieces ++ p.1, p.2) := by
  induction pieces with
  | nil => simp [joinWith]
  | cons piece rest ih =>
    have hpiece := h piece List.mem_cons_self
    have hrest : ∀ p ∈ rest, p ≠ [] ∧ ':' ∉ p := fun p hp => h p (List.mem_cons_of_mem _ hp)
    cases rest with
    | nil => exact cutDouble_append hpiece.2 t
    | cons next others =>
      obtain ⟨hne, hcolon⟩ := hrest next List.mem_cons_self
      obtain ⟨c, cs, rfl⟩ := List.exists_cons_of_ne_nil hne
      obtain ⟨u, hu, -⟩ := exists_joinWith_cons ':' (c :: cs) others
      have hc : c ≠ ':' := fun heq => hcolon (by simp [heq])
      have hafter := ih hrest
      rw [joinWith_cons (List.cons_ne_nil _ _), List.append_assoc, cutDouble_append hpiece.2,
        List.cons_append]
      rw [hu] at hafter ⊢
      rw [List.append_assoc, List.cons_append] at hafter ⊢
      rw [cutDouble_colon hc, hafter]
      cases cutDouble t with
      | none => rfl
      | some p => simp

/-! #### The compressed form -/

theorem zeroRun_spec (gs : List UInt16) :
    gs = List.replicate (zeroRun gs) 0 ++ gs.drop (zeroRun gs) := by
  induction gs with
  | nil => rfl
  | cons g rest ih =>
    by_cases hg : g = 0
    · subst hg
      show 0 :: rest = 0 :: (List.replicate (zeroRun rest) 0 ++ rest.drop (zeroRun rest))
      rw [← ih]
    · have hrun : zeroRun (g :: rest) = 0 := by
        unfold zeroRun
        split
        · rename_i heq
          exact absurd (List.cons.inj heq).1 hg
        · rfl
      rw [hrun]
      rfl

/-- The groups of a longest run are zero; the run begins behind those in front of it. -/
theorem longestRun_spec (i : Nat) (gs : List UInt16) :
    ∃ front back, gs = front ++ (List.replicate (longestRun i gs).2 0 ++ back) ∧
      (0 < (longestRun i gs).2 → (longestRun i gs).1 = i + front.length) := by
  induction gs generalizing i with
  | nil => exact ⟨[], [], rfl, fun h => absurd h (lt_irrefl 0)⟩
  | cons g rest ih =>
    unfold longestRun
    dsimp only
    split
    · exact ⟨[], _, zeroRun_spec (g :: rest), fun _ => rfl⟩
    · obtain ⟨front, back, hrest, hstart⟩ := ih (i + 1)
      refine ⟨g :: front, back, ?_, ?_⟩
      · rw [List.cons_append, ← hrest]
      · intro hpos
        rw [hstart hpos, List.length_cons]
        omega

theorem ofGroups?_groups (ip : Ipv6) : ofGroups? ip.groups = some ip :=
  dif_pos ip.length_groups

/-- **Addresses of version 6 are read as they were written.** -/
theorem read_text (ip : Ipv6) : read ip.text.toList = some ip := by
  have hpieces : ∀ gs : List UInt16, ∀ p ∈ gs.map groupDigits, p ≠ [] ∧ ':' ∉ p := by
    intro gs p hp
    obtain ⟨g, -, rfl⟩ := List.mem_map.mp hp
    exact ⟨groupDigits_ne_nil g, notMem_groupDigits (by decide)⟩
  obtain ⟨front, back, hgroups, hstart⟩ := longestRun_spec 0 ip.groups
  unfold text
  dsimp only
  split
  · have hnone : cutDouble (hexGroups ip.groups).toList = none := by
      have hcut := cutDouble_joinWith (hpieces ip.groups) []
      rwa [List.append_nil, ← toList_hexGroups] at hcut
    have hgroups : ip.groups ≠ [] := by
      intro hnil
      have hlength := ip.length_groups
      rw [hnil] at hlength
      cases hlength
    unfold read
    rw [hnone]
    dsimp only
    rw [readPieces_hexGroups true hgroups]
    exact ofGroups?_groups ip
  · rename_i hlong
    have hrun : 2 ≤ (longestRun 0 ip.groups).2 := Nat.not_lt.mp hlong
    rw [hstart (by omega), Nat.zero_add]
    generalize (longestRun 0 ip.groups).2 = n at *
    have hlength := congrArg List.length hgroups
    rw [ip.length_groups, List.length_append, List.length_append, List.length_replicate] at hlength
    have htake : ip.groups.take front.length = front := by
      rw [hgroups, List.take_left]
    have hdrop : ip.groups.drop (front.length + n) = back := by
      rw [hgroups, ← List.append_assoc]
      exact List.drop_left' (by simp)
    have hcut : cutDouble (hexGroups front ++ "::" ++ hexGroups back).toList =
        some ((hexGroups front).toList, (hexGroups back).toList) := by
      rw [String.toList_append, String.toList_append, toList_hexGroups front, List.append_assoc,
        cutDouble_joinWith (hpieces front)]
      show some (_ ++ [], (hexGroups back).toList) = _
      rw [List.append_nil]
    rw [htake, hdrop]
    unfold read
    rw [hcut]
    dsimp only
    rw [readSide_hexGroups, readSide_hexGroups]
    simp only [Option.bind_eq_bind, Option.bind_some]
    rw [if_neg (by omega), show 8 - (front.length + back.length) = n by omega, List.append_assoc,
      ← hgroups]
    exact ofGroups?_groups ip

/-- The octets of a version 4 address that two groups stand for. -/
theorem groups_ofNat (hi lo : UInt16) :
    UInt16.ofNat ((Ipv4.ofNat (hi.toNat * 65536 + lo.toNat)).a.toNat * 256 +
        (Ipv4.ofNat (hi.toNat * 65536 + lo.toNat)).b.toNat) = hi ∧
      UInt16.ofNat ((Ipv4.ofNat (hi.toNat * 65536 + lo.toNat)).c.toNat * 256 +
        (Ipv4.ofNat (hi.toNat * 65536 + lo.toNat)).d.toNat) = lo := by
  have hhi := hi.toNat_lt
  have hlo := lo.toNat_lt
  constructor
  · apply UInt16.toNat_inj.mp
    simp only [Ipv4.ofNat, UInt8.toNat_ofNat', UInt16.toNat_ofNat']
    omega
  · apply UInt16.toNat_inj.mp
    simp only [Ipv4.ofNat, UInt8.toNat_ofNat', UInt16.toNat_ofNat']
    omega

/-- A dotted address is no group. -/
theorem readGroup_text (v4 : Ipv4) : readGroup v4.text.toList = none := by
  have hdot : '.' ∈ v4.text.toList := by
    rw [Ipv4.toList_text]
    simp [joinWith]
  have hall : (v4.text.toList.map hexDigit?).all Option.isSome = false := by
    rw [List.all_eq_false]
    exact ⟨none, List.mem_map.mpr ⟨'.', hdot, by decide⟩, by simp⟩
  unfold readGroup
  simp only [hall, Bool.false_eq_true, if_false, ite_self]

/-- The form with a dotted tail is read as the address, too. -/
theorem read_mappedText (ip : Ipv6) : read ip.mappedText.toList = some ip := by
  unfold mappedText
  cases hmapped : ip.mapped? with
  | none => exact read_text ip
  | some v4 =>
    obtain ⟨hi, lo, hgroups, rfl⟩ : ∃ hi lo, ip.groups = [0, 0, 0, 0, 0, 0xffff, hi, lo] ∧
        Ipv4.ofNat (hi.toNat * 65536 + lo.toNat) = v4 := by
      unfold mapped? at hmapped
      split at hmapped
      · rename_i hi lo heq
        exact ⟨hi, lo, heq, Option.some.inj hmapped⟩
      · cases hmapped
    obtain ⟨hfront, hback⟩ := groups_ofNat hi lo
    generalize Ipv4.ofNat (hi.toNat * 65536 + lo.toNat) = v4 at *
    have htail : ':' ∉ v4.text.toList := Ipv4.notMem_text (by decide) (by decide)
    have hfilled : ¬("ffff".toList ++ ':' :: v4.text.toList).isEmpty = true := by
      simp
    have hpieces : readPieces true (fields ':' ("ffff".toList ++ ':' :: v4.text.toList)) =
        some [0xffff, hi, lo] := by
      rw [fields_append, fields_of_notMem htail, fields_of_notMem (by decide)]
      show ((readGroup "ffff".toList).bind fun g =>
        (readPieces true [v4.text.toList]).bind fun gs => some (g :: gs)) = _
      rw [show readGroup "ffff".toList = some 0xffff from rfl]
      simp only [readPieces, readGroup_text, Ipv4.read_text, Option.map_some, hfront, hback]
      rfl
    have hcut : cutDouble ("::ffff:" ++ v4.text).toList =
        some ([], "ffff".toList ++ ':' :: v4.text.toList) := by
      rw [String.toList_append]
      rfl
    unfold read
    dsimp only
    rw [hcut]
    dsimp only
    rw [readSide, readSide, if_pos List.isEmpty_nil, if_neg hfilled, hpieces]
    simp only [Option.bind_eq_bind, Option.bind_some, List.length_nil, List.length_cons]
    rw [if_neg (by decide), List.nil_append]
    show ofGroups? [0, 0, 0, 0, 0, 0xffff, hi, lo] = some ip
    rw [← hgroups]
    exact ofGroups?_groups ip

end Ipv6

/-! ### Endpoints -/

namespace Endpoint

theorem readNumber_toDigits {bound n : Nat} (h : n < bound) :
    readNumber bound (Nat.toDigits 10 n) = some n := by
  have hempty : (Nat.toDigits 10 n).isEmpty = false := by simp
  unfold readNumber
  rw [hempty, readDigits_toDigits h]
  rfl

theorem readPort_toDigits (port : UInt16) : readPort (Nat.toDigits 10 port.toNat) = some port := by
  unfold readPort
  rw [readNumber_toDigits (show port.toNat < size16 from port.toNat_lt), Option.map_some,
    UInt16.ofNat_toNat]

/-- A character that no address of version 6 has. -/
theorem notMem_mappedText {ip : Ipv6} {c : Char} (hc : isAddressChar c = false) :
    c ∉ ip.mappedText.toList := by
  intro hmem
  rw [mem_of_read_ipv6 (Ipv6.read_mappedText ip) c hmem] at hc
  cases hc

/-- The scope, behind a percent sign; without one it is zero. -/
theorem readScoped_text (ip : Ipv6) (scope : UInt32) :
    readScoped (ip.mappedText.toList ++ if scope = 0 then [] else '%' :: Nat.toDigits 10 scope.toNat) =
      some (ip, scope) := by
  have hpercent : '%' ∉ ip.mappedText.toList := notMem_mappedText (by decide)
  unfold readScoped
  by_cases hscope : scope = 0
  · rw [if_pos hscope, List.append_nil, cutAt_eq_none_iff.mpr hpercent]
    dsimp only
    rw [Ipv6.read_mappedText, hscope]
    rfl
  · rw [if_neg hscope, cutAt_append hpercent]
    dsimp only
    rw [Ipv6.read_mappedText, readNumber_toDigits (show scope.toNat < size32 from scope.toNat_lt)]
    simp only [Option.bind_eq_bind, Option.bind_some, UInt32.ofNat_toNat]
    rfl

/-- **Endpoints are read as they were written.** -/
theorem read_text (e : Endpoint) : read e.text = some e := by
  cases e with
  | v4 ip port =>
    have htext : (Endpoint.v4 ip port).text.toList =
        ip.text.toList ++ ':' :: Nat.toDigits 10 port.toNat := by
      show (ip.text ++ ":" ++ port.toNat.repr).toList = _
      rw [String.toList_append, String.toList_append, Nat.toList_repr, List.append_assoc]
      rfl
    have hopen : ∀ rest, (Endpoint.v4 ip port).text.toList ≠ '[' :: rest := by
      intro rest heq
      have hmem : '[' ∈ (Endpoint.v4 ip port).text.toList := by rw [heq]; exact List.mem_cons_self
      rw [htext, List.mem_append, List.mem_cons] at hmem
      rcases hmem with h | h | h
      · exact Ipv4.notMem_text (by decide) (by decide) h
      · cases h
      · exact notMem_toDigits (by decide) h
    have hcolon : ':' ∉ ip.text.toList := Ipv4.notMem_text (by decide) (by decide)
    unfold read
    split
    · rename_i rest heq
      exact absurd heq (hopen rest)
    · rw [htext, cutAt_append hcolon]
      simp only [Option.bind_eq_bind, Option.bind_some, Ipv4.read_text, readPort_toDigits]
      rfl
  | v6 ip scope port =>
    have htext : (Endpoint.v6 ip scope port).text.toList = '[' ::
        ((ip.mappedText.toList ++ if scope = 0 then [] else '%' :: Nat.toDigits 10 scope.toNat) ++
          ']' :: ':' :: Nat.toDigits 10 port.toNat) := by
      unfold text
      by_cases hscope : scope = 0
      · simp [hscope, Nat.toList_repr]
        rfl
      · simp [hscope, Nat.toList_repr]
        rfl
    have haddress : ']' ∉ ip.mappedText.toList := notMem_mappedText (by decide)
    have hdigits : ']' ∉ Nat.toDigits 10 scope.toNat := notMem_toDigits (by decide)
    have hclose : ']' ∉ ip.mappedText.toList ++
        if scope = 0 then [] else '%' :: Nat.toDigits 10 scope.toNat := by
      split <;> simp [hdigits, haddress]
    unfold read
    split
    · rename_i rest heq
      obtain rfl := (List.cons.inj (htext.symm.trans heq)).2
      rw [cutAt_append hclose]
      simp only [Option.bind_eq_bind, Option.bind_some, readScoped_text, readPort_toDigits]
      rfl
    · rename_i hopen
      exact absurd htext (hopen _)

end Endpoint

end LoadBalancer.Net

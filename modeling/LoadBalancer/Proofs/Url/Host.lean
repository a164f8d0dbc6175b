import Mathlib
import LoadBalancer.Proofs.Net.Address
import LoadBalancer.Proofs.Url.Percent
import LoadBalancer.Url.Host

/-!
# Which hosts are accepted

The characters of the texts that special schemes take for a host.

* `readSpecial_of_forbidden` – a name has none of the forbidden characters;
* `of_readSpecial_bracketed` – what stands between brackets is an address;
* `notMem_of_readSpecial` – no accepted text has a character that ends a host.
-/

namespace LoadBalancer.Url.Host

open LoadBalancer.Text LoadBalancer.Net

/-! ### Accepted hosts -/

/-- Forbidden characters are of ASCII, and stand in no triple. -/
theorem of_isForbidden {c : Char} (h : isForbidden c = true) :
    c.toNat ≤ 0x7F ∧ c ≠ '%' ∧ hexDigit? c = Option.none ∧ lower c = c := by
  have hall : ∀ d ∈ ['\x00', '\t', '\n', '\r', ' ', '#', '/', ':', '<', '>', '?', '@', '[', '\\', ']',
      '^', '|'], d.toNat ≤ 0x7F ∧ d ≠ '%' ∧ hexDigit? d = Option.none ∧ lower d = d := by
    intro d hd
    fin_cases hd <;> decide
  exact hall c (by simpa [isForbidden] using h)

/-- The characters that end the host of a special scheme, or stand for a user before it, and those that
are left out of URLs. -/
def endsHost (c : Char) : Bool := ['/', '\\', '?', '#', '@', '\t', '\n', '\r'].contains c

theorem notMem_of_endsHost {s : List Char} (h : ∀ c ∈ s, endsHost c = false) {c : Char}
    (hc : endsHost c = true) : c ∉ s := by
  intro hmem
  rw [h c hmem] at hc
  cases hc

variable [DomainNames]

/-- The form in ASCII of a name with a forbidden character, if there is one, has a forbidden character. -/
theorem any_isForbiddenInName_of_asciiName {s n : List Char} (hread : asciiName s = some n) {c : Char}
    (hc : c ∈ s) (hforbidden : isForbidden c = true) : n.any isForbiddenInName = true := by
  unfold asciiName at hread
  split at hread
  · rw [DomainNames.refuses hc hforbidden] at hread
    cases hread
  · cases hread
    have hlower : lower c = c := (of_isForbidden hforbidden).2.2.2
    have hmem : c ∈ lowerList s := by
      rw [← hlower]
      exact List.mem_map_of_mem hc
    refine List.any_eq_true.mpr ⟨c, hmem, ?_⟩
    simp [isForbiddenInName, hforbidden]

/-- A name with a forbidden character is refused: decoding leaves it in. -/
theorem readSpecial_of_forbidden {s : List Char} {c : Char} (hc : c ∈ s)
    (hforbidden : isForbidden c = true) (hstart : s.head? ≠ some '[') :
    readSpecial s = Option.none := by
  obtain ⟨hascii, hsign, hdigit, -⟩ := of_isForbidden hforbidden
  unfold readSpecial
  split
  · exact absurd rfl hstart
  · split
    · rfl
    · rename_i n hn
      obtain ⟨t, ht, hname⟩ := Option.bind_eq_some_iff.mp hn
      obtain ⟨d, hd, hod⟩ := exists_mem_of_fromUTF8 ht
        (Percent.mem_decode hascii hsign hdigit hc)
      have hcode : (UInt8.ofNat c.toNat).toNat = c.toNat := by
        rw [UInt8.toNat_ofNat']
        omega
      have hdc : d = c := by
        refine Char.toNat_inj.mp ?_
        rw [toNat_of_mem_octets hod (by omega), hcode]
      rw [any_isForbiddenInName_of_asciiName hname (hdc ▸ hd) hforbidden, Bool.or_true, if_pos rfl]

/-- What stands in brackets is an address, and nothing follows. -/
theorem of_readSpecial_bracketed {rest : List Char} {h : Host}
    (hread : readSpecial ('[' :: rest) = some h) :
    ∃ inside, rest = inside ++ [']'] ∧ ∀ c ∈ inside, isAddressChar c = true := by
  rw [show readSpecial ('[' :: rest) = readBracketed rest from rfl] at hread
  unfold readBracketed at hread
  split at hread
  · rename_i inside heq
    obtain ⟨ip, hip, -⟩ := Option.map_eq_some_iff.mp hread
    refine ⟨inside.reverse, ?_, mem_of_read_ipv6 hip⟩
    rw [← List.reverse_reverse rest, heq, List.reverse_cons]
  · cases hread

/-- No host has a colon behind its last bracket. -/
theorem readSpecial_of_colon (s : List Char) {t : List Char} (h : ']' ∉ t) :
    readSpecial (s ++ ':' :: t) = Option.none := by
  cases hread : readSpecial (s ++ ':' :: t) with
  | none => rfl
  | some host =>
      exfalso
      by_cases hstart : (s ++ ':' :: t).head? = some '['
      · obtain ⟨rest, hrest⟩ : ∃ rest, s ++ ':' :: t = '[' :: rest := by
          cases hall : s ++ ':' :: t with
          | nil => simp at hall
          | cons c rest =>
              rw [hall] at hstart
              exact ⟨rest, by rw [Option.some.inj hstart]⟩
        rw [hrest] at hread
        obtain ⟨inside, hinside, -⟩ := of_readSpecial_bracketed hread
        have hlast : (s ++ ':' :: t).getLast? = some ']' := by
          rw [hrest, hinside, ← List.cons_append, List.getLast?_append]
          rfl
        rw [List.getLast?_append_of_ne_nil _ (by simp)] at hlast
        rcases List.mem_cons.mp (List.mem_of_getLast? hlast) with hcolon | hmem
        · cases hcolon
        · exact h hmem
      · rw [readSpecial_of_forbidden (by simp) (by decide : isForbidden ':' = true) hstart] at hread
        cases hread

/-- The host that is read is not empty. -/
theorem isNone_of_readSpecial {s : List Char} {h : Host} (hread : readSpecial s = some h) :
    h.isNone = false := by
  unfold readSpecial at hread
  split at hread
  · unfold readBracketed at hread
    split at hread
    · obtain ⟨ip, -, rfl⟩ := Option.map_eq_some_iff.mp hread
      rfl
    · cases hread
  · split at hread
    · cases hread
    · split at hread
      · cases hread
      · rename_i n hn hbad
        split at hread
        · obtain ⟨ip, -, rfl⟩ := Option.map_eq_some_iff.mp hread
          rfl
        · cases hread
          have hne : n ≠ [] := by
            rintro rfl
            exact hbad rfl
          show (String.ofList n).isEmpty = false
          simpa using hne

/-- **Accepted hosts** have none of these characters. -/
theorem notMem_of_readSpecial {s : List Char} {h : Host} (hread : readSpecial s = some h) :
    ∀ c ∈ s, endsHost c = false := by
  have hforbids : ∀ c, endsHost c = true →
      isForbidden c = true ∧ isAddressChar c = false ∧ c ≠ '[' ∧ c ≠ ']' := by
    have hall : ∀ c ∈ ['/', '\\', '?', '#', '@', '\t', '\n', '\r'],
        isForbidden c = true ∧ isAddressChar c = false ∧ c ≠ '[' ∧ c ≠ ']' := by
      intro c hc
      fin_cases hc <;> decide
    intro c hc
    exact hall c (by simpa [endsHost] using hc)
  intro c hc
  by_contra hends
  rw [Bool.not_eq_false] at hends
  obtain ⟨hforbidden, haddress, hopen, hclose⟩ := hforbids c hends
  cases s with
  | nil => cases hc
  | cons first rest =>
      by_cases hfirst : first = '['
      · subst hfirst
        obtain ⟨inside, rfl, hinside⟩ := of_readSpecial_bracketed hread
        simp only [List.mem_cons, List.mem_append, List.not_mem_nil, or_false] at hc
        rcases hc with rfl | hc | rfl
        · exact hopen rfl
        · rw [hinside c hc] at haddress
          cases haddress
        · exact hclose rfl
      · rw [readSpecial_of_forbidden hc hforbidden (by simpa using hfirst)] at hread
        cases hread

end LoadBalancer.Url.Host

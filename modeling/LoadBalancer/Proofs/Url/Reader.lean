import Mathlib
import LoadBalancer.Proofs.Text.Numeral
import LoadBalancer.Proofs.Url.Host
import LoadBalancer.Proofs.Url.Path
import LoadBalancer.Url.Reader

/-!
# Laws of reading URLs

What a URL that was read is like, and how far the parts of an authority reach.

* `Written`, `written_of_read` – path and query of a URL with an authority that was read;
* `readHierarchy_eq`, `rest_of_readAuthority` – authority and path of a special scheme;
* `readPort_portDigits`, `cutPort_of_readSpecial` – a port behind a host;
* `readAuthority_hostPort` – an authority that is a host and a port.
-/

namespace LoadBalancer.Url

open LoadBalancer.Text

/-! ### Paths after an authority -/

theorem readPath_special (s : List Char) :
    readPath .special s =
      .segments (Path.readSegments true (if s.head?.any (isSlash true) then s.tail else s)) := by
  cases s with
  | nil => rfl
  | cons c rest =>
      by_cases hslash : c = '/'
      · subst hslash
        rfl
      · by_cases hback : c = '\\'
        · subst hback
          rfl
        · simp [readPath, isSlash, hslash, hback]

theorem readPath_plain {s : List Char} (h : s ≠ []) :
    readPath .plain s =
      .segments (Path.readSegments false (if s.head? = some '/' then s.tail else s)) := by
  cases s with
  | nil => exact absurd rfl h
  | cons c rest =>
      by_cases hslash : c = '/'
      · subst hslash
        rfl
      · simp [readPath, hslash]

/-- What holds of a segment of a URL that was read. -/
structure IsSegment (kind : SchemeKind) (s : String) : Prop where
  written : Path.IsWritten s.toList
  turned : kind.turnsSlashes = true → '\\' ∉ s.toList
  undotted : kind ≠ .file → Path.isDots s.toList = false

theorem isSegment_of_isRead {kind : SchemeKind} {s : String} (h : Path.IsRead kind.turnsSlashes s) :
    IsSegment kind s :=
  ⟨h.written, h.turned, fun _ => h.undotted⟩

theorem segments_readPath {kind : SchemeKind} (hkind : kind ≠ .file) (s : List Char) :
    ∃ ss, readPath kind s = .segments ss ∧ ∀ t ∈ ss, IsSegment kind t := by
  cases kind with
  | file => exact absurd rfl hkind
  | special =>
      exact ⟨_, readPath_special s,
        fun t ht => isSegment_of_isRead (Path.isRead_of_mem_readSegments _ _ t ht)⟩
  | plain =>
      by_cases hs : s = []
      · subst hs
        exact ⟨[], rfl, fun t ht => absurd ht List.not_mem_nil⟩
      · exact ⟨_, readPath_plain hs,
          fun t ht => isSegment_of_isRead (Path.isRead_of_mem_readSegments _ _ t ht)⟩

theorem segments_filePath {ss : List String} (h : ∀ t ∈ ss, IsSegment .file t) :
    ∃ ts, filePath ss = .segments ts ∧ ∀ t ∈ ts, IsSegment .file t := by
  refine ⟨_, rfl, ?_⟩
  intro t ht
  split at ht
  · rw [List.mem_singleton.mp ht]
    refine ⟨?_, fun _ hc => (by cases hc), fun hne => absurd rfl hne⟩
    intro c hc
    cases hc
  · exact h t ((List.dropWhile_suffix _).subset ht)

theorem segments_readFile [DomainNames] {s : List Char} {a : Option Authority} {p : Path}
    (h : readFile s = some (a, p)) :
    ∃ ss, p = .segments ss ∧ ∀ t ∈ ss, IsSegment .file t := by
  have hfile : ∀ cs, ∃ ss, filePath (Path.readFileSegments cs) = .segments ss ∧
      ∀ t ∈ ss, IsSegment .file t := by
    intro cs
    refine segments_filePath ?_
    intro t ht
    obtain ⟨hwritten, hback⟩ := Path.isWritten_of_mem_readFileSegments t ht
    exact ⟨hwritten, fun _ => hback, fun hne => absurd rfl hne⟩
  unfold readFile at h
  split at h
  · cases h
    exact hfile _
  · split at h
    · cases h
      exact hfile _
    · rename_i text _
      unfold readFileHost at h
      dsimp only at h
      split at h
      · cases h
        exact hfile _
      · -- the host is empty, or read under a special scheme
        split at h
        all_goals
          obtain ⟨host, -, h⟩ := Option.bind_eq_some_iff.mp h
          split at h
          all_goals
            cases h
            exact hfile _

/-! ### Authority and path of a special scheme -/

/-- What follows the digits of a port begins with a backslash. -/
theorem of_readPort {scheme : String} {s rest : List Char} {port : Option UInt16}
    (h : readPort scheme s = some (port, rest)) :
    rest = s.dropWhile Char.isDigit ∧ (rest = [] ∨ '\\' ∈ rest) := by
  have hends : ∀ cs : List Char, (cs.isEmpty || cs.head? = some '\\') = true → cs = [] ∨ '\\' ∈ cs := by
    intro cs hcs
    rcases (Bool.or_eq_true _ _).mp hcs with hempty | hhead
    · exact Or.inl (List.isEmpty_iff.mp hempty)
    · exact Or.inr (List.mem_of_mem_head? (by simpa using hhead))
  unfold readPort at h
  dsimp only at h
  split at h
  · rename_i hend
    split at h
    · cases h
      exact ⟨rfl, hends _ hend⟩
    · split at h
      · cases h
      · cases h
        exact ⟨rfl, hends _ hend⟩
  · cases h

theorem rest_of_readPort {scheme : String} {s rest : List Char} {port : Option UInt16}
    (h : readPort scheme s = some (port, rest)) (hback : '\\' ∉ s) : rest = [] := by
  obtain ⟨hrest, hnil | hmem⟩ := of_readPort h
  · exact hnil
  · rw [hrest] at hmem
    exact absurd ((List.dropWhile_suffix _).subset hmem) hback

/-- A port has digits up to its end. -/
theorem readPort_of_colon {scheme : String} {s t : List Char} (hback : '\\' ∉ s ++ ':' :: t) :
    readPort scheme (s ++ ':' :: t) = none := by
  cases hread : readPort scheme (s ++ ':' :: t) with
  | none => rfl
  | some p =>
      obtain ⟨port, rest⟩ := p
      have hdrop := (of_readPort hread).1
      rw [rest_of_readPort hread hback] at hdrop
      have hdigit : Char.isDigit ':' = true := List.dropWhile_eq_nil_iff.mp hdrop.symm ':' (by simp)
      exact absurd hdigit (by decide)

/-- What stands after the colon is part of the text. -/
theorem mem_of_cutPort {inside : Bool} {s t : List Char} (h : (cutPort inside s).2 = some t) :
    ∀ c ∈ t, c ∈ s := by
  induction s generalizing inside with
  | nil => cases h
  | cons d rest ih =>
      intro c hc
      simp only [cutPort] at h
      split at h
      · cases h
        exact List.mem_cons_of_mem _ hc
      · exact List.mem_cons_of_mem _ (ih h c hc)

/-- The authority of a special scheme: the host is never missing. -/
theorem readAuthority_special [DomainNames] {scheme : String}
    (hscheme : SchemeKind.ofScheme scheme = .special) (followed : Bool) (s : List Char) :
    readAuthority scheme followed s =
      let parts := (cutUser s).getD ([], s)
      let (hostText, portText) := cutPort false parts.2
      (Host.readSpecial hostText).bind fun host =>
        (portText.elim (some (none, [])) (readPort scheme)).map fun p =>
          (⟨(readUser parts.1).1, (readUser parts.1).2, host, p.1⟩, p.2) := by
  unfold readAuthority
  simp only [hscheme, if_true, decide_true, Bool.true_or, Bool.and_true]
  cases hhost : Host.readSpecial (cutPort false ((cutUser s).getD ([], s)).2).1 with
  | none => rfl
  | some host =>
      have hsome := Host.isNone_of_readSpecial hhost
      cases hport : (cutPort false ((cutUser s).getD ([], s)).2).2 with
      | none => simp [hsome]
      | some t =>
          cases hp : readPort scheme t with
          | none => simp [hp]
          | some p => simp [hp, hsome]

/-- Without a backslash, the authority is all of the text. -/
theorem rest_of_readAuthority [DomainNames] {scheme : String}
    (hscheme : SchemeKind.ofScheme scheme = .special)
    {followed : Bool} {s rest : List Char} {a : Authority}
    (h : readAuthority scheme followed s = some (a, rest)) (hback : '\\' ∉ s) : rest = [] := by
  have hhost : ∀ c ∈ ((cutUser s).getD ([], s)).2, c ∈ s := by
    intro c hc
    cases hcut : cutUser s with
    | none =>
        rw [hcut] at hc
        exact hc
    | some p =>
        rw [hcut] at hc
        obtain ⟨⟨a, b⟩, hp, rfl⟩ := Option.map_eq_some_iff.mp hcut
        have hs := congrArg List.reverse (cutAt_eq hp)
        rw [List.reverse_reverse] at hs
        rw [hs]
        simp only [Option.getD_some, List.mem_reverse] at hc
        simp [hc]
  rw [readAuthority_special hscheme] at h
  obtain ⟨host, -, h⟩ := Option.bind_eq_some_iff.mp h
  obtain ⟨⟨port, rest'⟩, hport, heq⟩ := Option.map_eq_some_iff.mp h
  cases heq
  cases ht : (cutPort false ((cutUser s).getD ([], s)).2).2 with
  | none =>
      rw [ht] at hport
      cases hport
      rfl
  | some t =>
      rw [ht] at hport
      refine rest_of_readPort hport ?_
      intro hmem
      exact hback (hhost _ (mem_of_cutPort ht _ hmem))

/-- Authority and path of a special scheme: the path is what begins with the first slash. -/
theorem readHierarchy_eq [DomainNames] {scheme : String} (hscheme : SchemeKind.ofScheme scheme = .special)
    (followed : Bool) (s : List Char) :
    readHierarchy scheme followed s =
      (readAuthority scheme (followed || !(s.dropWhile fun c => !isSlash true c).isEmpty)
          (s.takeWhile fun c => !isSlash true c)).map fun p =>
        (some p.1, .segments (Path.readSegments true (s.dropWhile fun c => !isSlash true c).tail)) := by
  unfold readHierarchy
  rw [hscheme]
  dsimp only [SchemeKind.turnsSlashes]
  cases hread : readAuthority scheme (followed || !(s.dropWhile fun c => !isSlash true c).isEmpty)
      (s.takeWhile fun c => !isSlash true c) with
  | none => rfl
  | some p =>
      obtain ⟨a, rest⟩ := p
      have hback : '\\' ∉ s.takeWhile fun c => !isSlash true c := by
        intro hmem
        have hnot := List.mem_takeWhile_imp hmem
        revert hnot
        decide
      have hrest := rest_of_readAuthority hscheme hread hback
      subst hrest
      simp only [Option.bind_eq_bind, Option.bind_some, Option.map_some, List.nil_append,
        readPath_special]
      cases hs : s.dropWhile fun c => !isSlash true c with
      | nil => rfl
      | cons c back =>
          have hc := List.head?_dropWhile_not (fun c => !isSlash true c) s
          rw [hs] at hc
          dsimp only [List.head?_cons] at hc
          rw [Bool.not_eq_false'] at hc
          simp [hc]

/-! ### URLs that were read -/

/-- What holds of path and query of a URL with an authority that was read. -/
structure Written (u : Url) : Prop where
  path : ∃ ss, u.path = .segments ss ∧ ∀ s ∈ ss, IsSegment u.kind s
  query : ∀ q, u.query = some q → ∀ c ∈ q.toList, Percent.Shows Percent.inQuery c ∧
    (u.kind ≠ .plain → c ≠ '\'')

theorem segments_readHierarchy [DomainNames] {scheme : String}
    (hscheme : SchemeKind.ofScheme scheme ≠ .file)
    {followed : Bool} {s : List Char} {a : Option Authority} {p : Path}
    (h : readHierarchy scheme followed s = some (a, p)) :
    ∃ ss, p = .segments ss ∧ ∀ t ∈ ss, IsSegment (SchemeKind.ofScheme scheme) t := by
  unfold readHierarchy at h
  dsimp only at h
  obtain ⟨⟨b, rest⟩, -, h⟩ := Option.bind_eq_some_iff.mp h
  cases h
  exact segments_readPath hscheme _

theorem segments_readBody [DomainNames] {scheme : String} {followed : Bool} {s : List Char}
    {a : Authority} {p : Path} (h : readBody scheme followed s = some (some a, p)) :
    ∃ ss, p = .segments ss ∧ ∀ t ∈ ss, IsSegment (SchemeKind.ofScheme scheme) t := by
  unfold readBody at h
  split at h
  · rename_i hkind
    exact segments_readHierarchy (by rw [hkind]; decide) h
  · rename_i hkind
    rw [hkind]
    exact segments_readFile h
  · rename_i hkind
    split at h
    · exact segments_readHierarchy (by rw [hkind]; decide) h
    · cases h
    · cases h

theorem shows_of_mem_query {kind : SchemeKind} (s : List Char) :
    ∀ c ∈ Percent.encode (if kind = .plain then Percent.inQuery else Percent.inSpecialQuery) s,
      Percent.Shows Percent.inQuery c ∧ (kind ≠ .plain → c ≠ '\'') := by
  refine Percent.forall_mem_encode ?_ ?_ ?_
  · intro c _ hshown
    by_cases hkind : kind = .plain
    · rw [if_pos hkind] at hshown
      exact ⟨hshown, fun hne => absurd hkind hne⟩
    · rw [if_neg hkind] at hshown
      obtain ⟨hset, hascii⟩ := hshown
      simp only [Percent.inSpecialQuery, Bool.or_eq_false_iff, beq_eq_false_iff_ne] at hset
      exact ⟨⟨hset.1, hascii⟩, fun _ => hset.2⟩
  · exact ⟨⟨by decide, by decide⟩, fun _ => by decide⟩
  · have hdigits : ∀ n < 16, Percent.Shows Percent.inQuery (Percent.hexDigit n) ∧
        Percent.hexDigit n ≠ '\'' := by
      unfold Percent.Shows
      decide
    intro n hn
    exact ⟨(hdigits n hn).1, fun _ => (hdigits n hn).2⟩

/-- **URLs that were read**, if they have an authority. -/
theorem written_of_read [DomainNames] {text : String} {u : Url} (h : read text = some u)
    (ha : u.authority ≠ none) : u.Written := by
  unfold read at h
  obtain ⟨⟨scheme, rest⟩, -, h⟩ := Option.bind_eq_some_iff.mp h
  dsimp only at h
  obtain ⟨⟨authority, path⟩, hbody, h⟩ := Option.bind_eq_some_iff.mp h
  cases h
  obtain ⟨a, hsome⟩ := Option.ne_none_iff_exists'.mp ha
  dsimp only at hsome
  subst hsome
  refine ⟨segments_readBody hbody, ?_⟩
  intro q hq
  obtain ⟨cs, -, rfl⟩ := Option.map_eq_some_iff.mp hq
  rw [Percent.encodeText, String.toList_ofList]
  exact shows_of_mem_query _

/-! ### Host and port -/

/-- The written number of a port. -/
def portDigits (port : UInt16) : List Char := (toString port.toNat).toList

theorem portDigits_eq (port : UInt16) : portDigits port = Nat.toDigits 10 port.toNat :=
  Nat.toList_repr

theorem isDigit_of_mem_portDigits {port : UInt16} {c : Char} (h : c ∈ portDigits port) :
    c.isDigit = true := by
  rw [portDigits_eq] at h
  exact Nat.isDigit_of_mem_toDigits (by decide) (by decide) h

theorem notMem_portDigits {port : UInt16} {c : Char} (h : c.isDigit = false) : c ∉ portDigits port := by
  intro hmem
  rw [isDigit_of_mem_portDigits hmem] at h
  cases h

theorem portDigits_ne_nil (port : UInt16) : portDigits port ≠ [] := by
  rw [portDigits_eq]
  exact Nat.toDigits_ne_nil

/-- A written port is read as that port, which is not kept if the scheme has it anyway. -/
theorem readPort_portDigits (scheme : String) (port : UInt16) :
    readPort scheme (portDigits port) =
      some (if defaultPort? scheme = some port then none else some port, []) := by
  have hdigits : ∀ c ∈ portDigits port, c.isDigit = true := fun c => isDigit_of_mem_portDigits
  have htake : (portDigits port).takeWhile Char.isDigit = portDigits port :=
    List.takeWhile_eq_self_iff.mpr hdigits
  have hdrop : (portDigits port).dropWhile Char.isDigit = [] :=
    List.dropWhile_eq_nil_iff.mpr hdigits
  have hvalue : Nat.ofDigitChars 10 (portDigits port) 0 = port.toNat := by
    rw [portDigits_eq]
    exact Nat.ofDigitChars_ten_toDigits
  have hread : readDigits size16 0 (portDigits port) = .ok port.toNat := by
    rw [← hvalue]
    exact readDigits_eq hdigits (by rw [hvalue]; exact port.toNat_lt)
  have hempty : (portDigits port).isEmpty = false := by simpa using portDigits_ne_nil port
  unfold readPort
  simp only [htake, hdrop, hread, hempty, List.isEmpty_nil, Bool.true_or, if_true, Bool.false_eq_true,
    if_false, UInt16.ofNat_toNat]

theorem cutPort_cons {inside : Bool} {c : Char} (h : ¬(decide (c = ':') && !inside) = true)
    (s : List Char) :
    cutPort inside (c :: s) =
      (c :: (cutPort (if c = '[' then true else if c = ']' then false else inside) s).1,
        (cutPort (if c = '[' then true else if c = ']' then false else inside) s).2) := by
  rw [cutPort, if_neg h]

/-- A text without brackets and without colons outside them is not cut. -/
theorem cutPort_append_of_notMem {inside : Bool} {s : List Char}
    (h : ∀ c ∈ s, c ≠ '[' ∧ c ≠ ']' ∧ (inside = false → c ≠ ':')) (t : List Char) :
    cutPort inside (s ++ t) = (s ++ (cutPort inside t).1, (cutPort inside t).2) := by
  induction s with
  | nil => rfl
  | cons c rest ih =>
      obtain ⟨hopen, hclose, hcolon⟩ := h c List.mem_cons_self
      have hnot : ¬(decide (c = ':') && !inside) = true := by
        cases inside with
        | true => simp
        | false => simpa using hcolon rfl
      rw [List.cons_append, cutPort_cons hnot, if_neg hopen, if_neg hclose,
        ih fun d hd => h d (List.mem_cons_of_mem _ hd)]
      rfl

/-- The colon behind an accepted host is where it is cut. -/
theorem cutPort_of_readSpecial [DomainNames] {s : List Char} {h : Host}
    (hread : Host.readSpecial s = some h)
    (t : List Char) : cutPort false (s ++ ':' :: t) = (s, some t) := by
  have hcolon : ∀ r, cutPort false (':' :: r) = ([], some r) := fun r => rfl
  by_cases hstart : s.head? = some '['
  · obtain ⟨rest, rfl⟩ : ∃ rest, s = '[' :: rest := by
      cases s with
      | nil => cases hstart
      | cons c rest => exact ⟨rest, by rw [Option.some.inj hstart]⟩
    obtain ⟨inside, rfl, hinside⟩ := Host.of_readSpecial_bracketed hread
    have hplain : ∀ c ∈ inside, c ≠ '[' ∧ c ≠ ']' ∧ (true = false → c ≠ ':') := by
      intro c hc
      have hchar := hinside c hc
      refine ⟨?_, ?_, fun hfalse => by cases hfalse⟩
      · rintro rfl
        revert hchar
        decide
      · rintro rfl
        revert hchar
        decide
    have hbracket : ∀ r, cutPort true (']' :: ':' :: r) = ([']'], some r) := fun r => rfl
    have hopen : ∀ r, cutPort false ('[' :: r) = ('[' :: (cutPort true r).1, (cutPort true r).2) :=
      fun r => rfl
    rw [List.cons_append, hopen, List.append_assoc, cutPort_append_of_notMem hplain,
      List.singleton_append, hbracket]
  · have hnot : ∀ c, Host.isForbidden c = true → c ∉ s := by
      intro c hc hmem
      rw [Host.readSpecial_of_forbidden hmem hc hstart] at hread
      cases hread
    have hplain : ∀ c ∈ s, c ≠ '[' ∧ c ≠ ']' ∧ (false = false → c ≠ ':') := by
      intro c hc
      refine ⟨?_, ?_, fun _ => ?_⟩
      · rintro rfl
        exact hnot '[' (by decide) hc
      · rintro rfl
        exact hnot ']' (by decide) hc
      · rintro rfl
        exact hnot ':' (by decide) hc
    rw [cutPort_append_of_notMem hplain, hcolon, List.append_nil]

/-- A text is cut at a colon behind it, or at one of its own, or nowhere. -/
theorem cutPort_append {ds : List Char} (hds : ∀ c ∈ ds, c ≠ '[' ∧ c ≠ ']') (inside : Bool)
    (s : List Char) :
    cutPort inside (s ++ ':' :: ds) = (s, some ds) ∨
      (∃ t u, cutPort inside (s ++ ':' :: ds) = (t, some (u ++ ':' :: ds)) ∧ ∀ c ∈ u, c ∈ s) ∨
      cutPort inside (s ++ ':' :: ds) = (s ++ ':' :: ds, none) := by
  induction s generalizing inside with
  | nil =>
      cases inside with
      | false => exact Or.inl rfl
      | true =>
          refine Or.inr (Or.inr ?_)
          have hplain : ∀ c ∈ ':' :: ds, c ≠ '[' ∧ c ≠ ']' ∧ (true = false → c ≠ ':') := by
            intro c hc
            rcases List.mem_cons.mp hc with rfl | hc
            · decide
            · exact ⟨(hds c hc).1, (hds c hc).2, fun hfalse => by cases hfalse⟩
          have hall := cutPort_append_of_notMem hplain []
          rw [List.append_nil] at hall
          exact hall.trans (by simp [cutPort])
  | cons c rest ih =>
      by_cases hcolon : (decide (c = ':') && !inside) = true
      · refine Or.inr (Or.inl ⟨[], rest, ?_, fun d hd => List.mem_cons_of_mem _ hd⟩)
        rw [List.cons_append, cutPort, if_pos hcolon]
      · rw [List.cons_append, cutPort_cons hcolon]
        rcases ih (if c = '[' then true else if c = ']' then false else inside) with h | ⟨t, u, h, hu⟩ | h
        · exact Or.inl (by rw [h])
        · exact Or.inr (Or.inl ⟨c :: t, u, by rw [h], fun d hd => List.mem_cons_of_mem _ (hu d hd)⟩)
        · exact Or.inr (Or.inr (by rw [h]))

/-- **Host and port.**  An authority that is a text and a port is read with the text as its host, if the
text is free of the characters that end a host. -/
theorem readAuthority_hostPort [DomainNames] {scheme : String}
    (hscheme : SchemeKind.ofScheme scheme = .special)
    (followed : Bool) {s : List Char} (hends : ∀ c ∈ s, Host.endsHost c = false) (port : UInt16) :
    readAuthority scheme followed (s ++ ':' :: portDigits port) =
      (Host.readSpecial s).map fun host =>
        (⟨"", "", host, if defaultPort? scheme = some port then none else some port⟩, []) := by
  have huser : cutUser (s ++ ':' :: portDigits port) = none := by
    have hnot : '@' ∉ (s ++ ':' :: portDigits port).reverse := by
      simp only [List.mem_reverse, List.mem_append, List.mem_cons, not_or]
      exact ⟨Host.notMem_of_endsHost hends (by decide), by decide, notMem_portDigits (by decide)⟩
    rw [cutUser, cutAt_eq_none_iff.mpr hnot]
    rfl
  rw [readAuthority_special hscheme, huser]
  simp only [Option.getD_none]
  cases hread : Host.readSpecial s with
  | some host =>
      rw [cutPort_of_readSpecial hread]
      simp only [hread, Option.bind_some, Option.elim_some, readPort_portDigits, Option.map_some]
      rfl
  | none =>
      have hplain : ∀ c ∈ portDigits port, c ≠ '[' ∧ c ≠ ']' := by
        intro c hc
        refine ⟨?_, ?_⟩
        · rintro rfl
          exact notMem_portDigits (by decide) hc
        · rintro rfl
          exact notMem_portDigits (by decide) hc
      rcases cutPort_append hplain false s with h | ⟨t, u, h, hu⟩ | h
      · rw [h]
        simp only [hread, Option.bind_none, Option.map_none]
      · -- the port has a second colon
        have hback : '\\' ∉ u ++ ':' :: portDigits port := by
          simp only [List.mem_append, List.mem_cons, not_or]
          refine ⟨?_, by decide, notMem_portDigits (by decide)⟩
          intro hmem
          exact Host.notMem_of_endsHost hends (by decide) (hu _ hmem)
        rw [h]
        simp only [Option.elim_some, readPort_of_colon hback, Option.map_none, Option.bind_fun_none]
      · -- a bracket is open at the end of the host
        have hrefused : Host.readSpecial (s ++ ':' :: portDigits port) = none :=
          Host.readSpecial_of_colon s (notMem_portDigits (by decide))
        rw [h]
        simp only [hrefused, Option.bind_none, Option.map_none]

end LoadBalancer.Url

import Mathlib
import LoadBalancer.Proofs.Url.Reader

/-!
# Reading an address with a path

A URL put together from a scheme for requests, any text in the place of a host, a port, and the path and
the query of another URL.

* `composed` – the whole text; `Fitting` – what path and query have to be like;
* `read_composed` – how it is read, if the host has no mark of a query or a fragment;
* `length_query_of_mark` – with the mark of a query in the host, the query begins there;
* `read_composed_of_hash` – with the mark of a fragment in it, path and query are not read at all.
-/

namespace LoadBalancer.Url

open LoadBalancer.Text

/-- A URL put together, as a list of characters. -/
def composed (scheme : String) (host : List Char) (port : UInt16) (path : List Char)
    (query : Option String) : List Char :=
  scheme.toList ++ ':' :: '/' :: '/' ::
    (host ++ ':' :: (portDigits port ++ (path ++ (marked "?" query).toList)))

/-- Path and query of a URL that was read, and a scheme for requests. -/
structure Fitting (scheme : String) (path : List Char) (query : Option String) : Prop where
  forRequests : scheme = "http" ∨ scheme = "https"
  start : path = [] ∨ path.head? = some '/'
  shownPath : ∀ c ∈ path, Percent.Shows Percent.inPath c
  shownQuery : ∀ q, query = some q → ∀ c ∈ q.toList, Percent.Shows Percent.inQuery c

/-! ### Ends and marks -/

/-- A text that has no control and no space at its ends. -/
theorem clean_eq_self {s : List Char} (hfirst : ∀ c, s.head? = some c → isEdge c = false)
    (hlast : ∀ c, s.getLast? = some c → isEdge c = false) : clean s = s := by
  have hdrop : ∀ cs : List Char, (∀ c, cs.head? = some c → isEdge c = false) →
      cs.dropWhile isEdge = cs := by
    intro cs hcs
    cases cs with
    | nil => rfl
    | cons c rest => rw [List.dropWhile_cons_of_neg (by simp [hcs c rfl])]
  have hback : ∀ c, s.reverse.head? = some c → isEdge c = false := by
    intro c hc
    rw [List.head?_reverse] at hc
    exact hlast c hc
  rw [clean, hdrop s hfirst, hdrop s.reverse hback, List.reverse_reverse]

theorem cutMark_of_notMem {mark : Char} {s : List Char} (h : mark ∉ s) : cutMark mark s = (s, none) := by
  rw [cutMark, cutAt_eq_none_iff.mpr h]

theorem cutMark_append {mark : Char} {s : List Char} (h : mark ∉ s) (t : List Char) :
    cutMark mark (s ++ mark :: t) = (s, some t) := by
  rw [cutMark, cutAt_append h]

/-- A query that was marked is cut off again. -/
theorem cutMark_marked {s : List Char} (h : '?' ∉ s) (query : Option String) :
    cutMark '?' (s ++ (marked "?" query).toList) = (s, query.map String.toList) := by
  cases query with
  | none =>
      rw [show (marked "?" none).toList = [] from rfl, List.append_nil]
      exact cutMark_of_notMem h
  | some q =>
      rw [show (marked "?" (some q)).toList = '?' :: q.toList from by simp [marked]]
      exact cutMark_append h _

/-! ### Characters that are shown -/

/-- What a path or a query shows is neither an edge nor a break, and no mark of a fragment. -/
theorem of_shows_inQuery {c : Char} (h : Percent.Shows Percent.inQuery c) :
    isEdge c = false ∧ isBreak c = false ∧ c ≠ '#' := by
  obtain ⟨hset, -⟩ := h
  simp only [Percent.inQuery, Percent.inControls, Bool.or_eq_false_iff, decide_eq_false_iff_not,
    beq_eq_false_iff_ne, List.contains_eq_mem, List.mem_cons, List.not_mem_nil, or_false,
    not_or] at hset
  obtain ⟨⟨hcontrol, -⟩, hspace, -, hhash, -⟩ := hset
  have hne : c.toNat ≠ 0x20 := by
    intro hcode
    exact hspace (Char.toNat_inj.mp hcode)
  refine ⟨?_, ?_, hhash⟩
  · simp only [isEdge, decide_eq_false_iff_not]
    omega
  · simp only [isBreak, Bool.or_eq_false_iff, beq_eq_false_iff_ne]
    refine ⟨⟨?_, ?_⟩, ?_⟩
    all_goals
      rintro rfl
      exact hcontrol (by decide)

theorem shows_inQuery_of_inPath {c : Char} (h : Percent.Shows Percent.inPath c) :
    Percent.Shows Percent.inQuery c ∧ c ≠ '?' := by
  obtain ⟨hset, hascii⟩ := h
  simp only [Percent.inPath, Percent.inFragment, Bool.or_eq_false_iff, List.contains_eq_mem,
    List.mem_cons, List.not_mem_nil, or_false, decide_eq_false_iff_not, not_or] at hset
  obtain ⟨⟨hcontrol, hspace, hquote, hless, hgreater, -⟩, hhash, hmark, -⟩ := hset
  refine ⟨⟨?_, hascii⟩, hmark⟩
  simp [Percent.inQuery, hcontrol, hspace, hquote, hhash, hless, hgreater]

theorem of_isDigit {c : Char} (h : c.isDigit = true) :
    isEdge c = false ∧ isBreak c = false ∧ isSlash true c = false ∧ c ≠ '#' := by
  have hcode : 48 ≤ c.toNat := by
    simp only [Char.isDigit, Bool.and_eq_true, decide_eq_true_eq, ge_iff_le,
      UInt32.le_iff_toNat_le] at h
    exact h.1
  have hother : ∀ d : Char, d.isDigit = false → c ≠ d := by
    intro d hd heq
    rw [heq, hd] at h
    cases h
  refine ⟨?_, ?_, ?_, hother _ (by decide)⟩
  · simp only [isEdge, decide_eq_false_iff_not]
    omega
  · simp only [isBreak, Bool.or_eq_false_iff, beq_eq_false_iff_ne]
    exact ⟨⟨hother _ (by decide), hother _ (by decide)⟩, hother _ (by decide)⟩
  · simp only [isSlash, Bool.or_eq_false_iff, beq_eq_false_iff_ne, Bool.true_and]
    exact ⟨hother _ (by decide), hother _ (by decide)⟩

/-- A text without breaks has none to be left out. -/
theorem unbroken_eq_self {s : List Char} (h : ∀ c ∈ s, isBreak c = false) : unbroken s = s := by
  rw [unbroken, List.filter_eq_self]
  intro c hc
  rw [h c hc]
  rfl

/-! ### Reading -/

section Composed

variable {scheme : String} {host path : List Char} {port : UInt16} {query : Option String}

/-- What stands behind the host is neither an edge nor a break, and no mark of a fragment. -/
theorem of_mem_behind (h : Fitting scheme path query) {c : Char}
    (hc : c ∈ ':' :: (portDigits port ++ (path ++ (marked "?" query).toList))) :
    isEdge c = false ∧ isBreak c = false ∧ c ≠ '#' := by
  simp only [List.mem_cons, List.mem_append] at hc
  rcases hc with rfl | hdigit | hpath | hquery
  · decide
  · obtain ⟨hedge, hbreak, -, hhash⟩ := of_isDigit (isDigit_of_mem_portDigits hdigit)
    exact ⟨hedge, hbreak, hhash⟩
  · exact of_shows_inQuery (shows_inQuery_of_inPath (h.shownPath c hpath)).1
  · cases query with
    | none => cases hquery
    | some q =>
        rw [show (marked "?" (some q)).toList = '?' :: q.toList from by simp [marked]] at hquery
        rcases List.mem_cons.mp hquery with rfl | hq
        · decide
        · exact of_shows_inQuery (h.shownQuery q rfl c hq)

theorem clean_composed (h : Fitting scheme path query) :
    clean (composed scheme host port path query) = composed scheme host port path query := by
  refine clean_eq_self ?_ ?_
  · intro c hc
    rcases h.forRequests with rfl | rfl
    all_goals
      cases hc
      decide
  · intro c hc
    have hbehind : ':' :: (portDigits port ++ (path ++ (marked "?" query).toList)) ≠ [] := by simp
    rw [composed, show (':' :: '/' :: '/' ::
        (host ++ ':' :: (portDigits port ++ (path ++ (marked "?" query).toList)))) =
      (':' :: '/' :: '/' :: host) ++
        ':' :: (portDigits port ++ (path ++ (marked "?" query).toList)) from rfl,
      List.getLast?_append_of_ne_nil _ (by simp), List.getLast?_append_of_ne_nil _ hbehind] at hc
    exact (of_mem_behind h (List.mem_of_getLast? hc)).1

theorem readScheme_composed (h : Fitting scheme path query) :
    readScheme (composed scheme host port path query) =
      some (scheme, '/' :: '/' ::
        (host ++ ':' :: (portDigits port ++ (path ++ (marked "?" query).toList)))) := by
  rw [readScheme, composed]
  rcases h.forRequests with rfl | rfl
  · rw [cutAt_append (by decide)]
    rfl
  · rw [cutAt_append (by decide)]
    rfl

/-- What is left of a host after the slashes in front, which belong to those before it. -/
def behindSlashes (host : List Char) : List Char := (unbroken host).dropWhile (isSlash true)

theorem readBody_composed [DomainNames] (h : Fitting scheme path query) (followed : Bool) :
    readBody scheme followed ('/' :: '/' :: (host ++ ':' :: (portDigits port ++ path))) =
      readHierarchy scheme followed (behindSlashes host ++ ':' :: (portDigits port ++ path)) := by
  have hkind : SchemeKind.ofScheme scheme = .special := by
    rcases h.forRequests with rfl | rfl <;> decide
  have hpath : Fitting scheme path none :=
    ⟨h.forRequests, h.start, h.shownPath, fun q hq => by cases hq⟩
  have hplain : unbroken (':' :: (portDigits port ++ path)) = ':' :: (portDigits port ++ path) := by
    refine unbroken_eq_self ?_
    intro c hc
    exact (of_mem_behind hpath (by simpa [marked] using hc)).2.1
  have hdrop : ∀ s t : List Char, (s ++ ':' :: t).dropWhile (isSlash true) =
      s.dropWhile (isSlash true) ++ ':' :: t := by
    intro s t
    induction s with
    | nil => exact List.dropWhile_cons_of_neg (by decide)
    | cons c rest ih =>
        by_cases hc : isSlash true c = true
        · rw [List.cons_append, List.dropWhile_cons_of_pos hc, List.dropWhile_cons_of_pos hc, ih]
        · rw [List.cons_append, List.dropWhile_cons_of_neg hc, List.dropWhile_cons_of_neg hc,
            List.cons_append]
  have hunbroken : ∀ t, unbroken ('/' :: '/' :: (host ++ t)) =
      '/' :: '/' :: (unbroken host ++ unbroken t) := by
    intro t
    simp [unbroken, isBreak]
  rw [readBody, hkind]
  dsimp only
  rw [hunbroken, hplain, List.dropWhile_cons_of_pos (by decide),
    List.dropWhile_cons_of_pos (by decide), hdrop]
  rfl

theorem notMem_hash_composed (h : Fitting scheme path query) (hhash : '#' ∉ host) :
    '#' ∉ '/' :: '/' ::
      (host ++ ':' :: (portDigits port ++ (path ++ (marked "?" query).toList))) := by
  intro hmem
  simp only [List.mem_cons, List.mem_append] at hmem
  rcases hmem with hc | hc | hc | hc
  · cases hc
  · cases hc
  · exact hhash hc
  · have hbehind : '#' ∈ ':' :: (portDigits port ++ (path ++ (marked "?" query).toList)) := by
      simpa using hc
    exact (of_mem_behind h hbehind).2.2 rfl

/-- **Reading again.**  If no mark of a query or a fragment is in the place of the host, path and query
are told apart where they were put together. -/
theorem read_composed [DomainNames] (h : Fitting scheme path query) (hhash : '#' ∉ host)
    (hmark : '?' ∉ host) {text : String} (htext : text.toList = composed scheme host port path query) :
    read text =
      (readHierarchy scheme query.isSome (behindSlashes host ++ ':' :: (portDigits port ++ path))).map
        fun p => {
          scheme, authority := p.1, path := p.2
          query := query.map fun q => Percent.encodeText Percent.inSpecialQuery q.toList
          fragment := none } := by
  have hkind : SchemeKind.ofScheme scheme ≠ .plain := by
    rcases h.forRequests with rfl | rfl <;> decide
  have hnoMark : '?' ∉ '/' :: '/' :: (host ++ ':' :: (portDigits port ++ path)) := by
    intro hmem
    simp only [List.mem_cons, List.mem_append] at hmem
    rcases hmem with hc | hc | hc | hc | hc | hc
    · cases hc
    · cases hc
    · exact hmark hc
    · cases hc
    · exact notMem_portDigits (by decide) hc
    · exact (shows_inQuery_of_inPath (h.shownPath _ hc)).2 rfl
  have hassoc : '/' :: '/' :: (host ++ ':' :: (portDigits port ++ (path ++ (marked "?" query).toList))) =
      ('/' :: '/' :: (host ++ ':' :: (portDigits port ++ path))) ++ (marked "?" query).toList := by
    simp
  have hquery : (query.map String.toList).map
      (fun s => Percent.encodeText Percent.inSpecialQuery (unbroken s)) =
        query.map fun q => Percent.encodeText Percent.inSpecialQuery q.toList := by
    cases query with
    | none => rfl
    | some q =>
        simp only [Option.map_some]
        rw [unbroken_eq_self fun c hc => (of_shows_inQuery (h.shownQuery q rfl c hc)).2.1]
  unfold read
  rw [htext, clean_composed h, readScheme_composed h]
  simp only [Option.bind_eq_bind, Option.bind_some]
  rw [cutMark_of_notMem (notMem_hash_composed h hhash)]
  dsimp only
  rw [hassoc, cutMark_marked hnoMark]
  dsimp only
  rw [readBody_composed h, if_neg hkind, hquery, Option.isSome_map, Option.isSome_none, Bool.or_false]
  cases readHierarchy scheme query.isSome (behindSlashes host ++ ':' :: (portDigits port ++ path)) with
  | none => rfl
  | some p => rfl

/-- With the mark of a fragment in the place of the host, nothing that stands behind is path or query. -/
theorem read_composed_of_hash [DomainNames] (h : Fitting scheme path query) {path' : List Char}
    {query' : Option String} (h' : Fitting scheme path' query') (hhash : '#' ∈ host)
    {text text' : String}
    (htext : text.toList = composed scheme host port path query)
    (htext' : text'.toList = composed scheme host port path' query') :
    (read text).map (fun t => (t.path, t.query)) = (read text').map fun t => (t.path, t.query) := by
  obtain ⟨front, back, hcut⟩ := exists_cutAt hhash
  have hfront : '#' ∉ '/' :: '/' :: front := by simp [notMem_of_cutAt hcut]
  have hassoc : ∀ behind, '/' :: '/' :: (host ++ behind) =
      ('/' :: '/' :: front) ++ '#' :: (back ++ behind) := by
    intro behind
    rw [cutAt_eq hcut]
    simp
  unfold read
  rw [htext, htext', clean_composed h, clean_composed h', readScheme_composed h, readScheme_composed h']
  simp only [Option.bind_eq_bind, Option.bind_some, hassoc, cutMark_append hfront, Option.map_bind]
  rfl

/-- With the mark of a query in the place of the host, the query begins there, so it is longer than the
one that was put there. -/
theorem length_query_of_mark [DomainNames] (h : Fitting scheme path query) (hhash : '#' ∉ host)
    (hmark : '?' ∈ host)
    {text : String} (htext : text.toList = composed scheme host port path query) {t : Url}
    (hread : read text = some t) :
    ∃ q, t.query = some q ∧ ∀ old, query = some old → old.length < q.length := by
  obtain ⟨front, back, hcut⟩ := exists_cutAt hmark
  have hhost : host = front ++ '?' :: back := cutAt_eq hcut
  have hfront : '?' ∉ '/' :: '/' :: front := by
    simp [notMem_of_cutAt hcut]
  have hassoc : '/' :: '/' :: (host ++ ':' :: (portDigits port ++ (path ++ (marked "?" query).toList))) =
      ('/' :: '/' :: front) ++
        '?' :: (back ++ ':' :: (portDigits port ++ (path ++ (marked "?" query).toList))) := by
    rw [hhost]
    simp
  unfold read at hread
  rw [htext, clean_composed h, readScheme_composed h] at hread
  simp only [Option.bind_eq_bind, Option.bind_some] at hread
  rw [cutMark_of_notMem (notMem_hash_composed h hhash)] at hread
  dsimp only at hread
  rw [hassoc, cutMark_append hfront] at hread
  obtain ⟨⟨authority, readPath⟩, -, hread⟩ := Option.bind_eq_some_iff.mp hread
  cases hread
  refine ⟨_, rfl, ?_⟩
  intro old hold
  have hencoded := Percent.length_le_encode
    (if SchemeKind.ofScheme scheme = .plain then Percent.inQuery else Percent.inSpecialQuery)
    (unbroken (back ++ ':' :: (portDigits port ++ (path ++ (marked "?" query).toList))))
  have hbehind : unbroken (':' :: (portDigits port ++ (path ++ (marked "?" query).toList))) =
      ':' :: (portDigits port ++ (path ++ (marked "?" query).toList)) :=
    unbroken_eq_self fun c hc => (of_mem_behind h hc).2.1
  have happend : ∀ s t : List Char, unbroken (s ++ t) = unbroken s ++ unbroken t :=
    fun s t => List.filter_append s t
  rw [happend, hbehind, hold, List.length_append] at hencoded
  dsimp only
  rw [happend, hbehind, hold, Percent.encodeText, String.length_ofList]
  rw [show (marked "?" (some old)).toList = '?' :: old.toList from by simp [marked]] at hencoded ⊢
  simp only [List.length_cons, List.length_append, String.length_toList] at hencoded
  omega

end Composed

/-! ### Where the path begins -/

section Behind

variable {host path : List Char}

/-- Host and port have no slash, so they reach up to the path. -/
theorem split_hostPort (hhost : ∀ c ∈ host, isSlash true c = false) (port : UInt16)
    (hstart : path = [] ∨ path.head? = some '/') :
    ((host ++ ':' :: (portDigits port ++ path)).takeWhile fun c => !isSlash true c) =
        host ++ ':' :: portDigits port ∧
      ((host ++ ':' :: (portDigits port ++ path)).dropWhile fun c => !isSlash true c) = path := by
  have hfront : ∀ c ∈ host ++ ':' :: portDigits port, (!isSlash true c) = true := by
    intro c hc
    simp only [List.mem_append, List.mem_cons] at hc
    rcases hc with hc | rfl | hc
    · rw [hhost c hc]
      rfl
    · decide
    · rw [(of_isDigit (isDigit_of_mem_portDigits hc)).2.2.1]
      rfl
  have hassoc : host ++ ':' :: (portDigits port ++ path) = (host ++ ':' :: portDigits port) ++ path := by
    simp
  rw [hassoc, List.takeWhile_append_of_pos hfront, List.dropWhile_append_of_pos hfront]
  rcases hstart with rfl | hslash
  · simp
  · cases path with
    | nil => cases hslash
    | cons c rest =>
        cases hslash
        exact ⟨by simp [isSlash], by simp [isSlash]⟩

/-- A slash in the host begins the path. -/
theorem dropWhile_of_slash (hhost : ¬∀ c ∈ host, isSlash true c = false) (behind : List Char) :
    ∃ back, ((host ++ behind).dropWhile fun c => !isSlash true c).tail = back ++ behind := by
  induction host with
  | nil => exact absurd (fun c hc => absurd hc List.not_mem_nil) hhost
  | cons c rest ih =>
      by_cases hc : isSlash true c = true
      · exact ⟨rest, by rw [List.cons_append, List.dropWhile_cons_of_neg (by simp [hc]), List.tail_cons]⟩
      · have hrest : ¬∀ d ∈ rest, isSlash true d = false := by
          intro hall
          refine hhost ?_
          intro d hd
          rcases List.mem_cons.mp hd with rfl | hd
          · simpa using hc
          · exact hall d hd
        rw [List.cons_append, List.dropWhile_cons_of_pos (by simp [hc])]
        exact ih hrest

end Behind

end LoadBalancer.Url

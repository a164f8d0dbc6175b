import Mathlib
import LoadBalancer.Balancer.Routing
import LoadBalancer.Proofs.Url.Address

/-!
# Where requests are sent

The target of a request at an instance is written out of the address of the instance and the path and
the query of the target before, and then read as a URL. So the address reaches as far as it reads like
one, and path and query are read by the rules of another scheme.

* `Url.StaysPath`, `Url.StaysQuery` – path and query that are read as they are;
* `Instance.EndsBeforePath` – a host that does not begin a path or a query itself;
* `Instance.HasWholeHost` – a host that is cut nowhere when it stands in a URL;
* `Balancer.route_keeps_path_and_query` – when a routed request has the path and the query it had;
* `Url.Reaches` – a URL goes to an instance, and to nothing else;
* `Balancer.route_reaches_instance` – when a routed request goes to the instance that was chosen.
-/

namespace LoadBalancer

open LoadBalancer.Text LoadBalancer.Url

/-! ### Writing a target -/

theorem toList_forwardText (target : Url) (record : Instance) :
    (forwardText target record).toList =
      composed record.scheme record.host.toList record.port target.pathText.toList target.query := by
  have hmark : "://".toList = [':', '/', '/'] := by decide
  have hcolon : ":".toList = [':'] := by decide
  simp only [forwardText, Instance.url, Instance.authority, composed, portDigits, String.toList_append,
    hmark, hcolon, List.append_assoc, List.cons_append, List.nil_append]

/-- A URL that was read fits any instance. -/
theorem Url.Written.fitting {u : Url} (h : u.Written) (record : Instance) :
    Fitting record.scheme u.pathText.toList u.query := by
  obtain ⟨ss, hpath, hss⟩ := h.path
  have htext : u.pathText.toList = ss.flatMap fun s => '/' :: s.toList := by
    rw [pathText, hpath]
    exact Path.toList_text ss
  refine ⟨?_, ?_, ?_, fun q hq c hc => (h.query q hq c hc).1⟩
  · unfold Instance.scheme
    split
    · exact Or.inr rfl
    · exact Or.inl rfl
  · rw [htext]
    cases ss with
    | nil => exact Or.inl rfl
    | cons s rest => exact Or.inr rfl
  · intro c hc
    rw [htext] at hc
    obtain ⟨s, hs, hcs⟩ := List.mem_flatMap.mp hc
    rcases List.mem_cons.mp hcs with rfl | hcs
    · exact ⟨by decide, by decide⟩
    · exact ((hss s hs).written c hcs).1

namespace Instance

/-- The scheme of requests is special. -/
theorem kind_scheme (record : Instance) : SchemeKind.ofScheme record.scheme = .special := by
  unfold scheme
  split <;> decide

/-- The host of an instance, without slashes in front, has no slash, and it has no question mark: so it
begins neither a path nor a query. -/
def EndsBeforePath (record : Instance) : Prop :=
  '?' ∉ record.host.toList ∧ ∀ c ∈ behindSlashes record.host.toList, isSlash true c = false

instance (record : Instance) : Decidable record.EndsBeforePath :=
  @instDecidableAnd _ _ _ (List.decidableBAll _ _)

/-- The host has no character that ends a host, or that is left out of URLs. -/
def HasWholeHost (record : Instance) : Prop :=
  ∀ c ∈ record.host.toList, Host.endsHost c = false

instance (record : Instance) : Decidable record.HasWholeHost :=
  List.decidableBAll _ _

namespace HasWholeHost

variable {record : Instance}

theorem notMem (h : record.HasWholeHost) {c : Char} (hc : Host.endsHost c = true) :
    c ∉ record.host.toList :=
  Host.notMem_of_endsHost h hc

/-- A whole host has no slashes. -/
theorem isSlash (h : record.HasWholeHost) : ∀ c ∈ record.host.toList, isSlash true c = false := by
  intro c hc
  have hslash : c ≠ '/' := fun heq => h.notMem (by decide) (heq ▸ hc)
  have hback : c ≠ '\\' := fun heq => h.notMem (by decide) (heq ▸ hc)
  simp [Url.isSlash, hslash, hback]

/-- A whole host stands behind the slashes as it is. -/
theorem behindSlashes (h : record.HasWholeHost) :
    behindSlashes record.host.toList = record.host.toList := by
  have hplain : unbroken record.host.toList = record.host.toList := by
    refine unbroken_eq_self ?_
    intro c hc
    by_contra hbreak
    rw [Bool.not_eq_false, isBreak] at hbreak
    simp only [Bool.or_eq_true, beq_iff_eq] at hbreak
    rcases hbreak with (rfl | rfl) | rfl
    all_goals exact h.notMem (by decide) hc
  rw [Url.behindSlashes, hplain]
  cases hhost : record.host.toList with
  | nil => rfl
  | cons c rest =>
      exact List.dropWhile_cons_of_neg (by simp [h.isSlash c (by simp [hhost])])

theorem endsBeforePath (h : record.HasWholeHost) : record.EndsBeforePath := by
  refine ⟨h.notMem (by decide), ?_⟩
  rw [h.behindSlashes]
  exact h.isSlash

end HasWholeHost

end Instance

/-- What is read out of a target at an instance whose host marks no fragment and no query. -/
theorem forwardTarget_eq [DomainNames] {u : Url} (h : u.Written) {record : Instance}
    (hhash : '#' ∉ record.host.toList) (hmark : '?' ∉ record.host.toList) :
    forwardTarget u record =
      (readHierarchy record.scheme u.query.isSome (behindSlashes record.host.toList ++
          ':' :: (portDigits record.port ++ u.pathText.toList))).map fun p => {
        scheme := record.scheme, authority := p.1, path := p.2
        query := u.query.map fun q => Percent.encodeText Percent.inSpecialQuery q.toList
        fragment := none } :=
  read_composed (h.fitting record) hhash hmark (toList_forwardText u record)

/-! ### Path and query -/

namespace Url

/-- No segment of the path is a dot segment. -/
def Undotted (u : Url) : Prop := ∀ piece ∈ fields '/' u.pathText.toList, Path.isDots piece = false

/-- The path is read as it is under a special scheme. -/
def StaysPath (u : Url) : Prop := '\\' ∉ u.pathText.toList ∧ u.Undotted

/-- The query has no quote, so it is read as it is under a special scheme. -/
def StaysQuery (u : Url) : Prop := ∀ q ∈ u.query, '\'' ∉ q.toList

instance (u : Url) : Decidable u.Undotted := inferInstanceAs (Decidable (∀ _ ∈ _, _))

instance (u : Url) : Decidable u.StaysPath := inferInstanceAs (Decidable (_ ∧ _))

instance (u : Url) : Decidable u.StaysQuery := inferInstanceAs (Decidable (∀ _ ∈ _, _))

section Segments

variable {u : Url} {ss : List String}

theorem notMem_pathText_iff (hpath : u.path = .segments ss) :
    '\\' ∉ u.pathText.toList ↔ ∀ s ∈ ss, '\\' ∉ s.toList := by
  rw [pathText, hpath, Path.toList_text]
  simp [List.mem_flatMap]

theorem undotted_iff (hpath : u.path = .segments ss) (hss : ∀ s ∈ ss, IsSegment u.kind s) :
    u.Undotted ↔ ∀ s ∈ ss, Path.isDots s.toList = false := by
  have htext : u.pathText = Path.text (.segments ss) := by rw [pathText, hpath]
  unfold Undotted
  by_cases hne : ss = []
  · subst hne
    rw [htext, Path.text_eq_empty_iff.mpr rfl]
    exact ⟨fun _ s hs => absurd hs List.not_mem_nil, fun _ => by decide⟩
  · have hfields := Path.fields_text hne fun s hs => (hss s hs).written.notMem
    rw [Path.toList_text_of_ne_nil hne, List.tail_cons] at hfields
    rw [htext, Path.toList_text_of_ne_nil hne]
    simp only [fields, if_true, hfields, List.mem_cons, List.mem_map]
    constructor
    · intro h s hs
      exact h _ (Or.inr ⟨s, hs, rfl⟩)
    · rintro h piece (rfl | ⟨s, hs, rfl⟩)
      · decide
      · exact h s hs

end Segments

/-- Where backslashes are turned there is none, and no quote; only files keep dot segments. -/
theorem Written.stays {u : Url} (h : u.Written) :
    (u.kind ≠ .plain → '\\' ∉ u.pathText.toList ∧ u.StaysQuery) ∧ (u.kind ≠ .file → u.Undotted) := by
  obtain ⟨ss, hpath, hss⟩ := h.path
  refine ⟨?_, ?_⟩
  · intro hkind
    have hturns : u.kind.turnsSlashes = true := by
      cases hk : u.kind with
      | plain => exact absurd hk hkind
      | special => rfl
      | file => rfl
    refine ⟨(notMem_pathText_iff hpath).mpr fun s hs => (hss s hs).turned hturns, ?_⟩
    intro q hq hmem
    exact (h.query q hq _ hmem).2 hkind rfl
  · intro hkind
    exact (undotted_iff hpath hss).mpr fun s hs => (hss s hs).undotted hkind

/-- The query is read as it is exactly if it has no quote. -/
theorem Written.query_iff {u : Url} (h : u.Written) :
    (u.query.map fun q => Percent.encodeText Percent.inSpecialQuery q.toList) = u.query ↔
      u.StaysQuery := by
  cases hq : u.query with
  | none => simp [StaysQuery, hq]
  | some q =>
      simp only [Option.map_some, Option.some.injEq, StaysQuery, hq, Option.mem_def, forall_eq']
      constructor
      · intro hsame hmem
        rw [← hsame, Percent.encodeText, String.toList_ofList] at hmem
        refine Percent.forall_mem_encode (P := fun c => c ≠ '\'') ?_ (by decide) (by decide) _ hmem rfl
        rintro c - hshown rfl
        exact absurd hshown.1 (by decide)
      · intro hquote
        rw [Percent.encodeText, Percent.encode_eq_self, String.ofList_toList]
        intro c hc
        obtain ⟨hset, hascii⟩ := (h.query q hq c hc).1
        have hne : c ≠ '\'' := fun heq => hquote (heq ▸ hc)
        exact ⟨by simp [Percent.inSpecialQuery, hset, hne], hascii⟩

end Url

/-- The path of a target at an instance: what begins with the first slash behind the host. -/
theorem path_of_forwardTarget [DomainNames] {u t : Url} (h : u.Written) {record : Instance}
    (hhash : '#' ∉ record.host.toList) (hmark : '?' ∉ record.host.toList)
    (ht : forwardTarget u record = some t) :
    t.path = .segments (Path.readSegments true ((behindSlashes record.host.toList ++
      ':' :: (portDigits record.port ++ u.pathText.toList)).dropWhile fun c => !isSlash true c).tail) ∧
    t.query = u.query.map fun q => Percent.encodeText Percent.inSpecialQuery q.toList := by
  rw [forwardTarget_eq h hhash hmark, readHierarchy_eq record.kind_scheme] at ht
  obtain ⟨p, hp, rfl⟩ := Option.map_eq_some_iff.mp ht
  obtain ⟨q, -, rfl⟩ := Option.map_eq_some_iff.mp hp
  exact ⟨rfl, rfl⟩

/-- Behind a host without slashes the path is read as it was written. -/
theorem pathText_of_endsBeforePath [DomainNames] {u t : Url} (h : u.Written) {record : Instance}
    (hhash : '#' ∉ record.host.toList) (hends : record.EndsBeforePath)
    (ht : forwardTarget u record = some t) :
    t.pathText = (if u.pathText = "" then "/" else u.pathText) ↔ u.StaysPath := by
  obtain ⟨ss, hpath, hss⟩ := h.path
  have hdrop : ((behindSlashes record.host.toList ++
      ':' :: (portDigits record.port ++ u.pathText.toList)).dropWhile fun c => !isSlash true c) =
        u.pathText.toList := (split_hostPort hends.2 record.port (h.fitting record).start).2
  rw [pathText, (path_of_forwardTarget h hhash hends.1 ht).1, hdrop, pathText, hpath, StaysPath,
    notMem_pathText_iff hpath, undotted_iff hpath hss,
    Path.text_reread_iff fun s hs => (hss s hs).written]
  exact ⟨fun h => ⟨fun s hs => (h s hs).1, fun s hs => (h s hs).2⟩, fun h s hs => ⟨h.1 s hs, h.2 s hs⟩⟩

/-- A host that begins a path or a query itself leaves one of them changed. -/
theorem of_not_endsBeforePath [DomainNames] {u t : Url} (h : u.Written) {record : Instance}
    (hhash : '#' ∉ record.host.toList) (hends : ¬record.EndsBeforePath)
    (ht : forwardTarget u record = some t) :
    ¬(t.pathText = (if u.pathText = "" then "/" else u.pathText) ∧ t.query = u.query) := by
  rintro ⟨hsamePath, hsameQuery⟩
  by_cases hmark : '?' ∈ record.host.toList
  · obtain ⟨q, hq, hlength⟩ := length_query_of_mark (h.fitting record) hhash hmark
      (toList_forwardText u record) ht
    rw [hsameQuery] at hq
    exact absurd (hlength q hq) (lt_irrefl _)
  · obtain ⟨ss, hpath, hss⟩ := h.path
    have hslash : ¬∀ c ∈ behindSlashes record.host.toList, isSlash true c = false :=
      fun hall => hends ⟨hmark, hall⟩
    obtain ⟨back, hdrop⟩ := dropWhile_of_slash hslash
      (':' :: (portDigits record.port ++ u.pathText.toList))
    rw [pathText, (path_of_forwardTarget h hhash hmark ht).1, hdrop, pathText, hpath] at hsamePath
    exact Path.text_behind_ne (fun s hs => (hss s hs).written)
      ⟨notMem_portDigits (by decide), notMem_portDigits (by decide)⟩ back hsamePath

/-- Behind a host with the mark of a fragment, path and query are lost: they are the same at the end,
whatever they were. -/
theorem forwardTarget_of_hash [DomainNames] {u u' t t' : Url} (h : u.Written) (h' : u'.Written)
    {record : Instance} (hhash : '#' ∈ record.host.toList) (ht : forwardTarget u record = some t)
    (ht' : forwardTarget u' record = some t') : t.path = t'.path ∧ t.query = t'.query := by
  have hsame := read_composed_of_hash (h.fitting record) (h'.fitting record) hhash
    (toList_forwardText u record) (toList_forwardText u' record)
  rw [← forwardTarget, ← forwardTarget, ht, ht', Option.map_some, Option.map_some] at hsame
  exact Prod.mk.inj (Option.some.inj hsame)

/-! ### The instance -/

/-- The target goes to an instance: to its host as it is read on its own, at its port, by its scheme and
with nothing else. -/
structure Url.Reaches [DomainNames] (t : Url) (record : Instance) : Prop where
  scheme : t.scheme = if record.secure then "https" else "http"
  host : ∃ a, t.authority = some a ∧ Host.readSpecial record.host.toList = some a.host ∧
    a.user = "" ∧ a.password = ""
  port : t.port? = some record.port
  fragment : t.fragment = none

/-- A target at a whole host: there is one exactly if the host can be read on its own. -/
theorem forwardTarget_of_hasWholeHost [DomainNames] {u : Url} (h : u.Written) {record : Instance}
    (hwhole : record.HasWholeHost) :
    forwardTarget u record = (Host.readSpecial record.host.toList).map fun host => {
      scheme := record.scheme
      authority := some ⟨"", "", host,
        if defaultPort? record.scheme = some record.port then none else some record.port⟩
      path := .segments (Path.readSegments true u.pathText.toList.tail)
      query := u.query.map fun q => Percent.encodeText Percent.inSpecialQuery q.toList
      fragment := none } := by
  obtain ⟨htake, hdrop⟩ := split_hostPort hwhole.isSlash record.port (h.fitting record).start
  rw [forwardTarget_eq h (hwhole.notMem (by decide)) hwhole.endsBeforePath.1, hwhole.behindSlashes,
    readHierarchy_eq record.kind_scheme, htake, hdrop,
    readAuthority_hostPort record.kind_scheme _ hwhole]
  simp only [Option.map_map, Function.comp_def]

/-- A target at a whole host goes to the instance. -/
theorem reaches_of_hasWholeHost [DomainNames] {u t : Url} (h : u.Written) {record : Instance}
    (hwhole : record.HasWholeHost) (ht : forwardTarget u record = some t) : t.Reaches record := by
  rw [forwardTarget_of_hasWholeHost h hwhole] at ht
  obtain ⟨host, hhost, rfl⟩ := Option.map_eq_some_iff.mp ht
  refine ⟨rfl, ⟨_, rfl, hhost, rfl, rfl⟩, ?_, rfl⟩
  dsimp only [Url.port?, Option.bind_some]
  split
  · rename_i hdefault
    exact hdefault
  · rfl

/-! ### Routed requests -/

namespace Balancer

variable {text : String} {request : Request} {b : Balancer} {bound : BoundRoute} {record : Instance}

/-- A target with a host was read as a URL with an authority. -/
theorem written_of_service [DomainNames] {service : String} (hread : Url.read text = some request.target)
    (hservice : request.service? = some service) : request.target.Written := by
  refine written_of_read hread ?_
  intro hnone
  rw [Request.service?, Url.hostText?, hnone] at hservice
  cases hservice

/-- The target of a routed request is one at the instance that was chosen. -/
theorem target_of_route [DomainNames] (hread : Url.read text = some request.target)
    (hok : (b.route request bound).1 = .ok record) :
    request.target.Written ∧
      forwardTarget request.target record = some (b.route request bound).2.1.target := by
  obtain ⟨service, hservice, hselect⟩ := select_of_route hok
  refine ⟨written_of_service hread hservice, ?_⟩
  rcases route_of_select hservice hselect with ⟨t, ht, -, hrequest⟩ | ⟨-, hfailed⟩
  · rw [hrequest]
    exact ht
  · rw [hok] at hfailed
    cases hfailed

end Balancer

end LoadBalancer

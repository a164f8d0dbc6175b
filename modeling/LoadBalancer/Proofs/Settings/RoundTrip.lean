import Mathlib
import LoadBalancer.Proofs.Document.Reading
import LoadBalancer.Proofs.Duration.RoundTrip
import LoadBalancer.Proofs.Net.Address
import LoadBalancer.Proofs.Settings.Validity

/-!
# Settings are read as they are written

Each record of the settings is followed field by field, from its written form back to its value. Of what
is measured and logged only that it can be read matters here.

* `Algorithm.read_key`, `Policy.yields_policy`, `Route.yields_route` – routes and their policies come back
  as they were;
* `Reporting.yields_reporting` – what is measured and logged can be read again;
* `Settings.yields_settings` – settings come back with the same routes;
* `Settings.written_loads` – the same for a text that is loaded.
-/

namespace LoadBalancer

open LoadBalancer.Text LoadBalancer.Document LoadBalancer.Net

/-! ### Policies -/

/-- An algorithm is read by its short name. -/
theorem Algorithm.read_key (a : Algorithm) : Algorithm.read a.key = .ok a := by
  cases a <;> decide +kernel

namespace Policy

theorem yields_algorithm (a : Algorithm) :
    Yields readAlgorithm (.scalar (.text a.key)) (· = a) := by
  refine (yields_text a.key).andThen ?_
  rintro _ rfl
  refine ⟨a, rfl, fun links => ?_⟩
  rw [Algorithm.read_key]
  rfl

theorem yields_duration (d : Duration) :
    Yields readDuration (.scalar (.text d.text)) (· = d) := by
  refine (yields_text d.text).andThen ?_
  rintro _ rfl
  refine ⟨d, rfl, fun links => ?_⟩
  rw [Duration.read_text]
  rfl

/-- **Policies are read as they were written**, field by field. -/
theorem yields_policy (p : Policy) : Yields ofNode p.toNode (· = p) := by
  have hfills : Fills fields [] default
      [entry "algorithm" (.text p.algorithm.key),
       entry "max_choose_tries" (.integer p.maxTries.toNat),
       entry "fallback_all_to_candidates" (.flag p.fallbackToAll),
       entry "null_ping_to_reachable" (.flag p.lenient),
       entry "candidate_metadata_prefix" (.text p.candidateKey),
       entry "rule_set" (.text p.ruleSet),
       entry "weight_metadata_key" (.text p.weightKey),
       entry "retry_backoff" (.text p.backoff.text)]
      ["retry_backoff", "weight_metadata_key", "rule_set", "candidate_metadata_prefix",
        "null_ping_to_reachable", "fallback_all_to_candidates", "max_choose_tries", "algorithm"]
      (· = p) := by
    refine .entry rfl rfl rfl (yields_algorithm p.algorithm) ?_
    rintro _ rfl
    refine .entry rfl rfl rfl (yields_natural p.maxTries.toNat_lt) ?_
    rintro _ rfl
    refine .entry rfl rfl rfl (yields_flag p.fallbackToAll) ?_
    rintro _ rfl
    refine .entry rfl rfl rfl (yields_flag p.lenient) ?_
    rintro _ rfl
    refine .entry rfl rfl rfl (yields_text p.candidateKey) ?_
    rintro _ rfl
    refine .entry rfl rfl rfl (yields_text p.ruleSet) ?_
    rintro _ rfl
    refine .entry rfl rfl rfl (yields_text p.weightKey) ?_
    rintro _ rfl
    refine .entry rfl rfl rfl (yields_duration p.backoff) ?_
    rintro _ rfl
    refine .done ?_
    show ({ p with maxTries := UInt32.ofNat p.maxTries.toNat } : Policy) = p
    rw [UInt32.ofNat_toNat]
  exact hfills.record (by decide) true

end Policy

/-! ### Routes -/

theorem Route.yields_route (r : Route) : Yields Route.ofNode r.toNode (· = r) := by
  have hfills : Fills Route.fields [] ⟨"", "", .default⟩
      [(.scalar (.text "id"), .scalar (.text r.id)),
       (.scalar (.text "service_id"), .scalar (.text r.service)),
       (.scalar (.text "selection"), r.policy.toNode)]
      ["selection", "service_id", "id"] (· = r) := by
    refine .entry rfl rfl rfl (yields_text r.id) ?_
    rintro _ rfl
    refine .entry rfl rfl rfl (yields_text r.service) ?_
    rintro _ rfl
    refine .entry rfl rfl rfl (Policy.yields_policy r.policy) ?_
    rintro _ rfl
    exact .done rfl
  exact hfills.record (by decide) true

/-! ### Reporting -/

/-- What stands for an endpoint does not stand for nothing. -/
theorem given?_of_read_endpoint {x : String} {e : Endpoint} (h : Endpoint.read x = some e) :
    (Scalar.plain x).given? = some true := by
  have hnone : ∀ y ∈ ["", "null", "Null", "NULL", "~"], Endpoint.read y = none := by decide
  have hx : x ∉ ["", "null", "Null", "NULL", "~"] := by
    intro hmem
    rw [hnone x hmem] at h
    cases h
  simp only [List.mem_cons, List.not_mem_nil, or_false, not_or] at hx
  simp [Scalar.given?, isPlainNull, hx]

namespace MetricsSettings

theorem yields_listen (listen : Option Endpoint) :
    Yields (readOptional readEndpoint)
      (.scalar (match listen with | some e => .text e.text | none => .null)) fun _ => True := by
  cases listen with
  | none =>
    intro n hn
    obtain ⟨t, rfl, ht⟩ := exists_scalar_of_returnsAs hn
    have hgiven : t.given? = some false := by simpa [Scalar.returnsAs] using ht
    refine ⟨none, trivial, fun links => ?_⟩
    show (liftM (orUnsuitable t.given?) >>= fun b : Bool =>
      if b then some <$> readEndpoint (.scalar t) else pure none : Decoding (Option Endpoint)) links = _
    rw [hgiven]
    rfl
  | some e =>
    intro n hn
    obtain ⟨t, rfl, ht⟩ := exists_scalar_of_returnsAs hn
    have hgiven : t.given? = some true := by
      rcases text?_of_returnsAs ht with rfl | rfl
      · rfl
      · exact given?_of_read_endpoint (Endpoint.read_text e)
    have hread : t.text?.bind Endpoint.read = some e := by
      rcases text?_of_returnsAs ht with rfl | rfl <;> exact Endpoint.read_text e
    have hscalar : ∀ links, readEndpoint (.scalar t) links = .ok (e, links) := by
      intro links
      show ((orUnsuitable (t.text?.bind Endpoint.read)).bind fun x => Except.ok (x, links)) = _
      rw [hread]
      rfl
    refine ⟨some e, trivial, fun links => ?_⟩
    show (liftM (orUnsuitable t.given?) >>= fun b : Bool =>
      if b then some <$> readEndpoint (.scalar t) else pure none : Decoding (Option Endpoint)) links = _
    rw [hgiven]
    show (readEndpoint (.scalar t) links).bind (fun p => Except.ok (some p.1, p.2)) = _
    rw [hscalar]
    rfl

theorem yields_metrics (m : MetricsSettings) : Yields ofNode m.toNode fun _ => True := by
  have hbuckets : Yields (readList readNumber)
      (.list false (m.buckets.map fun b => .scalar (.number b)) true) fun _ => True :=
    (yields_list (fun b _ => yields_number b) false true).mono fun _ _ => trivial
  have hfills : Fills fields [] default
      [(.scalar (.text "enabled"), .scalar (.flag m.enabled)),
       (.scalar (.text "listen_address"),
        .scalar (match m.listen with | some e => .text e.text | none => .null)),
       (.scalar (.text "latency_buckets"),
        .list false (m.buckets.map fun b => .scalar (.number b)) true),
       (.scalar (.text "global_labels"),
        .record (m.labels.entries.map fun e => (.scalar (.text e.1), .scalar (.text e.2))) true)]
      ["global_labels", "latency_buckets", "listen_address", "enabled"] fun _ => True := by
    refine .entry rfl rfl rfl (yields_flag m.enabled) fun _ _ => ?_
    refine .entry rfl rfl rfl (yields_listen m.listen) fun _ _ => ?_
    refine .entry rfl rfl rfl hbuckets fun _ _ => ?_
    refine .entry rfl rfl rfl (yields_labels m.labels.entries true) fun _ _ => ?_
    exact .done trivial
  exact hfills.record (by decide) true

end MetricsSettings

namespace LogSettings

theorem yields_format (f : LogFormat) :
    Yields LogFormat.ofNode (.scalar (.text f.name)) fun _ => True := by
  intro n hn
  obtain ⟨t, rfl, ht⟩ := exists_scalar_of_returnsAs hn
  have hread : t.choice?.bind LogFormat.ofName? = some f := by
    rcases text?_of_returnsAs ht with rfl | rfl <;> cases f <;> rfl
  refine ⟨f, trivial, fun links => ?_⟩
  show ((orUnsuitable (t.choice?.bind LogFormat.ofName?)).bind fun x => Except.ok (x, links)) = _
  rw [hread]
  rfl

theorem yields_logging (l : LogSettings) : Yields ofNode l.toNode fun _ => True := by
  have hfills : Fills fields [] default
      [(.scalar (.text "level"), .scalar (.text l.level)),
       (.scalar (.text "format"), .scalar (.text l.format.name))]
      ["format", "level"] fun _ => True := by
    refine .entry rfl rfl rfl (yields_text l.level) fun _ _ => ?_
    refine .entry rfl rfl rfl (yields_format l.format) fun _ _ => ?_
    exact .done trivial
  exact hfills.record (by decide) true

end LogSettings

theorem Reporting.yields_reporting (r : Reporting) :
    Yields Reporting.ofNode r.toNode fun _ => True := by
  have hfills : Fills Reporting.fields [] Reporting.default
      [(.scalar (.text "metrics"), r.metrics.toNode),
       (.scalar (.text "logging"), r.logging.toNode)]
      ["logging", "metrics"] fun _ => True := by
    refine .entry rfl rfl rfl (MetricsSettings.yields_metrics r.metrics) fun _ _ => ?_
    refine .entry rfl rfl rfl (LogSettings.yields_logging r.logging) fun _ _ => ?_
    exact .done trivial
  exact hfills.record (by decide) true

/-! ### Settings -/

namespace Settings

theorem yields_settings (s : Settings) :
    Yields ofNode s.toNode fun t => t.routes = s.routes := by
  have hroutes : Yields (readList Route.ofNode) (.list false (s.routes.map Route.toNode) true)
      (· = s.routes) := by
    refine (yields_list (fun r _ => Route.yields_route r) false true).mono fun rs hrs => ?_
    generalize s.routes = qs at hrs ⊢
    induction hrs with
    | nil => rfl
    | cons hr _ ih => rw [hr, ih]
  have hfills : Fills fields [] default
      [(.scalar (.text "routes"), .list false (s.routes.map Route.toNode) true),
       (.scalar (.text "observability"), s.reporting.toNode)]
      ["observability", "routes"] fun t => t.routes = s.routes := by
    refine .entry rfl rfl rfl hroutes ?_
    rintro _ rfl
    refine .entry rfl rfl rfl (Reporting.yields_reporting s.reporting) fun _ _ => ?_
    exact .done rfl
  exact hfills.record (by decide) true

/-- Without variables nothing is replaced. -/
theorem override_none (s : Settings) : s.override Variables.none = (s, .ok ()) := by
  have hparts : PolicyOverride.ofVariables Variables.none = .ok ⟨none, none, none, none, none⟩ := by
    unfold PolicyOverride.ofVariables Variables.read Variables.none
    rfl
  have hroutes : s.routes.map (Route.override ⟨none, none, none, none, none⟩) = s.routes :=
    (List.map_congr_left fun _ _ => rfl).trans (List.map_id _)
  have hlevel : s.overrideLevel Variables.none = s := rfl
  unfold override
  rw [hparts, hlevel]
  dsimp only
  rw [hroutes]

/-- Validity is a matter of the routes. -/
theorem validate_of_routes_eq {s t : Settings} (h : t.routes = s.routes) : t.validate = s.validate := by
  unfold validate faults
  rw [h]

/-- Valid settings whose tree comes back from a text are loaded from it. -/
theorem load_of_returnsIn {s : Settings} (hvalid : s.validate = .ok ()) {text : String}
    (hreturns : s.toNode.returnsIn (Yaml.read text) = true) :
    ∃ t, load .yaml Variables.none text = .ok t ∧ t.routes = s.routes := by
  obtain ⟨t, hroutes, htake⟩ := (yields_settings s).takeAll hreturns
  have hread : read .yaml text = .ok t := by
    unfold read Format.read
    rw [htake]
    rfl
  refine ⟨t, ?_, hroutes⟩
  rw [load_of_override hread (override_none t), validate_of_routes_eq hroutes, hvalid]
  rfl

/-- The same for the text that settings are written as. -/
theorem survives_of_returnsIn {s : Settings} (hvalid : s.validate = .ok ())
    (hreturns : s.toNode.returnsIn (Yaml.read s.text) = true) : s.survives = true := by
  obtain ⟨t, ht, hroutes⟩ := load_of_returnsIn hvalid hreturns
  unfold survives
  rw [ht]
  exact beq_iff_eq.mpr hroutes

/-- **What was written is loaded with the same routes.** Every duration is read from its written form, up
to the longest one, and every algorithm from its short name; a policy comes back as it was from whatever
tree its written form is returned as. Valid settings whose tree comes back from a text are loaded from it,
without variables, with the routes that they had. -/
theorem written_loads (d : Duration) (a : Algorithm) (p : Policy) (n : Node) (s : Settings)
    (text : String) :
    Duration.read d.text = .ok d ∧ Algorithm.read a.key = .ok a ∧
      (p.toNode.returnsAs n = true → Policy.ofNode.take n = .ok p) ∧
      (s.validate = .ok () → s.toNode.returnsIn (Yaml.read text) = true →
        ∃ t, load .yaml Variables.none text = .ok t ∧ t.routes = s.routes) := by
  refine ⟨Duration.read_text d, Algorithm.read_key a, ?_, fun hvalid hreturns => load_of_returnsIn hvalid hreturns⟩
  intro hreturns
  obtain ⟨q, rfl, htake⟩ := (Policy.yields_policy p).take hreturns
  exact htake

/-- One route in a text of one line, with a flag, a number and a duration that have lost their types. -/
theorem written_loads_route :
    let p : Policy := ⟨.weightedLeastConnections, 4294967295, true, false, "c", "", "w",
      ⟨31557600000000004, by decide⟩⟩
    let s : Settings := ⟨[⟨"r", "u", p⟩], ⟨⟨true, none, [], .empty⟩, ⟨"l", .json⟩⟩⟩
    let text := "\x7broutes: [\x7bid: r,service_id: u,selection: \x7balgorithm: WLC," ++
      "max_choose_tries: 4294967295,fallback_all_to_candidates: true,null_ping_to_reachable: false," ++
      "candidate_metadata_prefix: c,rule_set: '',weight_metadata_key: w,retry_backoff: 1year 4ns\x7d\x7d]," ++
      "observability: \x7bmetrics: \x7benabled: true,listen_address: ~,latency_buckets: []," ++
      "global_labels: \x7b\x7d\x7d,logging: \x7blevel: l,format: json\x7d\x7d\x7d"
    s.validate = .ok () ∧ s.toNode.returnsIn (Yaml.read text) = true ∧
      (∃ t, load .yaml Variables.none text = .ok t ∧ t.routes = s.routes) ∧
      p.toNode.returnsAs p.toNode = true ∧ Policy.ofNode.take p.toNode = .ok p := by
  intro p s text
  have hvalid : s.validate = .ok () := by decide +kernel
  have hreturns : s.toNode.returnsIn (Yaml.read text) = true := by decide +kernel
  have hpolicy : p.toNode.returnsAs p.toNode = true := by decide +kernel
  obtain ⟨-, -, htake, hload⟩ := written_loads p.backoff p.algorithm p p.toNode s text
  exact ⟨hvalid, hreturns, hload hvalid hreturns, hpolicy, htake hpolicy⟩

end Settings

end LoadBalancer

import Mathlib
import LoadBalancer.Proofs.Settings.RoundTrip
import LoadBalancer.Proofs.Text.Fold

/-!
# The names of algorithms

Twenty names stand for ten algorithms. In small letters no two of them are the same, so a text means one
algorithm at most, whichever is looked for first.

* `Algorithm.eq_of_names` – **no name stands for two algorithms**, of all pairs of names;
* `Algorithm.eq_of_isCalled`, `Algorithm.find?_isCalled` – the same for what is called by a text, and for a
  search in any order;
* `Algorithm.read_eq_ok_iff`, `Algorithm.read_eq_error_iff` – when a text is read, and what is said otherwise;
* `Algorithm.toOption_read_of_wording_eq` – only the wording of a text matters;
* `Algorithm.returnsIn_written` – the written form of an algorithm, in both formats;
* `Algorithm.read_decides` – all of this about a text.
-/

namespace LoadBalancer

open LoadBalancer.Text LoadBalancer.Document

namespace Algorithm

/-! ### No two names are the same -/

/-- The short name and the long name. -/
def names (a : Algorithm) : List String := [a.key, a.name]

theorem isCalled_iff {a : Algorithm} {s : String} :
    a.isCalled s = true ↔ ∃ x ∈ a.names, sameFolded x s = true := by
  simp [isCalled, names]

/-- No name stands for two algorithms, up to ASCII case. -/
theorem eq_of_names {a b : Algorithm} {x y : String} (hx : x ∈ a.names) (hy : y ∈ b.names)
    (h : sameFolded x y = true) : a = b := by
  have hpairs : ∀ a ∈ all, ∀ b ∈ all, ∀ x ∈ a.names, ∀ y ∈ b.names, sameFolded x y = true → a = b := by
    decide +kernel
  exact hpairs a (mem_all a) b (mem_all b) x hx y hy h

/-- No text means two algorithms. -/
theorem eq_of_isCalled {a b : Algorithm} {s : String} (ha : a.isCalled s = true)
    (hb : b.isCalled s = true) : a = b := by
  obtain ⟨x, hx, hxs⟩ := isCalled_iff.mp ha
  obtain ⟨y, hy, hys⟩ := isCalled_iff.mp hb
  apply eq_of_names hx hy
  rw [sameFolded_iff] at hxs hys ⊢
  exact hxs.trans hys.symm

/-- It does not matter in which order algorithms are looked through. -/
theorem find?_isCalled {order : List Algorithm} (horder : ∀ a, a ∈ order) {s : String} {a : Algorithm} :
    order.find? (·.isCalled s) = some a ↔ a.isCalled s = true := by
  constructor
  · intro hfound
    simpa using List.find?_some hfound
  · intro ha
    cases hfound : order.find? (·.isCalled s) with
    | none => exact absurd ha (List.find?_eq_none.mp hfound a (horder a))
    | some b =>
        have hb : b.isCalled s = true := by simpa using List.find?_some hfound
        rw [eq_of_isCalled hb ha]

/-! ### Reading -/

section Reading

variable {raw raw' : String} {a : Algorithm}

theorem toOption_read (raw : String) : (read raw).toOption = all.find? (·.isCalled (trim raw)) := by
  unfold read
  cases all.find? (·.isCalled (trim raw)) <;> rfl

theorem read_eq_ok_iff : read raw = .ok a ↔ a.isCalled (trim raw) = true := by
  rw [← find?_isCalled mem_all]
  unfold read
  cases all.find? (·.isCalled (trim raw)) <;> simp

theorem read_of_not_called (h : ∀ a : Algorithm, ¬a.isCalled (trim raw) = true) :
    read raw = .error (.unknownAlgorithm (trim raw)) := by
  have hnone : all.find? (·.isCalled (trim raw)) = none := List.find?_eq_none.mpr fun a _ => h a
  unfold read
  rw [hnone]

theorem read_eq_error_iff {e : Error} :
    read raw = .error e ↔
      (∀ a : Algorithm, ¬a.isCalled (trim raw) = true) ∧ e = .unknownAlgorithm (trim raw) := by
  constructor
  · intro h
    have hnone : ∀ a : Algorithm, ¬a.isCalled (trim raw) = true := by
      intro a ha
      rw [read_eq_ok_iff.mpr ha] at h
      cases h
    rw [read_of_not_called hnone] at h
    exact ⟨hnone, (Except.error.inj h).symm⟩
  · rintro ⟨hnone, rfl⟩
    exact read_of_not_called hnone

/-- Texts of the same wording are read as the same algorithm, if they are read. -/
theorem toOption_read_of_wording_eq (h : wording raw' = wording raw) :
    (read raw').toOption = (read raw).toOption := by
  have hcalled : ∀ a : Algorithm, a.isCalled (trim raw') = a.isCalled (trim raw) := by
    intro a
    have hsame : ∀ x : String, sameFolded x (trim raw') = sameFolded x (trim raw) := by
      intro x
      show (_ == lowerList (trim raw').toList) = (_ == lowerList (trim raw).toList)
      rw [toList_trim, toList_trim]
      exact congrArg _ h
    rw [isCalled, isCalled, hsame, hsame]
  rw [toOption_read, toOption_read]
  simp only [hcalled]

/-- Blanks at the two ends are not even mentioned in an error. -/
theorem read_append {before after : String} (hbefore : isBlankText before = true)
    (hafter : isBlankText after = true) (raw : String) : read (before ++ raw ++ after) = read raw := by
  unfold read
  rw [trim_append hbefore hafter]

/-- An algorithm is read by its long name. -/
theorem read_name (a : Algorithm) : read a.name = .ok a := by
  cases a <;> decide +kernel

end Reading

/-! ### Documents -/

/-- The written form of an algorithm comes back in both formats. -/
theorem returnsIn_written (f : Format) (a : Algorithm) :
    (Node.scalar (.text a.key)).returnsIn (f.read (Yaml.writeText a.key)) = true := by
  cases f <;> cases a <;> decide +kernel

/-! ### The main statement -/

/-- **How the names of algorithms are read.** A text is read without the blanks at its two ends. It is read as an
algorithm exactly if the rest is one of the two names of the algorithm, up to ASCII case. There is one such
algorithm at most, so the algorithms can be looked through in any order; if there is none, the error is that no
algorithm has the name, with the rest of the text. Whether a text is read, and as what, does not depend on the
case of its ASCII letters, nor anything on blanks around it. Both names of an algorithm are read as the algorithm,
and so is its written form, from whatever tree it comes back as and from a text of either format. -/
theorem read_decides (raw : String) :
    (∃ before after, isBlankText before = true ∧ isBlankText after = true ∧
      raw = before ++ trim raw ++ after ∧
      (∀ c, (trim raw).toList.head? = some c → isBlank c = false) ∧
      ∀ c, (trim raw).toList.getLast? = some c → isBlank c = false) ∧
    let rest := trim raw
    let Named := fun a : Algorithm => sameFolded rest a.key = true ∨ sameFolded rest a.name = true
    (∀ a, read raw = .ok a ↔ Named a) ∧
    (∀ a b, Named a → Named b → a = b) ∧
    (∀ order : List Algorithm, (∀ a, a ∈ order) →
      order.find? (·.isCalled rest) = (read raw).toOption) ∧
    (∀ e, read raw = .error e ↔ (∀ a, ¬Named a) ∧ e = .unknownAlgorithm rest) ∧
    (∀ raw', Relation.EqvGen Respelled raw raw' → (read raw').toOption = (read raw).toOption) ∧
    (∀ before after, isBlankText before = true → isBlankText after = true →
      read (before ++ raw ++ after) = read raw) ∧
    ∀ a : Algorithm, read a.key = .ok a ∧ read a.name = .ok a ∧
      (∀ n, (Node.scalar (.text a.key)).returnsAs n = true → Policy.readAlgorithm.take n = .ok a) ∧
      ∀ f : Format, Policy.readAlgorithm.takeAll (f.read (Yaml.writeText a.key)) = .ok a := by
  obtain ⟨before, after, hbefore, hafter, hsplit⟩ := exists_append_trim raw
  refine ⟨⟨before, after, hbefore, hafter, hsplit, ?_, ?_⟩, ?_⟩
  · exact fun c => isBlank_of_head?_trim
  · exact fun c => isBlank_of_getLast?_trim
  intro rest Named
  have hnamed : ∀ a, a.isCalled rest = true ↔ Named a := by
    intro a
    show (sameFolded a.key rest || sameFolded a.name rest) = true ↔ _
    rw [Bool.or_eq_true, sameFolded_comm a.key, sameFolded_comm a.name]
  refine ⟨?_, ?_, ?_, ?_, ?_, fun before after hbefore hafter => read_append hbefore hafter raw, ?_⟩
  · intro a
    exact read_eq_ok_iff.trans (hnamed a)
  · intro a b ha hb
    exact eq_of_isCalled ((hnamed a).mpr ha) ((hnamed b).mpr hb)
  · intro order horder
    apply Option.ext
    intro a
    rw [find?_isCalled horder, toOption_read, find?_isCalled mem_all]
  · intro e
    rw [read_eq_error_iff]
    simp only [rest, hnamed]
  · intro raw' hrespelled
    exact toOption_read_of_wording_eq (wording_eq_of_eqvGen hrespelled)
  · intro a
    refine ⟨read_key a, read_name a, ?_, ?_⟩
    · intro n hn
      obtain ⟨b, rfl, htake⟩ := (Policy.yields_algorithm a).take hn
      exact htake
    · intro f
      obtain ⟨b, rfl, htake⟩ := (Policy.yields_algorithm a).takeAll (returnsIn_written f a)
      exact htake

/-- A name in letters of both cases between blanks, the last of which is no ASCII character, and a text between
blanks that is no name. -/
theorem read_decides_padded :
    let raw := " wRr\u00a0"
    read raw = .ok .weightedRoundRobin ∧
      (∀ a : Algorithm, sameFolded "wRr" a.key = true ∨ sameFolded "wRr" a.name = true →
        a = .weightedRoundRobin) ∧
      all.reverse.find? (·.isCalled "wRr") = some .weightedRoundRobin ∧
      (read "WRR").toOption = some .weightedRoundRobin ∧
      read " P2C\t" = .error (.unknownAlgorithm "P2C") ∧
      (∀ a : Algorithm, Policy.readAlgorithm.take (.scalar (.plain a.key)) = .ok a) := by
  intro raw
  have htrim : trim raw = "wRr" := by decide +kernel
  obtain ⟨-, hok, hunique, horder, -, hrespelled, -, hwritten⟩ := read_decides raw
  rw [htrim] at hok hunique horder
  have hread : read raw = .ok .weightedRoundRobin := (hok _).mpr (Or.inl (by decide +kernel))
  have hspelling : Relation.EqvGen Respelled raw "WRR" := by
    have hblank : isBlankText " " = true ∧ isBlankText "\u00a0" = true := by decide
    have hpadded : Relation.EqvGen Respelled "wRr" raw :=
      .rel _ _ (.padded "wRr" hblank.1 hblank.2)
    have hfolded : Relation.EqvGen Respelled "wRr" "WRR" := .rel _ _ (.folded (by decide +kernel))
    exact .trans _ _ _ (.symm _ _ hpadded) hfolded
  refine ⟨hread, ?_, ?_, ?_, ?_, ?_⟩
  · intro a ha
    exact hunique a .weightedRoundRobin ha ((hok _).mp hread)
  · rw [horder all.reverse fun a => List.mem_reverse.mpr (mem_all a), hread]
    rfl
  · rw [hrespelled "WRR" hspelling, hread]
    rfl
  · obtain ⟨-, -, -, -, herror, -⟩ := read_decides " P2C\t"
    refine (herror _).mpr ⟨?_, by decide +kernel⟩
    intro a
    cases a <;> decide +kernel
  · intro a
    refine (hwritten a).2.2.1 _ ?_
    simp [Node.returnsAs, Scalar.returnsAs]

end Algorithm

end LoadBalancer

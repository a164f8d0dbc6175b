import Mathlib
import LoadBalancer.Proofs.Metrics.Sides

/-!
# Measurements without the names of algorithms

Two runs that go by different algorithms may measure the same things otherwise.

* `Measurement.anonymous` – a measurement with nothing in the place of the name of the algorithm;
* `Tags.isAnonymous` – a filter that asks for no algorithm; under such a filter, measurements that are the
  same but for these names add the same to totals and timers;
* `Sink.Alike` – two sinks come out of one by such measurements: `Sink.Alike.total` and
  `Sink.Alike.timings` say what can be read back of them.
-/

namespace LoadBalancer

/-! ### Tags -/

/-- The tag with nothing in the place of the name of an algorithm. -/
def blank (tag : String × String) : String × String :=
  if tag.1 = "algorithm" then (tag.1, "") else tag

/-- The filter asks for no algorithm. -/
def Tags.isAnonymous (filter : Tags) : Bool := filter.all fun e => e.1 != "algorithm"

/-- Nothing but the algorithm is blanked. -/
theorem Labels.get?_ofList_blank {name : String} (h : name ≠ "algorithm") (tags : Tags) :
    (ofList (tags.map blank)).get? name = (ofList tags).get? name := by
  have hfilter : (tags.map blank).filter (·.1 = name) = tags.filter (·.1 = name) := by
    induction tags with
    | nil => rfl
    | cons tag rest ih =>
        rw [List.map_cons, List.filter_cons, List.filter_cons, ih]
        by_cases halgorithm : tag.1 = "algorithm"
        · simp [blank, halgorithm, h.symm]
        · simp only [blank, halgorithm, if_false]
  rw [get?_ofList, get?_ofList, hfilter]

theorem Sink.passes_blank {filter : Tags} (h : filter.isAnonymous = true) (tags : Tags) :
    passes filter (Labels.ofList (tags.map blank)) = passes filter (Labels.ofList tags) := by
  unfold passes
  rw [Bool.eq_iff_iff, List.all_eq_true, List.all_eq_true]
  refine forall₂_congr fun e he => ?_
  have hne : e.1 ≠ "algorithm" := by simpa using List.all_eq_true.mp h e he
  rw [Labels.get?_ofList_blank hne]

/-! ### Measurements -/

namespace Measurement

/-- The measurement with nothing in the place of the name of an algorithm. -/
def anonymous : Measurement → Measurement
  | count name tags n => count name (tags.map blank) n
  | time name tags nanos => time name (tags.map blank) nanos

section Filters

variable {filter : Tags} (h : filter.isAnonymous = true)

include h

theorem adds_anonymous (m : Measurement) (name : String) :
    m.anonymous.adds name filter = m.adds name filter := by
  cases m with
  | count other tags n => simp only [anonymous, adds, Sink.passes_blank h]
  | time other tags nanos => rfl

theorem times_anonymous (m : Measurement) (name : String) :
    m.anonymous.times name filter = m.times name filter := by
  cases m with
  | count other tags n => rfl
  | time other tags nanos => simp only [anonymous, times, Sink.passes_blank h]

theorem sumAdds_anonymous (ms : List Measurement) (name : String) :
    sumAdds name filter (ms.map anonymous) = sumAdds name filter ms := by
  induction ms with
  | nil => rfl
  | cons m rest ih => rw [List.map_cons, sumAdds_cons, sumAdds_cons, adds_anonymous h, ih]

theorem allTimes_anonymous (ms : List Measurement) (name : String) :
    allTimes name filter (ms.map anonymous) = allTimes name filter ms := by
  induction ms with
  | nil => rfl
  | cons m rest ih => rw [List.map_cons, allTimes_cons, allTimes_cons, times_anonymous h, ih]

end Filters

end Measurement

open Measurement (anonymous)

/-! ### Sinks -/

namespace Sink

/-- The two come out of one sink, by measurements that are the same but for the names of algorithms. -/
def Alike (s s' : Sink) : Prop :=
  ∃ (first : Sink) (ms ms' : List Measurement),
    s = first.measure ms ∧ s' = first.measure ms' ∧ ms'.map anonymous = ms.map anonymous

theorem timings_of_not_memory {s : Sink} (h : s.isMemory = false) (name : String) (filter : Tags) :
    s.timings name filter = [] := by
  cases s with
  | memory t => cases h
  | _ => rfl

namespace Alike

variable {s s' : Sink}

theorem refl (s : Sink) : Alike s s := ⟨s, [], [], rfl, rfl, rfl⟩

theorem measure (h : Alike s s') {ms ms' : List Measurement}
    (hms : ms'.map anonymous = ms.map anonymous) : Alike (s.measure ms) (s'.measure ms') := by
  obtain ⟨first, xs, xs', rfl, rfl, hxs⟩ := h
  refine ⟨first, xs ++ ms, xs' ++ ms', (measure_append ..).symm, (measure_append ..).symm, ?_⟩
  rw [List.map_append, List.map_append, hxs, hms]

theorem isMemory (h : Alike s s') : s'.isMemory = s.isMemory := by
  obtain ⟨first, ms, ms', rfl, rfl, -⟩ := h
  rw [isMemory_measure, isMemory_measure]

theorem clear (h : Alike s s') : Alike s.clear s'.clear := by
  have hmemory := h.isMemory
  cases s with
  | memory t =>
      cases s' with
      | memory t' => exact refl _
      | _ => cases hmemory
  | _ =>
      cases s' with
      | memory t' => cases hmemory
      | _ => exact h

/-- Totals that do not ask for an algorithm are the same. -/
theorem total (h : Alike s s') (name : String) {filter : Tags} (hfilter : filter.isAnonymous = true) :
    s'.total name filter = s.total name filter := by
  obtain ⟨first, ms, ms', rfl, rfl, hms⟩ := h
  cases first with
  | memory t =>
      have hsum := congrArg (Measurement.sumAdds name filter) hms
      rw [Measurement.sumAdds_anonymous hfilter, Measurement.sumAdds_anonymous hfilter] at hsum
      rw [total_measure, total_measure, hsum]
  | _ =>
      rw [total_of_not_memory (by rw [isMemory_measure]; rfl),
        total_of_not_memory (by rw [isMemory_measure]; rfl)]

/-- So are observations, in some order. -/
theorem timings (h : Alike s s') (name : String) {filter : Tags}
    (hfilter : filter.isAnonymous = true) :
    (s'.timings name filter).Perm (s.timings name filter) := by
  obtain ⟨first, ms, ms', rfl, rfl, hms⟩ := h
  cases first with
  | memory t =>
      have htimes := congrArg (Measurement.allTimes name filter) hms
      rw [Measurement.allTimes_anonymous hfilter, Measurement.allTimes_anonymous hfilter] at htimes
      have hthere := timings_measure t ms' name filter
      rw [htimes] at hthere
      exact hthere.trans (timings_measure t ms name filter).symm
  | _ =>
      rw [timings_of_not_memory (by rw [isMemory_measure]; rfl),
        timings_of_not_memory (by rw [isMemory_measure]; rfl)]

end Alike

end Sink

end LoadBalancer

import Mathlib
import LoadBalancer.Proofs.Metrics.Measurement
import LoadBalancer.Proofs.Registry.Sides

/-!
# Two sides of the counters

Counters are told apart by their tags, so that totals under a filter that names a service or an instance of
ours do not count what is measured about the other side.

* `Side.reads` – a filter that names something of ours;
* `Side.Unread` – a measurement that adds nothing to any total under such a filter;
* `Sink.Agree` – two sinks are the same to us: `Sink.Agree.measure` and `Sink.agree_of_unread` say what
  measurements make of it.
-/

namespace LoadBalancer

/-- What labels have is among the entries that they were made of. -/
theorem Labels.mem_of_get?_ofList {es : List (String × String)} {name text : String}
    (h : (ofList es).get? name = some text) : (name, text) ∈ es := by
  rw [get?_ofList] at h
  obtain ⟨e, hlast, rfl⟩ := Option.map_eq_some_iff.mp h
  obtain ⟨hmem, hname⟩ := List.mem_filter.mp (List.mem_of_getLast? hlast)
  rw [← of_decide_eq_true hname]
  exact hmem

namespace Side

/-- The tag names a service or an instance of ours. -/
def tags (side : Side) (tag : String × String) : Bool :=
  tag.1 == "service" && side.services tag.2 || tag.1 == "instance" && side.ids tag.2

/-- The filter names a service or an instance of ours. -/
def reads (side : Side) (filter : Tags) : Bool := filter.any side.tags

/-- The measurement adds nothing to totals under filters of ours. -/
def Unread (side : Side) (m : Measurement) : Prop :=
  ∀ name filter, side.reads filter = true → m.adds name filter = 0

variable {side : Side}

theorem unread_time (name : String) (tags : Tags) (nanos : Nat) :
    side.Unread (.time name tags nanos) := fun _ _ _ => rfl

/-- A counter whose tags name nothing of ours. -/
theorem unread_count {tags : Tags} (name : String) (n : Nat)
    (h : ∀ tag ∈ tags, side.tags tag = false) : side.Unread (.count name tags n) := by
  intro other filter hreads
  obtain ⟨tag, htag, hours⟩ := List.any_eq_true.mp hreads
  have hfails : Sink.passes filter (Labels.ofList tags) = false := by
    rw [Sink.passes, List.all_eq_false]
    refine ⟨tag, htag, ?_⟩
    rw [beq_iff_eq]
    intro hget
    rw [h tag (Labels.mem_of_get?_ofList hget)] at hours
    cases hours
  simp [Measurement.adds, hfails]

theorem sumAdds_of_unread {ms : List Measurement} (h : ∀ m ∈ ms, side.Unread m) (name : String)
    {filter : Tags} (hreads : side.reads filter = true) :
    Measurement.sumAdds name filter ms = 0 := by
  induction ms with
  | nil => rfl
  | cons m rest ih =>
      rw [Measurement.sumAdds_cons, h m List.mem_cons_self name filter hreads,
        ih fun m' hm' => h m' (List.mem_cons_of_mem _ hm')]

end Side

namespace Sink

/-- Measurements can be read back. -/
def isMemory : Sink → Bool
  | memory _ => true
  | _ => false

theorem isMemory_make (s : Sink) (m : Measurement) : (s.make m).isMemory = s.isMemory := by
  cases s <;> cases m <;> rfl

theorem isMemory_measure (s : Sink) (ms : List Measurement) :
    (s.measure ms).isMemory = s.isMemory := by
  induction ms generalizing s with
  | nil => rfl
  | cons m rest ih => exact (ih (s.make m)).trans (isMemory_make s m)

theorem total_of_not_memory {s : Sink} (h : s.isMemory = false) (name : String) (filter : Tags) :
    s.total name filter = 0 := by
  cases s with
  | memory t => cases h
  | _ => rfl

theorem total_lt (s : Sink) (name : String) (filter : Tags) : s.total name filter < size64 := by
  cases s with
  | memory t => exact Nat.mod_lt _ (by decide)
  | _ => exact Nat.two_pow_pos 64

/-- The second sink is the same to us as the first. -/
structure Agree (side : Side) (s s' : Sink) : Prop where
  memory : s'.isMemory = s.isMemory
  total : ∀ name filter, side.reads filter = true → s'.total name filter = s.total name filter

variable {side : Side} {s s' s'' : Sink}

namespace Agree

theorem refl (s : Sink) : Agree side s s := ⟨rfl, fun _ _ _ => rfl⟩

theorem symm (h : Agree side s s') : Agree side s' s where
  memory := h.memory.symm
  total := fun name filter hreads => (h.total name filter hreads).symm

theorem trans (h : Agree side s s') (h' : Agree side s' s'') : Agree side s s'' where
  memory := h'.memory.trans h.memory
  total := fun name filter hreads => (h'.total name filter hreads).trans (h.total name filter hreads)

/-- Both are told of measurements that add the same. -/
theorem measure (h : Agree side s s') {ms ms' : List Measurement}
    (hms : ∀ name filter, side.reads filter = true →
      Measurement.sumAdds name filter ms' = Measurement.sumAdds name filter ms) :
    Agree side (s.measure ms) (s'.measure ms') where
  memory := by
    rw [isMemory_measure, isMemory_measure, h.memory]
  total := by
    intro name filter hreads
    have hmemory := h.memory
    have htotal := h.total name filter hreads
    cases s with
    | memory t =>
        cases s' with
        | memory t' => rw [total_measure, total_measure, htotal, hms name filter hreads]
        | _ => cases hmemory
    | _ =>
        rw [total_of_not_memory (by rw [isMemory_measure, hmemory]; rfl),
          total_of_not_memory (by rw [isMemory_measure]; rfl)]

theorem clear (h : Agree side s s') : Agree side s.clear s'.clear := by
  have hmemory := h.memory
  cases s with
  | memory t =>
      cases s' with
      | memory t' => exact refl _
      | _ => cases hmemory
  | _ =>
      cases s' with
      | memory t' => cases hmemory
      | _ => exact h

end Agree

/-- What is measured about the other side is nothing to us. -/
theorem agree_of_unread (s : Sink) {ms : List Measurement} (h : ∀ m ∈ ms, side.Unread m) :
    Agree side s (s.measure ms) where
  memory := isMemory_measure s ms
  total := by
    intro name filter hreads
    cases s with
    | memory t =>
        rw [total_measure, Side.sumAdds_of_unread h name hreads, Nat.add_zero,
          Nat.mod_eq_of_lt (total_lt _ name filter)]
    | _ =>
        rw [total_of_not_memory (by rw [isMemory_measure]; rfl), total_of_not_memory rfl]

end Sink

end LoadBalancer

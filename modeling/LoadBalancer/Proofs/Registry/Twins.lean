import Mathlib
import LoadBalancer.Proofs.Registry.Sides

/-!
# Two registries that are the same to us

What is done with an instance of ours, in two registries that are the same to us, has the same answer in both
and leaves them the same to us.

* `Twin` – two runs with the same answer, in states that are related;
* `Registry.twin_evict`, `twin_mark`, `twin_connect`, `twin_disconnect`, `twin_statusOf`,
  `twin_statusesOf` – the operations.
-/

namespace LoadBalancer

/-- Two runs have the same answer, and end in states that are related. -/
def Twin {α σ : Type} (same : σ → σ → Prop) (p p' : α × σ) : Prop :=
  p'.1 = p.1 ∧ same p.2 p'.2

namespace Twin

variable {α β σ : Type} {same : σ → σ → Prop}

theorem intro (a : α) {s s' : σ} (h : same s s') : Twin same (a, s) (a, s') := ⟨rfl, h⟩

/-- What follows on an answer. -/
theorem map {p p' : α × σ} (h : Twin same p p') (f : α → β) : Twin same (f p.1, p.2) (f p'.1, p'.2) :=
  ⟨congrArg f h.1, h.2⟩

end Twin

namespace Registry

variable {side : Side} {r r' : Registry}

section Operations

variable (h : Agree side r r') {id : String} (hid : side.ids id = true)

include h hid

theorem twin_evict : Twin (Agree side) (r.evict id) (r'.evict id) :=
  ⟨h.evicts hid, RegistryAction.agree_run h (a := .evict id) hid⟩

theorem twin_mark (health : Health) : Twin (Agree side) (r.mark id health) (r'.mark id health) := by
  refine ⟨?_, RegistryAction.agree_run h (a := .mark id health) hid⟩
  unfold mark
  rw [h.known id hid]
  cases r.known? id <;> rfl

theorem twin_disconnect : Twin (Agree side) (r.disconnect id) (r'.disconnect id) := by
  have hafter := RegistryAction.agree_run h (a := .disconnect id) hid
  rw [RegistryAction.run_disconnect, RegistryAction.run_disconnect] at hafter
  refine ⟨?_, hafter⟩
  rw [answer_disconnect, answer_disconnect, h.connections hid]

end Operations

section Records

variable (h : Agree side r r') {record : Instance} (hrecord : side.has true record = true)

include h hrecord

theorem twin_connect : Twin (Agree side) (r.connect record) (r'.connect record) := by
  refine ⟨?_, RegistryAction.agree_run h (a := .connect record) hrecord⟩
  rw [answer_connect, answer_connect, h.connections (Side.ids_of_has hrecord)]

theorem twin_statusOf : Twin (Agree side) (r.statusOf record) (r'.statusOf record) := by
  refine ⟨?_, RegistryAction.agree_run h (a := .status record) hrecord⟩
  simp only [statusOf, known?_ensure_self, h.known record.id (Side.ids_of_has hrecord)]

end Records

/-- By induction on the instances. -/
theorem twin_statusesOf (h : Agree side r r') {records : List Instance}
    (hrecords : ∀ record ∈ records, side.has true record = true) :
    Twin (Agree side) (r.statusesOf records) (r'.statusesOf records) := by
  induction records generalizing r r' with
  | nil => exact .intro [] h
  | cons record rest ih =>
      obtain ⟨hfirst, hafter⟩ := twin_statusOf h (hrecords record List.mem_cons_self)
      obtain ⟨hlater, hend⟩ := ih hafter fun i hi => hrecords i (List.mem_cons_of_mem _ hi)
      refine ⟨?_, hend⟩
      simp only [statusesOf, hfirst, hlater]

end Registry

end LoadBalancer

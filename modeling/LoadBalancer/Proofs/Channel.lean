import Mathlib
import LoadBalancer.Channel

/-!
# What readers of a channel get

* `Channel.unread` – what a reader has not read;
* `Channel.items_read` – a reader that has lost nothing gets all of it;
* `Channel.unread_subscribe`, `Channel.unread_append` – there is nothing when a reader has just joined or
  read, and what is announced then is added;
* `Channel.heard`, `Channel.items_heard` – a reader that reads now and then, and loses nothing, gets all that
  is announced after it has joined.
-/

namespace LoadBalancer.Channel

variable {α : Type} {c c' : Channel α} {r : Reader}

/-- What a reader has not read, the newest first, whether it is kept or not. -/
def unread (c : Channel α) (r : Reader) : List α := c.sent.take (c.sent.length - r.passed)

/-- A reader that has lost nothing gets all of it. -/
theorem items_read (h : (c.read r).1.lost = 0) : (c.read r).1.items = (c.unread r).reverse := by
  simp only [read] at h ⊢
  rw [unread, Nat.min_eq_left (by omega)]

theorem unread_subscribe (c : Channel α) : c.unread c.subscribe = [] := by
  simp [unread, subscribe]

theorem unread_append {new : List α} (h : c'.sent = new ++ c.sent) (hr : r.passed ≤ c.sent.length) :
    c'.unread r = new ++ c.unread r := by
  unfold unread
  rw [h, List.length_append, Nat.add_sub_assoc hr, List.take_length_add_append]

/-- What was announced after a reader has joined is what it has not read. -/
theorem unread_of_sent {new : List α} (h : c'.sent = new ++ c.sent) : c'.unread c.subscribe = new := by
  have hjoined : c.subscribe.passed ≤ c.sent.length := le_refl _
  rw [unread_append h hjoined, unread_subscribe, List.append_nil]

/-! ### Reading now and then -/

section Parts

variable {σ β : Type} (run : σ → β → σ) (channel : σ → Channel α)

/-- What a reader of the channel of a state gets that reads after each of some parts of a run. -/
def heard (s : σ) (reader : Reader) : List β → List (Batch α)
  | [] => []
  | part :: rest =>
    let after := run s part
    ((channel after).read reader).1 :: heard after ((channel after).read reader).2 rest

/-- What has been announced stays announced, by induction on the parts of the run. -/
theorem grows_foldl (hgrows : ∀ s part, (channel s).sent <:+ (channel (run s part)).sent) (s : σ)
    (parts : List β) : (channel s).sent <:+ (channel (parts.foldl run s)).sent := by
  induction parts generalizing s with
  | nil => exact List.suffix_refl _
  | cons part rest ih => exact (hgrows s part).trans (ih (run s part))

/-- **A reader that loses nothing** gets all that is announced after it has joined, in order. The induction
is on the parts after which it reads. -/
theorem items_heard (hgrows : ∀ s part, (channel s).sent <:+ (channel (run s part)).sent) {s : σ}
    {parts : List β} (hkept : ∀ batch ∈ heard run channel s (channel s).subscribe parts, batch.lost = 0) :
    (heard run channel s (channel s).subscribe parts).flatMap Batch.items =
      ((channel (parts.foldl run s)).unread (channel s).subscribe).reverse := by
  induction parts generalizing s with
  | nil =>
      show [] = ((channel s).unread (channel s).subscribe).reverse
      rw [unread_subscribe]
      rfl
  | cons part rest ih =>
      have hfirst := items_read (hkept _ List.mem_cons_self)
      have hrest := ih fun batch hbatch => hkept batch (List.mem_cons_of_mem _ hbatch)
      obtain ⟨new, hnew⟩ := grows_foldl run channel hgrows (run s part) rest
      obtain ⟨own, hown⟩ := hgrows s part
      -- what is announced in the first part comes before what is announced in the others
      have hall : (channel (rest.foldl run (run s part))).sent = (new ++ own) ++ (channel s).sent := by
        rw [← hnew, ← hown, List.append_assoc]
      rw [unread_of_sent hnew.symm] at hrest
      rw [unread_of_sent hown.symm] at hfirst
      show _ ++ (heard run channel (run s part) (channel (run s part)).subscribe rest).flatMap _ = _
      rw [hrest, hfirst, List.foldl_cons, unread_of_sent hall, List.reverse_append]

end Parts

end LoadBalancer.Channel

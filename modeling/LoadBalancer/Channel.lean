/-!
# Channels

Announcements that any number of readers follow, each from the moment on at which it joins.

* `Channel` – what has been announced, and how much of it is kept for readers that fall behind;
* `Reader` – how far a reader has come;
* `Channel.read` – what a reader has not seen yet.

A reader that is further behind than the capacity loses the oldest announcements, and is told how
many.
-/

namespace LoadBalancer

/-- All announcements, the newest first, and the number that is kept. -/
structure Channel (α : Type) where
  capacity : Nat
  sent : List α

/-- The number of announcements that a reader has passed. -/
structure Reader where
  passed : Nat
  deriving DecidableEq, Repr

/-- What a reader gets: the number of announcements it has lost, and those it has not. -/
structure Batch (α : Type) where
  lost : Nat
  items : List α

namespace Channel

variable {α : Type}

/-- A channel without announcements. -/
def new (capacity : Nat) : Channel α := ⟨capacity, []⟩

/-- The channel with one more announcement. -/
def send (c : Channel α) (a : α) : Channel α := { c with sent := a :: c.sent }

/-- A reader that joins now. -/
def subscribe (c : Channel α) : Reader := ⟨c.sent.length⟩

/-- What a reader has not seen yet, and the reader after that. -/
def read (c : Channel α) (r : Reader) : Batch α × Reader :=
  let unread := c.sent.length - r.passed
  (⟨unread - c.capacity, (c.sent.take (min unread c.capacity)).reverse⟩, c.subscribe)

/-! ### Laws -/

@[simp] theorem sent_send (c : Channel α) (a : α) : (c.send a).sent = a :: c.sent := rfl

/-- A reader that has just joined has nothing to read. -/
theorem read_subscribe (c : Channel α) : (c.read c.subscribe).1 = ⟨0, []⟩ := by
  simp [read, subscribe]

/-- Nothing is counted twice: lost and delivered announcements are the unread ones. -/
theorem lost_add_length_read (c : Channel α) (r : Reader) :
    (c.read r).1.lost + (c.read r).1.items.length = c.sent.length - r.passed := by
  simp only [read, List.length_reverse, List.length_take]
  omega

end Channel

end LoadBalancer

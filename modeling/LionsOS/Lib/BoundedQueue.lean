/-
This file is about queues of items that hold a bounded number of them. A batch
that fits is put behind what the queue holds and one that does not is refused as
a whole; taking gives out the oldest items.
-/

import Mathlib.Tactic.Common

/-- A queue of at most `capacity` items, the oldest one first. -/
@[ext]
structure BoundedQueue (Item : Type*) (capacity : Nat) where
  items : List Item
  bounded : items.length ≤ capacity

namespace BoundedQueue

variable {Item : Type*} {capacity : Nat}

def empty : BoundedQueue Item capacity where
  items := []
  bounded := Nat.zero_le _

/-- Put a batch into the queue, `none` if it does not fit. -/
def put (queue : BoundedQueue Item capacity) (batch : List Item) :
    Option (BoundedQueue Item capacity) :=
  if fits : queue.items.length + batch.length ≤ capacity then
    some ⟨queue.items ++ batch, List.length_append ▸ fits⟩
  else none

/-- Take out up to `count` items. -/
def take (queue : BoundedQueue Item capacity) (count : Nat) :
    List Item × BoundedQueue Item capacity :=
  (queue.items.take count,
    ⟨queue.items.drop count, Nat.le_trans (List.drop_sublist ..).length_le queue.bounded⟩)

variable {queue : BoundedQueue Item capacity} {batch : List Item}

theorem put_of_fits (fits : queue.items.length + batch.length ≤ capacity) :
    queue.put batch = some ⟨queue.items ++ batch, List.length_append ▸ fits⟩ :=
  dif_pos fits

theorem put_of_full (full : capacity < queue.items.length + batch.length) :
    queue.put batch = none :=
  dif_neg (Nat.not_le.mpr full)

end BoundedQueue

/-
This file is about addresses that are handed around and the ranges they come from.
Of the addresses that are somewhere, a range has a share, which is kept as offsets
from its start. One more address adds to the share of its own range and, where
ranges are disjoint, to no other.
-/

import LionsOS.Lib.Bytes
import Mathlib.Algebra.Order.Group.Multiset

namespace Shares

open Bytes

variable {range other : Range} {addresses : Multiset Nat} {address offset : Nat}

/-- The offsets of those addresses that lie in a range. -/
def share (range : Range) (addresses : Multiset Nat) : Multiset Nat :=
  (addresses.filter (· ∈ range)).map (· - range.start)

theorem share_add_of_mem (inside : address ∈ range) :
    share range (addresses + {address}) = share range addresses + {address - range.start} := by
  rw [share, Multiset.filter_add, Multiset.map_add, Multiset.filter_singleton, if_pos inside]
  rfl

theorem share_add_of_not_mem (outside : address ∉ range) :
    share range (addresses + {address}) = share range addresses := by
  rw [share, Multiset.filter_add, Multiset.filter_singleton, if_neg outside]
  exact congrArg (Multiset.map _) (add_zero _)

/-- The address at an offset below the length. -/
theorem start_add_mem (inside : offset < range.length) : range.start + offset ∈ range :=
  ⟨Nat.le_add_right _ _, Nat.add_lt_add_left inside _⟩

end Shares

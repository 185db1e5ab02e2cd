/-
This file is about ranges of bytes and the blocks of one size that hold them. Of all
runs of blocks that hold a range there is a least one, from the block of its first
byte to the block of its last.
-/

import LionsOS.Lib.Bytes

namespace Bytes

/-- Blocks of this size, so many from the `first` on, hold a range. -/
def Covers (size : Nat) (range : Range) (first count : Nat) : Prop :=
  size * first ≤ range.start ∧ range.start + range.length ≤ size * (first + count)

/-- These blocks hold a range, and all blocks that hold it have them among them. -/
structure LeastCover (size : Nat) (range : Range) (first count : Nat) : Prop where
  covers : Covers size range first count
  least : ∀ otherFirst otherCount, Covers size range otherFirst otherCount →
    otherFirst ≤ first ∧ first + count ≤ otherFirst + otherCount

variable {size first count : Nat} {range : Range}

/-- So many blocks are enough for so many bytes. -/
theorem le_mul_iff_div_le (positive : 0 < size) {bytes blocks : Nat} :
    bytes ≤ size * blocks ↔ (bytes + (size - 1)) / size ≤ blocks := by
  rw [← @Nat.lt_succ_iff _ blocks, Nat.div_lt_iff_lt_mul positive, Nat.succ_mul,
    Nat.mul_comm blocks]
  omega

theorem covers_iff (positive : 0 < size) :
    Covers size range first count ↔ first ≤ range.start / size ∧
      (range.start + range.length + (size - 1)) / size ≤ first + count := by
  rw [Covers, le_mul_iff_div_le positive, Nat.le_div_iff_mul_le positive, Nat.mul_comm first]

/-- The least run of blocks starts with that of the first byte and ends with that of the last. -/
theorem leastCover_iff (positive : 0 < size) (some : 0 < range.length) :
    LeastCover size range first count ↔ first = range.start / size ∧
      first + count = (range.start + range.length + (size - 1)) / size := by
  have ordered : range.start / size ≤ (range.start + range.length + (size - 1)) / size :=
    Nat.div_le_div_right (by omega)
  constructor
  · rintro ⟨covers, least⟩
    rw [covers_iff positive] at covers
    have bounds := least (range.start / size)
      ((range.start + range.length + (size - 1)) / size - range.start / size)
      ((covers_iff positive).mpr ⟨Nat.le_refl _, by omega⟩)
    omega
  · rintro ⟨start, finish⟩
    refine ⟨(covers_iff positive).mpr ⟨by omega, by omega⟩, fun otherFirst otherCount covers => ?_⟩
    rw [covers_iff positive] at covers
    omega

end Bytes

/-
This file is about deleting an entry of an array in place, by moving the entries
behind it down over it. Memory is a function of the index, of bytes or of whole
entries; an array is a window of it. The window after the move is the window
before it without the entry, also when the move covers more than the window.
Moving the bytes of entries of one size moves the entries.
-/

import Mathlib.Data.List.Basic
import Mathlib.Tactic.Ring

namespace ArrayShift

variable {Cell Entry : Type*}

/-! ### Moving and shifting -/

/-- Move `count` cells from `source` to `target`; the two ranges may overlap. -/
def moved (memory : Nat → Cell) (target source count : Nat) : Nat → Cell := fun i =>
  if target ≤ i ∧ i < target + count then memory (source + (i - target)) else memory i

/-- Move the entries behind `index` down by one, in an array of `length` entries. -/
def shifted (memory : Nat → Entry) (length index : Nat) : Nat → Entry :=
  moved memory index (index + 1) (length - index - 1)

theorem shifted_apply (memory : Nat → Entry) (length index i : Nat) :
    shifted memory length index i =
      if index ≤ i ∧ i + 1 < length then memory (i + 1) else memory i := by
  unfold shifted moved
  by_cases behind : index ≤ i ∧ i + 1 < length
  · rw [if_pos behind, if_pos (by omega)]
    congr 1
    omega
  · rw [if_neg behind, if_neg (by omega)]

/-! ### The window of an array -/

/-- The first `size` entries. -/
def window (memory : Nat → Entry) (size : Nat) : List Entry :=
  (List.range size).map memory

theorem window_length (memory : Nat → Entry) (size : Nat) : (window memory size).length = size := by
  rw [window, List.length_map, List.length_range]

theorem window_getElem? (memory : Nat → Entry) (size i : Nat) :
    (window memory size)[i]? = if i < size then some (memory i) else none := by
  by_cases inside : i < size
  · rw [if_pos inside, window, List.getElem?_map, List.getElem?_range inside, Option.map_some]
  · rw [if_neg inside]
    exact List.getElem?_eq_none (by rw [window_length]; omega)

/-- Writing behind the window and taking it in appends to it. -/
theorem window_update (memory : Nat → Entry) (size : Nat) (entry : Entry) :
    window (Function.update memory size entry) (size + 1) = window memory size ++ [entry] := by
  rw [window, List.range_succ, List.map_append, List.map_singleton, Function.update_self]
  congr 1
  refine List.map_congr_left fun i member => ?_
  exact Function.update_of_ne (Nat.ne_of_lt (List.mem_range.mp member)) entry memory

/-- A shift of at least the window deletes one entry of it. -/
theorem window_shifted (memory : Nat → Entry) {length size index : Nat} (covers : size ≤ length)
    (inside : index < size) :
    window (shifted memory length index) (size - 1) = (window memory size).eraseIdx index := by
  ext1 i
  rw [window_getElem?, List.getElem?_eraseIdx, window_getElem?, window_getElem?, shifted_apply]
  by_cases before : i < index
  · rw [if_pos before, if_neg (show ¬ (index ≤ i ∧ i + 1 < length) by omega),
      if_pos (show i < size - 1 by omega), if_pos (show i < size by omega)]
  · rw [if_neg before]
    by_cases last : i + 1 < size
    · rw [if_pos last, if_pos (show index ≤ i ∧ i + 1 < length by omega),
        if_pos (show i < size - 1 by omega)]
    · rw [if_neg last, if_neg (show ¬ i < size - 1 by omega)]

/-! ### The bytes of entries -/

/-- The bytes hold the entries one behind the other, each in `entrySize` bytes. -/
def Holds (bytes : Nat → Cell) (entrySize : Nat) (encode : Entry → Nat → Cell)
    (memory : Nat → Entry) : Prop :=
  ∀ index position, position < entrySize →
    bytes (index * entrySize + position) = encode (memory index) position

/-- Moving the bytes of whole entries moves the entries. -/
theorem Holds.moved {bytes : Nat → Cell} {entrySize : Nat} {encode : Entry → Nat → Cell}
    {memory : Nat → Entry} (holds : Holds bytes entrySize encode memory)
    (target source count : Nat) :
    Holds (moved bytes (target * entrySize) (source * entrySize) (count * entrySize)) entrySize
      encode (moved memory target source count) := by
  intro index position inside
  unfold ArrayShift.moved
  have lower : target * entrySize ≤ index * entrySize + position ↔ target ≤ index := by
    constructor
    · intro reaches
      by_contra before
      have := Nat.mul_le_mul_right entrySize (Nat.succ_le_of_lt (Nat.lt_of_not_le before))
      rw [Nat.succ_mul] at this
      omega
    · intro reaches
      exact (Nat.mul_le_mul_right entrySize reaches).trans (Nat.le_add_right _ _)
  have upper : index * entrySize + position < target * entrySize + count * entrySize ↔
      index < target + count := by
    rw [← Nat.add_mul]
    constructor
    · intro stays
      by_contra behind
      have := Nat.mul_le_mul_right entrySize (Nat.le_of_not_lt behind)
      omega
    · intro stays
      have := Nat.mul_le_mul_right entrySize (Nat.succ_le_of_lt stays)
      rw [Nat.succ_mul] at this
      omega
  by_cases covered : target ≤ index ∧ index < target + count
  · rw [if_pos covered, if_pos ⟨lower.mpr covered.1, upper.mpr covered.2⟩, ← holds _ _ inside]
    congr 1
    have split : index * entrySize = target * entrySize + (index - target) * entrySize := by
      rw [← Nat.add_mul, Nat.add_sub_cancel' covered.1]
    rw [split, Nat.add_mul]
    omega
  · rw [if_neg covered, if_neg (by rwa [lower, upper]), holds _ _ inside]

end ArrayShift

/-
This file is about bitmaps kept as a list of fixed-width blocks, the layout of
allocation bitmaps in C. Bit `index` lives in block `index / width` at position
`index % width`. Reading and writing go through a one-bit mask, as the C does;
the lemmas here turn mask arithmetic into statements about single indices.
-/

import Mathlib.Data.List.Basic
import Mathlib.Tactic.Common

namespace BlockBitmap

variable {width : Nat}

/-- The mask with only the bit of `index` set. -/
def mask (width index : Nat) : BitVec width :=
  BitVec.ofNat width 1 <<< (index % width)

/-- Whether the bit of `index` is set. A block past the end reads as zero. -/
def testBit (blocks : List (BitVec width)) (index : Nat) : Bool :=
  blocks.getD (index / width) 0 &&& mask width index != 0

/-- Set the bit of `index`. -/
def setBit (blocks : List (BitVec width)) (index : Nat) : List (BitVec width) :=
  blocks.set (index / width) (blocks.getD (index / width) 0 ||| mask width index)

/-- Clear the bit of `index`. -/
def clearBit (blocks : List (BitVec width)) (index : Nat) : List (BitVec width) :=
  blocks.set (index / width) (blocks.getD (index / width) 0 &&& ~~~ mask width index)

theorem mask_getLsbD (positive : 0 < width) (index position : Nat) :
    (mask width index).getLsbD position = decide (position = index % width) := by
  have bound : index % width < width := Nat.mod_lt _ positive
  rw [mask, BitVec.getLsbD_shiftLeft]
  by_cases same : position = index % width
  · simp [same, bound]
    omega
  · simp only [same]
    by_cases below : position < index % width
    · simp [below]
    · have nonzero : position - index % width ≠ 0 := by omega
      simp [nonzero]

theorem and_mask_ne_zero (positive : 0 < width) (block : BitVec width) (index : Nat) :
    (block &&& mask width index != 0) = block.getLsbD (index % width) := by
  have bit : (block &&& mask width index).getLsbD (index % width) =
      block.getLsbD (index % width) := by
    rw [BitVec.getLsbD_and, mask_getLsbD positive]
    simp
  cases value : block.getLsbD (index % width) with
  | true =>
    rw [bne_iff_ne]
    intro zero
    rw [zero, value] at bit
    simp at bit
  | false =>
    rw [bne_eq_false_iff_eq]
    refine BitVec.eq_of_getLsbD_eq fun position _ => ?_
    rw [BitVec.getLsbD_and, mask_getLsbD positive]
    by_cases same : position = index % width
    · rw [same, value]
      simp
    · simp [same]

/-- Reading an index reads one bit of its block. -/
theorem testBit_eq (positive : 0 < width) (blocks : List (BitVec width)) (index : Nat) :
    testBit blocks index = (blocks.getD (index / width) 0).getLsbD (index % width) :=
  and_mask_ne_zero positive _ index

theorem getD_set_self (blocks : List (BitVec width)) (index : Nat) (block : BitVec width)
    (inside : index < blocks.length) : (blocks.set index block).getD index 0 = block := by
  rw [List.getD_eq_getElem?_getD, List.getElem?_set_self inside, Option.getD_some]

theorem getD_set_ne (blocks : List (BitVec width)) (index other : Nat) (block : BitVec width)
    (different : index ≠ other) : (blocks.set index block).getD other 0 = blocks.getD other 0 := by
  rw [List.getD_eq_getElem?_getD, List.getElem?_set_ne different, ← List.getD_eq_getElem?_getD]

theorem index_eq_of_block_eq {index other : Nat} (block : index / width = other / width)
    (position : index % width = other % width) : index = other := by
  rw [← Nat.div_add_mod index width, ← Nat.div_add_mod other width, block, position]

section

variable (positive : 0 < width) (blocks : List (BitVec width)) (index other : Nat)
  (inside : index / width < blocks.length)
include positive inside

/-- Setting a bit of an existing block sets that bit and no other. -/
theorem testBit_setBit :
    testBit (setBit blocks index) other = (decide (other = index) || testBit blocks other) := by
  rw [testBit_eq positive, testBit_eq positive, setBit]
  by_cases block : index / width = other / width
  · rw [← block, getD_set_self _ _ _ inside, BitVec.getLsbD_or, mask_getLsbD positive, Bool.or_comm]
    congr 1
    by_cases position : other % width = index % width
    · have same := index_eq_of_block_eq block.symm position
      simp [same]
    · have different : other ≠ index := fun same => position (by rw [same])
      simp [position, different]
  · rw [getD_set_ne _ _ _ _ block]
    have different : other ≠ index := fun same => block (by rw [same])
    simp [different]

/-- Clearing a bit clears that bit and no other. -/
theorem testBit_clearBit :
    testBit (clearBit blocks index) other = (!decide (other = index) && testBit blocks other) := by
  rw [testBit_eq positive, testBit_eq positive, clearBit]
  by_cases block : index / width = other / width
  · have bound : other % width < width := Nat.mod_lt _ positive
    rw [← block, getD_set_self _ _ _ inside, BitVec.getLsbD_and, BitVec.getLsbD_not,
      mask_getLsbD positive, Bool.and_comm]
    congr 1
    by_cases position : other % width = index % width
    · have same := index_eq_of_block_eq block.symm position
      simp [same]
    · have different : other ≠ index := fun same => position (by rw [same])
      simp [position, different, bound]
  · rw [getD_set_ne _ _ _ _ block]
    have different : other ≠ index := fun same => block (by rw [same])
    simp [different]

end

@[simp] theorem setBit_length (blocks : List (BitVec width)) (index : Nat) :
    (setBit blocks index).length = blocks.length :=
  List.length_set

@[simp] theorem clearBit_length (blocks : List (BitVec width)) (index : Nat) :
    (clearBit blocks index).length = blocks.length :=
  List.length_set

/-- A zeroed bitmap has no bit set. -/
theorem testBit_zeroed (count index : Nat) :
    testBit (List.replicate count (0 : BitVec width)) index = false := by
  rw [testBit, List.getD_eq_getElem?_getD, List.getElem?_replicate]
  split <;> simp

end BlockBitmap

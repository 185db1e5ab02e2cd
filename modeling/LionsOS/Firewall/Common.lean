/-
This file holds what every firewall component shares: the byte-order
conversions, the subnet mask, the descriptor of a buffer that may belong to any
interface, tables with two keys, and the deletion of an entry from an array.
Addresses and ports are kept as the little-endian machine reads them from
network-order memory.
-/

import LionsOS.Lib.ArrayShift
import LionsOS.Words
import Mathlib.Logic.Function.Basic
import Mathlib.Tactic.IntervalCases

open Function

namespace LionsOS.Firewall

/-- Swap the bytes of a 16-bit word. -/
def htons (n : UInt16T) : UInt16T :=
  (n &&& (0xff : UInt16T)) <<< 8 ||| (n &&& (0xff00 : UInt16T)) >>> 8

theorem htons_htons (n : UInt16T) : htons (htons n) = n := by
  unfold htons
  ext i inside
  interval_cases i <;> simp

/-- Swap the bytes of a 32-bit word. -/
def htonl (n : UInt32T) : UInt32T :=
  (n &&& (0xff : UInt32T)) <<< 24 ||| (n &&& (0xff00 : UInt32T)) <<< 8 |||
    ((n >>> 8) &&& (0xff00 : UInt32T)) ||| n >>> 24

/-- The mask of the highest `n` bits of an address. The shift is on a 64-bit word; past 32
bits the amount `32 - n` is negative, and the machine keeps the low six bits of it. -/
def subnetMask (n : UInt8T) : UInt32T :=
  htonl (((0xffffffff : UInt64T) <<< ((32 - (n.toNat : Int)) % 64).toNat).setWidth 32)

/-- A buffer tagged with the interface whose pool it belongs to. -/
structure FwBuffDesc (interfaces : Nat) where
  offset : Nat
  len : UInt16T
  interface : Fin interfaces
  deriving DecidableEq

/-- A buffer of a pool that is known from the queue it travels in. -/
structure NetBuffDesc where
  ioOrOffset : Nat
  len : UInt16T
  deriving DecidableEq

/-! ### Tables with two keys -/

section Tables

variable {First Second Value : Type} [DecidableEq First] [DecidableEq Second]
  (table : First → Second → Value) {first other : First} {second otherSecond : Second}
  (value : Value)

theorem update_at_self :
    update table first (update (table first) second value) first second =
      value := by
  rw [update_self, update_self]

theorem update_at_of_ne (different : (other, otherSecond) ≠ (first, second)) :
    update table first (update (table first) second value) other otherSecond =
      table other otherSecond := by
  by_cases same : other = first
  · subst same
    rw [update_self]
    exact update_of_ne (fun sameSecond => different (by rw [sameSecond])) _ _
  · rw [update_of_ne same]

end Tables

/-! ### Deleting an entry of an array -/

open ArrayShift

/-- Shift all entries behind `indexToRemove` one entry down. Lengths and offsets are 32-bit
words. -/
def genericArrayShift (array : Nat → UInt8T) (entrySize arrayLen indexToRemove : UInt32T) :
    Nat → UInt8T :=
  let shiftLen := (arrayLen - indexToRemove - 1) * entrySize
  if 0 < shiftLen then
    let byteOffset := indexToRemove * entrySize
    moved array byteOffset.toNat (byteOffset.toNat + entrySize.toNat) shiftLen.toNat
  else array

/-- Where an array of whole entries has fewer than `2 ^ 32` bytes, shifting its bytes shifts its
entries. -/
theorem genericArrayShift_holds {Entry : Type} {array : Nat → UInt8T}
    {entrySize arrayLen indexToRemove : UInt32T} {encode : Entry → Nat → UInt8T}
    {memory : Nat → Entry} (holds : Holds array entrySize.toNat encode memory)
    (inside : indexToRemove.toNat < arrayLen.toNat)
    (small : arrayLen.toNat * entrySize.toNat < 2 ^ 32) :
    Holds (genericArrayShift array entrySize arrayLen indexToRemove) entrySize.toNat encode
      (shifted memory arrayLen.toNat indexToRemove.toNat) := by
  have behind : (arrayLen - indexToRemove - 1).toNat =
      arrayLen.toNat - indexToRemove.toNat - 1 := by
    bv_omega
  have shiftLen : ((arrayLen - indexToRemove - 1) * entrySize).toNat =
      (arrayLen.toNat - indexToRemove.toNat - 1) * entrySize.toNat := by
    rw [BitVec.toNat_mul, behind]
    refine Nat.mod_eq_of_lt (lt_of_le_of_lt (Nat.mul_le_mul_right _ ?_) small)
    omega
  have byteOffset : (indexToRemove * entrySize).toNat = indexToRemove.toNat * entrySize.toNat := by
    exact Nat.mod_eq_of_lt (lt_of_le_of_lt (Nat.mul_le_mul_right _ inside.le) small)
  have shift := holds.moved indexToRemove.toNat (indexToRemove.toNat + 1)
    (arrayLen.toNat - indexToRemove.toNat - 1)
  rw [Nat.succ_mul, ← byteOffset, ← shiftLen] at shift
  unfold genericArrayShift shifted
  dsimp only
  split_ifs with some
  · exact shift
  · -- Nothing is behind the entry, or the entries have no bytes.
    have none : ((arrayLen - indexToRemove - 1) * entrySize).toNat = 0 := by
      bv_omega
    intro index position here
    rw [← shift index position here]
    unfold moved
    rw [if_neg (by omega)]

/-- The second of three entries of two bytes is deleted. -/
theorem genericArrayShift_holds_of_pairs :
    let array : Nat → UInt8T := .ofNat 8
    let memory (index : Nat) := (array (index * 2), array (index * 2 + 1))
    Holds (genericArrayShift array 2 3 1) 2 (fun entry position =>
      if position = 0 then entry.1 else entry.2) (shifted memory 3 1) := by
  refine genericArrayShift_holds (fun index position inside => ?_) (by decide) (by decide)
  match position, inside with
  | 0, _ => rfl
  | 1, _ => rfl

end LionsOS.Firewall

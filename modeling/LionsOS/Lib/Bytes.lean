/-
This file is about memories of bytes and the ranges of addresses in them. Copying
changes a range of the target and nothing else, so two copies into ranges that
do not meet leave each other alone.
-/

import Mathlib.Order.Basic
import Mathlib.Tactic.Common

namespace Bytes

variable {Byte : Type*}

/-- A range of addresses. -/
@[ext]
structure Range where
  start : Nat
  length : Nat

namespace Range

instance : Membership Nat Range where
  mem range address := range.start ≤ address ∧ address < range.start + range.length

theorem mem_def {range : Range} {address : Nat} :
    address ∈ range ↔ range.start ≤ address ∧ address < range.start + range.length :=
  Iff.rfl

instance (range : Range) (address : Nat) : Decidable (address ∈ range) :=
  inferInstanceAs (Decidable (_ ∧ _))

/-- No address is in both ranges. -/
def Disjoint (first second : Range) : Prop :=
  ∀ address ∈ first, address ∉ second

instance : HasSubset Range where
  Subset inner outer := ∀ address ∈ inner, address ∈ outer

end Range

/-- The target after the source, from `sourceStart` on, is copied into a range of it. -/
def copy (target : Nat → Byte) (into : Range) (source : Nat → Byte) (sourceStart : Nat) :
    Nat → Byte := fun address =>
  if address ∈ into then source (sourceStart + (address - into.start)) else target address

variable {target source : Nat → Byte} {into : Range} {sourceStart address : Nat}

theorem copy_of_mem (inside : address ∈ into) :
    copy target into source sourceStart address = source (sourceStart + (address - into.start)) :=
  if_pos inside

theorem copy_of_not_mem (outside : address ∉ into) :
    copy target into source sourceStart address = target address :=
  if_neg outside

/-- Two copies, one behind the other, are one. -/
theorem copy_copy_next (target source : Nat → Byte) (start first second sourceStart : Nat) :
    copy (copy target ⟨start, first⟩ source sourceStart) ⟨start + first, second⟩ source
      (sourceStart + first) = copy target ⟨start, first + second⟩ source sourceStart := by
  funext address
  simp only [copy, Range.mem_def]
  split_ifs with inSecond inBoth inFirst inBoth
  · congr 1
    omega
  · omega
  · rfl
  · omega
  · omega
  · rfl

/-- Only the part of the source that is copied matters. -/
theorem copy_congr {start length : Nat} (other : Nat → Byte) (otherStart : Nat)
    (same : ∀ i < length, source (sourceStart + i) = other (otherStart + i)) :
    copy target ⟨start, length⟩ source sourceStart =
      copy target ⟨start, length⟩ other otherStart := by
  funext address
  simp only [copy, Range.mem_def]
  split_ifs with inside
  · exact same _ (by omega)
  · rfl

theorem copy_zero (target source : Nat → Byte) (start sourceStart : Nat) :
    copy target ⟨start, 0⟩ source sourceStart = target := by
  funext address
  refine copy_of_not_mem fun inside => ?_
  exact absurd (Nat.lt_of_le_of_lt inside.1 inside.2) (Nat.lt_irrefl _)

end Bytes

/-
This file is about the circular search of an allocator: starting somewhere, try
every index below the capacity once, wrapping around, and take the first that
is free. The search misses no index, so it fails only when nothing is free, and
by counting something is free whenever fewer indices are in use than exist.
-/

import Mathlib.Data.List.Perm.Subperm
import Mathlib.Data.List.Range
import Mathlib.Tactic.Common

namespace CircularSearch

/-- The first free index met from `start`, going around once. -/
def search (free : Nat → Bool) (capacity start : Nat) : Option Nat :=
  ((List.range capacity).find? fun i => free ((start + i) % capacity)).map fun i =>
    (start + i) % capacity

/-- Going around once passes every index below the capacity. -/
theorem exists_round (capacity start index : Nat) (below : index < capacity) :
    ∃ i < capacity, (start + i) % capacity = index := by
  have positive : 0 < capacity := by omega
  have startBelow : start % capacity < capacity := Nat.mod_lt _ positive
  by_cases ahead : start % capacity ≤ index
  · refine ⟨index - start % capacity, by omega, ?_⟩
    rw [← Nat.mod_add_mod, Nat.add_sub_cancel' ahead, Nat.mod_eq_of_lt below]
  · refine ⟨index + (capacity - start % capacity), by omega, ?_⟩
    have around : start % capacity + (index + (capacity - start % capacity)) =
        index + capacity := by omega
    rw [← Nat.mod_add_mod, around, Nat.add_mod_right, Nat.mod_eq_of_lt below]

theorem search_some {free : Nat → Bool} {capacity start index : Nat}
    (found : search free capacity start = some index) : index < capacity ∧ free index := by
  rw [search, Option.map_eq_some_iff] at found
  obtain ⟨i, foundAt, rfl⟩ := found
  have inside : i < capacity := by simpa using List.mem_of_find?_eq_some foundAt
  have isFree := List.find?_some foundAt
  exact ⟨Nat.mod_lt _ (by omega), isFree⟩

theorem search_eq_none {free : Nat → Bool} {capacity start : Nat} :
    search free capacity start = none ↔ ∀ index < capacity, free index = false := by
  rw [search, Option.map_eq_none_iff, List.find?_eq_none]
  constructor
  · intro none index below
    obtain ⟨i, inside, rfl⟩ := exists_round capacity start index below
    simpa using none i (by simpa using inside)
  · intro none i inside
    have inside : i < capacity := by simpa using inside
    simp [none _ (Nat.mod_lt (start + i) (by omega))]

/-- Fewer used indices than the capacity leave one unused. -/
theorem exists_unused (capacity : Nat) (used : List Nat) (few : used.length < capacity) :
    ∃ index < capacity, index ∉ used := by
  by_contra all
  push Not at all
  have subset : List.range capacity ⊆ used := fun index member =>
    all index (by simpa using member)
  have count := (List.subperm_of_subset List.nodup_range subset).length_le
  rw [List.length_range] at count
  omega

/-- A search succeeds when every index in use is listed and the list is shorter than the
capacity. -/
theorem search_isSome (free : Nat → Bool) {capacity : Nat} (start : Nat) (used : List Nat)
    (few : used.length < capacity) (listed : ∀ index < capacity, free index = false → index ∈ used) :
    ∃ index, search free capacity start = some index := by
  rw [← Option.isSome_iff_exists, Option.isSome_iff_ne_none]
  intro none
  obtain ⟨index, below, unused⟩ := exists_unused capacity used few
  exact unused (listed index below (search_eq_none.mp none index below))

end CircularSearch

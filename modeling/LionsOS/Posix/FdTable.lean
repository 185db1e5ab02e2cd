/-
This file embeds the table of file descriptors of `fd.c`. A descriptor is active
or free, and its entry says which functions its operations call; the entry of a
free descriptor is cleared.
-/

import Mathlib.Data.List.FinRange
import Mathlib.Logic.Function.Basic

open Function

namespace LionsOS.Posix

/-- The functions that the pointers of an entry lead to. An entry that is cleared has none, and
neither has standard input. -/
inductive FdFunctions where
  | none
  | console
  | sock
  | file
  deriving DecidableEq

/-- An entry, with those of its flags that the operations look at. -/
structure FdEntry where
  functions : FdFunctions
  nonblock : Bool
  directory : Bool
  filePtr : Nat

def FdEntry.cleared : FdEntry where
  functions := .none
  nonblock := false
  directory := false
  filePtr := 0

def FdEntry.socket : FdEntry :=
  { FdEntry.cleared with functions := .sock }

structure FdTable (maxFds : Nat) where
  fdActive : Fin maxFds → Bool
  fdTable : Fin maxFds → FdEntry

namespace FdTable

variable {maxFds : Nat} (table : FdTable maxFds) {old : Fin maxFds}

/-- Standard input, output and error are active from the beginning. -/
def initial : FdTable maxFds where
  fdActive fd := fd.val ≤ 2
  fdTable fd :=
    if fd.val = 1 ∨ fd.val = 2 then { FdEntry.cleared with functions := .console } else .cleared

theorem descriptor_lt {fd : Int} (valid : 0 ≤ fd ∧ fd.toNat < maxFds) : fd.toNat < maxFds :=
  valid.2

/-- The descriptor that a number stands for, if it is active. -/
def posixFdEntry (fd : Int) : Option (Fin maxFds) :=
  if valid : 0 ≤ fd ∧ fd.toNat < maxFds then
    if table.fdActive ⟨fd.toNat, descriptor_lt valid⟩ then some ⟨fd.toNat, descriptor_lt valid⟩
    else none
  else none

def setEntry (fd : Fin maxFds) (entry : FdEntry) : FdTable maxFds :=
  { table with fdTable := update table.fdTable fd entry }

/-- The first free descriptor becomes active, if there is one. -/
def posixFdAllocate : Option (Fin maxFds × FdTable maxFds) :=
  ((List.finRange maxFds).find? fun fd => table.fdActive fd = false).map fun fd =>
    (fd, { table with fdActive := update table.fdActive fd true })

/-- A descriptor that is free stays so. -/
def posixFdDeallocate (fd : Fin maxFds) : FdTable maxFds :=
  if table.fdActive fd then
    { table with fdActive := update table.fdActive fd false }.setEntry fd .cleared
  else table

/-- A certain descriptor becomes active, if it is free. -/
def posixFdEntryAllocate (fd : Fin maxFds) : Option (FdTable maxFds) :=
  if table.fdActive fd then none
  else some ({ table with fdActive := update table.fdActive fd true }.setEntry fd .cleared)

/-- A descriptor becomes active with the entry of another. -/
def copyEntry (old new : Fin maxFds) : FdTable maxFds where
  fdActive := update table.fdActive new true
  fdTable := update table.fdTable new (table.fdTable old)

variable {table} {fd other : Fin maxFds} {next : FdTable maxFds}

theorem posixFdEntry_eq_some {number : Int} (found : table.posixFdEntry number = some fd) :
    (fd.val : Int) = number ∧ table.fdActive fd = true := by
  unfold posixFdEntry at found
  split at found
  · rename_i valid
    split at found
    · rename_i active
      cases found
      exact ⟨Int.toNat_of_nonneg valid.1, active⟩
    · cases found
  · cases found

theorem fdTable_setEntry_self (entry : FdEntry) : (table.setEntry fd entry).fdTable fd = entry :=
  update_self _ _ _

theorem posixFdAllocate_eq_some (allocated : table.posixFdAllocate = some (fd, next)) :
    table.fdActive fd = false ∧ next.fdActive = update table.fdActive fd true ∧
      next.fdTable = table.fdTable := by
  obtain ⟨found, search, same⟩ := Option.map_eq_some_iff.mp allocated
  cases same
  exact ⟨by simpa using List.find?_some search, rfl, rfl⟩

theorem posixFdAllocate_eq_none_iff :
    table.posixFdAllocate = none ↔ ∀ fd, table.fdActive fd = true := by
  unfold posixFdAllocate
  simp

theorem fdActive_posixFdDeallocate (fd : Fin maxFds) :
    (table.posixFdDeallocate fd).fdActive = update table.fdActive fd false := by
  unfold posixFdDeallocate
  split
  · rfl
  · rename_i free
    rw [← Bool.eq_false_iff.mpr free, update_eq_self]

theorem fdTable_posixFdDeallocate_of_ne (different : other ≠ fd) :
    (table.posixFdDeallocate fd).fdTable other = table.fdTable other := by
  unfold posixFdDeallocate
  split
  · exact update_of_ne different _ _
  · rfl

theorem posixFdEntryAllocate_eq_some (allocated : table.posixFdEntryAllocate fd = some next) :
    table.fdActive fd = false ∧ next.fdActive = update table.fdActive fd true ∧
      next.fdTable = update table.fdTable fd .cleared := by
  unfold posixFdEntryAllocate at allocated
  split at allocated
  · cases allocated
  · rename_i free
    cases allocated
    exact ⟨Bool.eq_false_iff.mpr free, rfl, rfl⟩

theorem posixFdEntryAllocate_of_free (free : table.fdActive fd = false) :
    table.posixFdEntryAllocate fd =
      some ({ table with fdActive := update table.fdActive fd true }.setEntry fd .cleared) := by
  unfold posixFdEntryAllocate
  rw [free]
  rfl

theorem copyEntry_self :
    (table.copyEntry old fd).fdActive fd = true ∧
      (table.copyEntry old fd).fdTable fd = table.fdTable old :=
  ⟨update_self _ _ _, update_self _ _ _⟩

theorem copyEntry_of_ne (different : other ≠ fd) :
    (table.copyEntry old fd).fdActive other = table.fdActive other ∧
      (table.copyEntry old fd).fdTable other = table.fdTable other :=
  ⟨update_of_ne different _ _, update_of_ne different _ _⟩

theorem setEntry_eq_copyEntry (different : other ≠ fd)
    (allocated : table.posixFdEntryAllocate fd = some next) :
    next.setEntry fd (next.fdTable other) = table.copyEntry other fd := by
  obtain ⟨_, active, entries⟩ := posixFdEntryAllocate_eq_some allocated
  unfold setEntry copyEntry
  rw [active, entries, update_of_ne different, update_idem]

/-! ### Free descriptors -/

/-- Each free descriptor is cleared. -/
def FreeCleared (table : FdTable maxFds) : Prop :=
  ∀ fd, table.fdActive fd = false → table.fdTable fd = .cleared

theorem freeCleared_initial : (initial : FdTable maxFds).FreeCleared := by
  intro fd free
  have above : ¬ fd.val ≤ 2 := of_decide_eq_false free
  dsimp only [initial]
  rw [if_neg]
  omega

section

variable (cleared : table.FreeCleared)
include cleared

theorem FreeCleared.setEntry (active : table.fdActive fd = true) (entry : FdEntry) :
    (table.setEntry fd entry).FreeCleared := by
  intro other free
  have different : other ≠ fd := by
    rintro rfl
    cases free.symm.trans active
  exact (update_of_ne different _ _).trans (cleared other free)

theorem FreeCleared.posixFdAllocate (allocated : table.posixFdAllocate = some (fd, next)) :
    next.FreeCleared := by
  obtain ⟨_, active, entries⟩ := posixFdAllocate_eq_some allocated
  intro other free
  have different : other ≠ fd := by
    rintro rfl
    rw [active, update_self] at free
    cases free
  rw [active, update_of_ne different] at free
  rw [entries]
  exact cleared other free

theorem FreeCleared.posixFdDeallocate (fd : Fin maxFds) :
    (table.posixFdDeallocate fd).FreeCleared := by
  unfold FdTable.posixFdDeallocate
  split
  · intro other free
    by_cases same : other = fd
    · rw [same]
      exact fdTable_setEntry_self _
    · have free : table.fdActive other = false := by
        rw [← free]
        exact (update_of_ne same _ _).symm
      exact (update_of_ne same _ _).trans (cleared other free)
  · exact cleared

theorem FreeCleared.posixFdDeallocate_allocated
    (allocated : table.posixFdAllocate = some (fd, next)) : next.posixFdDeallocate fd = table := by
  obtain ⟨free, active, entries⟩ := posixFdAllocate_eq_some allocated
  unfold FdTable.posixFdDeallocate
  rw [if_pos (by rw [active, update_self])]
  unfold FdTable.setEntry
  rw [active, entries, update_idem, ← free, update_eq_self, ← cleared fd free, update_eq_self]

end

end FdTable

end LionsOS.Posix

/-
This file embeds the table of open files that the file system servers share, of
`fd.c`. A descriptor names a slot and the generation of the slot at the time it
was allocated; freeing a slot starts its next generation. Files and directories
are handled alike, so most operations are one definition for both.
-/

import LionsOS.Words
import Mathlib.Data.List.FinRange
import Mathlib.Logic.Function.Basic

open Function

namespace LionsOS.Fs

/-! ### Slots -/

def maxOpenFiles : Nat := 256

variable {slot : Fin maxOpenFiles}

/-- What is open: a file or a directory. -/
inductive OfKind where
  | file
  | dir
  deriving DecidableEq

inductive OfState where
  | free
  | allocated
  | opened (kind : OfKind)
  | busy (kind : OfKind)
  deriving DecidableEq

structure OftableSlot where
  state : OfState
  handle : UInt64T
  busyCount : UInt64T
  generation : UInt64T

variable {operation : OftableSlot → Option OftableSlot} {fd : UInt64T} {kind : OfKind}

abbrev OfTable := Fin maxOpenFiles → OftableSlot

variable {table next : OfTable}

namespace OftableSlot

def ofFree (slot : OftableSlot) : Option OftableSlot :=
  match slot.state with
  | .allocated => some { slot with state := .free, generation := slot.generation + 1 }
  | _ => none

def ofSet (kind : OfKind) (handle : UInt64T) (slot : OftableSlot) : Option OftableSlot :=
  match slot.state with
  | .allocated => some { slot with state := .opened kind, handle }
  | _ => none

def ofUnset (slot : OftableSlot) : Option OftableSlot :=
  match slot.state with
  | .opened _ => some { slot with state := .allocated, handle := 0 }
  | _ => none

/-- Begin an operation, on the handle that is returned. -/
def ofBeginOp (kind : OfKind) (slot : OftableSlot) : Option (UInt64T × OftableSlot) :=
  match slot.state with
  | .opened other =>
    if other = kind then some (slot.handle, { slot with state := .busy kind, busyCount := 1 })
    else none
  | .busy other =>
    if other = kind then some (slot.handle, { slot with busyCount := slot.busyCount + 1 })
    else none
  | _ => none

def ofEndOp (slot : OftableSlot) : Option OftableSlot :=
  match slot.state with
  | .busy kind =>
    let busyCount := slot.busyCount - 1
    some { slot with busyCount, state := if busyCount = 0 then .opened kind else .busy kind }
  | _ => none

end OftableSlot

/-! ### Descriptors -/

def fdIndex (fd : UInt64T) : UInt64T :=
  fd % BitVec.ofNat 64 maxOpenFiles

def fdGeneration (fd : UInt64T) : UInt64T :=
  (fd - fdIndex fd) / BitVec.ofNat 64 maxOpenFiles

/-- The slot a descriptor names. -/
def slotOf (fd : UInt64T) : Fin maxOpenFiles :=
  ⟨fd.toNat % maxOpenFiles, Nat.mod_lt _ (by decide)⟩

theorem fdIndex_toNat (fd : UInt64T) : (fdIndex fd).toNat = (slotOf fd).val :=
  BitVec.toNat_umod

theorem fdGeneration_toNat (fd : UInt64T) : (fdGeneration fd).toNat = fd.toNat / maxOpenFiles := by
  have least : fdIndex fd ≤ fd := by
    exact Nat.mod_le _ _
  have size : (BitVec.ofNat 64 maxOpenFiles).toNat = maxOpenFiles := rfl
  rw [fdGeneration, BitVec.toNat_udiv, BitVec.toNat_sub_of_le least]
  exact (Nat.div_eq_sub_mod_div).symm

theorem fd_eq {other : UInt64T} (sameSlot : slotOf fd = slotOf other)
    (sameGeneration : fdGeneration fd = fdGeneration other) : fd = other := by
  have remainders : fd.toNat % maxOpenFiles = other.toNat % maxOpenFiles := Fin.mk.inj sameSlot
  have quotients : fd.toNat / maxOpenFiles = other.toNat / maxOpenFiles := by
    rw [← fdGeneration_toNat, ← fdGeneration_toNat, sameGeneration]
  refine BitVec.eq_of_toNat_eq ?_
  rw [← Nat.div_add_mod fd.toNat maxOpenFiles, ← Nat.div_add_mod other.toNat maxOpenFiles,
    remainders, quotients]

/-- The slot of a descriptor, unless its generation has passed. -/
def fdToOf (table : OfTable) (fd : UInt64T) : Option (Fin maxOpenFiles) :=
  if h : (fdIndex fd).toNat < maxOpenFiles then
    if fdGeneration fd < (table ⟨(fdIndex fd).toNat, h⟩).generation then none
    else some ⟨(fdIndex fd).toNat, h⟩
  else none

theorem fdToOf_eq (table : OfTable) (fd : UInt64T) :
    fdToOf table fd =
      if fdGeneration fd < (table (slotOf fd)).generation then none else some (slotOf fd) := by
  have within : (fdIndex fd).toNat < maxOpenFiles := by
    exact (slotOf fd).isLt
  have same : (⟨(fdIndex fd).toNat, within⟩ : Fin maxOpenFiles) = slotOf fd :=
    Fin.ext (fdIndex_toNat fd)
  rw [fdToOf, dif_pos within, same]

def ofToFd (table : OfTable) (slot : Fin maxOpenFiles) : UInt64T :=
  BitVec.ofNat 64 slot + (table slot).generation * BitVec.ofNat 64 maxOpenFiles

theorem ofToFd_toNat (few : (table slot).generation.toNat < 2 ^ 64 / maxOpenFiles) :
    (ofToFd table slot).toNat = slot + (table slot).generation.toNat * maxOpenFiles := by
  have index := slot.isLt
  have size : (BitVec.ofNat 64 maxOpenFiles).toNat = maxOpenFiles := rfl
  simp only [maxOpenFiles] at few index size ⊢
  rw [ofToFd, BitVec.toNat_add, BitVec.toNat_mul, BitVec.toNat_ofNat]
  simp only [maxOpenFiles] at size ⊢
  rw [size]
  omega

theorem slotOf_ofToFd (table : OfTable) (slot : Fin maxOpenFiles) :
    slotOf (ofToFd table slot) = slot := by
  have index := slot.isLt
  have size : (BitVec.ofNat 64 maxOpenFiles).toNat = maxOpenFiles := rfl
  refine Fin.ext ?_
  show (ofToFd table slot).toNat % maxOpenFiles = slot
  simp only [maxOpenFiles] at index size ⊢
  rw [ofToFd, BitVec.toNat_add, BitVec.toNat_mul, BitVec.toNat_ofNat]
  simp only [maxOpenFiles] at size ⊢
  rw [size]
  omega

theorem fdGeneration_ofToFd (few : (table slot).generation.toNat < 2 ^ 64 / maxOpenFiles) :
    fdGeneration (ofToFd table slot) = (table slot).generation := by
  refine BitVec.eq_of_toNat_eq ?_
  rw [fdGeneration_toNat, ofToFd_toNat few, Nat.add_mul_div_right _ _ (by decide),
    Nat.div_eq_of_lt slot.isLt, Nat.zero_add]

/-! ### Operations on descriptors -/

def ofAlloc (table : OfTable) : Option (Fin maxOpenFiles × OfTable) :=
  ((List.finRange maxOpenFiles).find? fun slot => (table slot).state = .free).map fun slot =>
    (slot, update table slot { table slot with state := .allocated })

def fdAlloc (table : OfTable) : Option (UInt64T × OfTable) :=
  (ofAlloc table).map fun (slot, next) => (ofToFd next slot, next)

/-- An operation on the slot of a descriptor. -/
def onSlot (operation : OftableSlot → Option OftableSlot) (table : OfTable) (fd : UInt64T) :
    Option OfTable :=
  (fdToOf table fd).bind fun slot => (operation (table slot)).map (update table slot)

def fdFree (table : OfTable) (fd : UInt64T) : Option OfTable :=
  onSlot OftableSlot.ofFree table fd

def fdSetFile (table : OfTable) (fd file : UInt64T) : Option OfTable :=
  onSlot (OftableSlot.ofSet .file file) table fd

def fdSetDir (table : OfTable) (fd dir : UInt64T) : Option OfTable :=
  onSlot (OftableSlot.ofSet .dir dir) table fd

def fdUnset (table : OfTable) (fd : UInt64T) : Option OfTable :=
  onSlot OftableSlot.ofUnset table fd

def fdBeginOp (kind : OfKind) (table : OfTable) (fd : UInt64T) : Option (UInt64T × OfTable) :=
  (fdToOf table fd).bind fun slot => ((table slot).ofBeginOp kind).map fun (handle, next) =>
    (handle, update table slot next)

def fdBeginOpFile (table : OfTable) (fd : UInt64T) : Option (UInt64T × OfTable) :=
  fdBeginOp .file table fd

def fdBeginOpDir (table : OfTable) (fd : UInt64T) : Option (UInt64T × OfTable) :=
  fdBeginOp .dir table fd

/-- `none` when an assertion fails. -/
def fdEndOp (table : OfTable) (fd : UInt64T) : Option OfTable :=
  onSlot OftableSlot.ofEndOp table fd

/-! ### What an operation needs -/

theorem fdAlloc_eq_some (allocated : fdAlloc table = some (fd, next)) :
    ∃ slot, (table slot).state = .free ∧
      next = update table slot { table slot with state := .allocated } ∧
      fd = ofToFd next slot := by
  obtain ⟨⟨slot, _⟩, found, same⟩ := Option.map_eq_some_iff.mp allocated
  obtain ⟨_, searched, here⟩ := Option.map_eq_some_iff.mp found
  cases here
  cases same
  have free := List.find?_some searched
  exact ⟨slot, of_decide_eq_true free, rfl, rfl⟩

theorem fdAlloc_eq_none_iff : fdAlloc table = none ↔ ∀ slot, (table slot).state ≠ .free := by
  rw [fdAlloc, ofAlloc, Option.map_eq_none_iff, Option.map_eq_none_iff, List.find?_eq_none]
  refine forall_congr' fun slot => ?_
  rw [decide_eq_true_eq]
  exact forall_prop_of_true (List.mem_finRange slot)

theorem onSlot_eq_some (done : onSlot operation table fd = some next) :
    (table (slotOf fd)).generation ≤ fdGeneration fd ∧
      ∃ after, operation (table (slotOf fd)) = some after ∧
        next = update table (slotOf fd) after := by
  rw [onSlot, fdToOf_eq] at done
  split_ifs at done with passed
  · cases done
  · obtain ⟨after, operated, rfl⟩ := Option.map_eq_some_iff.mp done
    exact ⟨BitVec.not_lt.mp passed, after, operated, rfl⟩

theorem fdBeginOp_eq_some {handle : UInt64T} (begun : fdBeginOp kind table fd = some (handle, next)) :
    (table (slotOf fd)).generation ≤ fdGeneration fd ∧
      ∃ after, (table (slotOf fd)).ofBeginOp kind = some (handle, after) ∧
        next = update table (slotOf fd) after := by
  rw [fdBeginOp, fdToOf_eq] at begun
  split_ifs at begun with passed
  · cases begun
  · obtain ⟨⟨_, after⟩, operated, same⟩ := Option.map_eq_some_iff.mp begun
    cases same
    exact ⟨BitVec.not_lt.mp passed, after, operated, rfl⟩

theorem onSlot_of_passed (passed : fdGeneration fd < (table (slotOf fd)).generation) :
    onSlot operation table fd = none := by
  rw [onSlot, fdToOf_eq, if_pos passed]
  rfl

theorem fdBeginOp_of_passed (passed : fdGeneration fd < (table (slotOf fd)).generation) :
    fdBeginOp kind table fd = none := by
  rw [fdBeginOp, fdToOf_eq, if_pos passed]
  rfl

end LionsOS.Fs

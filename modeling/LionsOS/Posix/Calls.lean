/-
This file says once what the calls on descriptors can do: which of their branches
change the tables, and how. What is proved of the slots of sockets and of the
aliases of files is proved from this.
-/

import LionsOS.Posix.Syscalls

open Function

namespace LionsOS.Posix

open Sock Option

namespace Libc

variable {maxFds : Nat} {libc next : Libc maxFds} {answer : SysResult} {outcome : Outcome}
  {buffer : Bool}

variable {fd newfd oldfd : Fin maxFds} {number : Int} {result closing : CloseResult}
  {answers : LwipAnswers} {moves : Nat → Option Nat} {closes : Bool}

theorem ask_eq_some {event : Event} (asked : libc.ask event = some (outcome, next)) :
    ∃ layer, libc.layer.perform event = .ok (outcome, layer) ∧
      next = { libc with layer := { layer with fault := none } } := by
  unfold ask at asked
  split at asked
  · rename_i performed
    cases asked
    exact ⟨_, performed, rfl⟩
  · cases asked

theorem socketOf_eq_ok {index : Fin maxSockets} (found : libc.socketOf number = .ok (fd, index)) :
    libc.fdSocket fd = some index := by
  unfold socketOf at found
  split at found
  · cases found
  · split at found
    · cases found
    · rename_i mapped
      cases found
      exact mapped

/-! ### Sockets -/

/-- The end of an accept enters the slot of a connection, or closes it. -/
theorem acceptReturned_cases (returned : libc.acceptReturned outcome result = some (answer, next)) :
    next = libc ∨ (∃ index closed, libc.ask (.close index result) = some (closed, next)) ∨
      ∃ fd fds index, libc.fds.posixFdAllocate = some (fd, fds) ∧
        next = { libc with
          fds := fds.setEntry fd .socket
          fdSocket := update libc.fdSocket fd (some index) } := by
  unfold acceptReturned at returned
  split at returned
  · split at returned
    · obtain ⟨⟨closing, closed⟩, asked, same⟩ := map_eq_some_iff.mp returned
      cases same
      exact .inr (.inl ⟨_, closing, asked⟩)
    · rename_i fd fds allocated
      cases returned
      exact .inr (.inr ⟨fd, fds, _, allocated, rfl⟩)
  · cases returned
    exact .inl rfl

theorem sysAccept_cases {sockfd : Int} {accepting : CloseResult}
    (accepted : libc.sysAccept sockfd accepting closing = some (answer, next)) :
    next = libc ∨ ∃ event outcome middle, libc.ask event = some (outcome, middle) ∧
      middle.acceptReturned outcome closing = some (answer, next) := by
  unfold sysAccept at accepted
  split at accepted
  · cases accepted
    exact .inl rfl
  · split at accepted
    · cases accepted
    · rename_i asked
      exact .inr ⟨_, _, _, asked, accepted⟩

theorem resume_cases {position : Nat}
    (resumed : libc.resume position answers closing = some (answer, next)) :
    ∃ outcome middle, libc.ask (.resume position answers) = some (outcome, middle) ∧
      (next = middle ∨ middle.acceptReturned outcome closing = some (answer, next)) := by
  unfold resume at resumed
  split at resumed
  · cases resumed
  · rename_i asked
    split at resumed
    · exact ⟨_, _, asked, .inr resumed⟩
    · cases resumed
      exact ⟨_, _, asked, .inl rfl⟩

theorem sysSocketCall_cases {call : SocketCall}
    (called : libc.sysSocketCall number call = some (answer, next)) :
    next = libc ∨ ∃ event outcome, libc.ask event = some (outcome, next) := by
  unfold sysSocketCall at called
  split at called
  · cases called
    exact .inl rfl
  · obtain ⟨⟨outcome, next⟩, asked, same⟩ := map_eq_some_iff.mp called
    cases same
    exact .inr ⟨_, outcome, asked⟩

/-! ### Files -/

theorem fileTransfer_cases (fd : Fin maxFds) (len : Nat) (buffer : Bool)
    (answer : Nat → Option Nat) : (libc.fileTransfer fd len buffer answer).2 = libc ∨
      ∃ filePtr, (libc.fileTransfer fd len buffer answer).2 =
        { libc with fds := libc.fds.setEntry fd { libc.fds.fdTable fd with filePtr } } := by
  unfold fileTransfer
  split
  · exact .inl rfl
  · split
    · exact .inl rfl
    · split
      · exact .inl rfl
      · exact .inr ⟨_, rfl⟩

/-- What becomes of a descriptor that is found for a file. -/
inductive Opens (libc : Libc maxFds) (fd : Fin maxFds) (fds : FdTable maxFds)
    (fullPath : List UInt8T) (flags : OpenFlags) (answers : OpenAnswers) (next : Libc maxFds) : Prop
  | refused (same : next = { libc with fds := fds.posixFdDeallocate fd })
  /-- The file server has opened the file, and no descriptor is for it. -/
  | notTruncated {number : Nat} (opened : answers.opened = some number)
    (same : next = { libc with
      fds := fds.posixFdDeallocate fd
      served := update libc.served { directory := flags.directory, number }
        (some libc.openings)
      openings := libc.openings + 1 })
  | opened {number : Nat} (opened : answers.opened = some number)
    (same : next = { libc with
      fds := fds.setEntry fd
        { functions := .file, nonblock := flags.nonblock, directory := flags.directory,
          filePtr := 0 }
      fsServerFdMap := update libc.fsServerFdMap fd (some number)
      fdPath := update libc.fdPath fd fullPath
      served := update libc.served { directory := flags.directory, number }
        (some libc.openings)
      openings := libc.openings + 1
      openFile := update libc.openFile fd (some
        { opening := libc.openings, serverFd := { directory := flags.directory, number },
          path := fullPath }) })

theorem openFound_cases (fd : Fin maxFds) (fds : FdTable maxFds) (fullPath : List UInt8T)
    (flags : OpenFlags) (answers : OpenAnswers) :
    libc.Opens fd fds fullPath flags answers (libc.openFound fd fds fullPath flags answers).2 := by
  unfold openFound
  split
  · exact .refused rfl
  · split
    · exact .refused rfl
    · split
      · exact .refused rfl
      · rename_i number opened
        split
        · exact .notTruncated opened rfl
        · exact .opened opened rfl

theorem sysOpenat_cases {dirfd : DirFd} {path : List UInt8T} {flags : OpenFlags}
    {answers : OpenAnswers} (opened : libc.sysOpenat dirfd path flags answers = some (answer, next)) :
    next = libc ∨ ∃ fd fds fullPath, libc.resolvePath dirfd path = .ok fullPath ∧
      libc.fds.posixFdAllocate = some (fd, fds) ∧
      libc.Opens fd fds fullPath flags answers next := by
  unfold sysOpenat at opened
  split at opened
  · cases opened
    exact .inl rfl
  · rename_i fullPath resolved
    split_ifs at opened
    · cases opened
      exact .inl rfl
    · cases opened
      exact .inl rfl
    · cases opened
      exact .inl rfl
    · cases opened
      exact .inl rfl
    · split at opened
      · cases opened
        exact .inl rfl
      · rename_i fd fds allocated
        split_ifs at opened
        have opens := @openFound_cases maxFds libc fd fds fullPath flags answers
        rw [some.inj opened] at opens
        exact .inr ⟨fd, fds, fullPath, resolved, allocated, opens⟩

/-! ### Reading, writing and flags -/

theorem sysRead_cases {len : Nat}
    (read : libc.sysRead number len buffer moves = some (answer, next)) :
    next = libc ∨ libc.sysSocketCall number (.recvfrom len false) = some (answer, next) ∨
      ∃ fd filePtr, next =
        { libc with fds := libc.fds.setEntry fd { libc.fds.fdTable fd with filePtr } } := by
  unfold sysRead at read
  split at read
  · cases read
    exact .inl rfl
  · split at read
    · cases read
      exact .inl rfl
    · rename_i fd _
      split at read
      · exact .inr (.inl read)
      · have same := congrArg Prod.snd (some.inj read)
        rcases fileTransfer_cases fd len buffer moves with none_moved | ⟨filePtr, moved⟩
        · exact .inl (same.symm.trans none_moved)
        · exact .inr (.inr ⟨fd, filePtr, same.symm.trans moved⟩)
      · cases read
      · cases read

theorem sysWrite_cases {len : Nat}
    (written : libc.sysWrite number len answers buffer moves = some (answer, next)) :
    next = libc ∨ libc.sysSocketCall number (.sendto len false answers) = some (answer, next) ∨
      ∃ fd filePtr, next =
        { libc with fds := libc.fds.setEntry fd { libc.fds.fdTable fd with filePtr } } := by
  unfold sysWrite at written
  split at written
  · cases written
    exact .inl rfl
  · split at written
    · cases written
      exact .inl rfl
    · rename_i fd _
      split at written
      · exact .inr (.inl written)
      · have same := congrArg Prod.snd (some.inj written)
        rcases fileTransfer_cases fd len buffer moves with none_moved | ⟨filePtr, moved⟩
        · exact .inl (same.symm.trans none_moved)
        · exact .inr (.inr ⟨fd, filePtr, same.symm.trans moved⟩)
      · cases written
        exact .inl rfl
      · cases written

theorem sysFstat_same (found : libc.sysFstat number = some (answer, next)) : next = libc := by
  unfold sysFstat at found
  split at found
  · cases found
    rfl
  · split at found
    · cases found
      rfl
    · split at found <;> cases found <;> rfl

theorem sysFcntlSetfl_cases {nonblock : Bool}
    (performed : libc.perform (.fcntlSetfl number nonblock) = some (answer, next)) :
    next = libc ∨ ∃ fd,
      next = { libc with fds := libc.fds.setEntry fd { libc.fds.fdTable fd with nonblock } } := by
  have same : (libc.sysFcntlSetfl number nonblock).2 = next :=
    congrArg Prod.snd (some.inj performed)
  rw [← same]
  unfold sysFcntlSetfl
  split
  · exact .inl rfl
  · split
    · exact .inl rfl
    · rename_i fd _
      exact .inr ⟨fd, rfl⟩

/-! ### Closing and duplicating -/

theorem closeEntry_cases (closed : libc.closeEntry fd result closes = some (answer, next)) :
    (libc.fds.fdTable fd).functions = .sock ∧ libc.sockClose fd result = some (answer, next) ∨
      (libc.fds.fdTable fd).functions = .file ∧ next = (libc.fileClose fd closes).2 := by
  unfold closeEntry at closed
  split at closed
  · rename_i functions
    exact .inl ⟨functions, closed⟩
  · rename_i functions
    exact .inr ⟨functions, (congrArg Prod.snd (some.inj closed)).symm⟩
  · cases closed
  · cases closed

theorem sockClose_eq_some (closed : libc.sockClose fd result = some (answer, next)) :
    ∃ index outcome, libc.fdSocket fd = some index ∧ ask { libc with
        fds := libc.fds.posixFdDeallocate fd
        fdSocket := update libc.fdSocket fd none } (.close index result) =
          some (outcome, next) := by
  unfold sockClose at closed
  split at closed
  · cases closed
  · rename_i index mapped
    obtain ⟨⟨outcome, next⟩, asked, same⟩ := map_eq_some_iff.mp closed
    cases same
    exact ⟨index, outcome, mapped, asked⟩

theorem fds_of_closeEntry (closed : libc.closeEntry fd result closes = some (answer, next)) :
    next.fds = libc.fds.posixFdDeallocate fd := by
  rcases closeEntry_cases closed with ⟨_, closed⟩ | ⟨_, rfl⟩
  · obtain ⟨_, _, _, asked⟩ := sockClose_eq_some closed
    obtain ⟨_, _, rfl⟩ := ask_eq_some asked
    rfl
  · rfl

/-- The new descriptor is closed if it is active. -/
def Clears (libc : Libc maxFds) (newfd : Fin maxFds) (result : CloseResult) (closes : Bool)
    (closed : Libc maxFds) : Prop :=
  libc.fds.fdActive newfd = false ∧ closed = libc ∨ libc.fds.fdActive newfd = true ∧
      ∃ answer, libc.closeEntry newfd result closes = some (answer, closed)

theorem Clears.free (clears : libc.Clears newfd result closes next) :
    next.fds.fdActive newfd = false := by
  rcases clears with ⟨free, rfl⟩ | ⟨_, answer, closed⟩
  · exact free
  · rw [fds_of_closeEntry closed, FdTable.fdActive_posixFdDeallocate, update_self]

theorem dup3Valid_cases (different : oldfd ≠ newfd)
    (duplicated : libc.dup3Valid oldfd newfd result closes = some (answer, next)) :
    ∃ closed, libc.Clears newfd result closes closed ∧ ∃ answer,
      dup3Entry { closed with fds := closed.fds.copyEntry oldfd newfd } oldfd newfd =
        some (answer, next) := by
  unfold dup3Valid at duplicated
  dsimp only at duplicated
  split at duplicated
  · cases duplicated
  · rename_i closed found
    have clears : libc.Clears newfd result closes closed := by
      split at found
      · rename_i active
        obtain ⟨⟨answer, closed⟩, same, rfl⟩ := map_eq_some_iff.mp found
        exact .inr ⟨active, answer, same⟩
      · rename_i inactive
        exact .inl ⟨Bool.eq_false_iff.mpr inactive, (some.inj found).symm⟩
    refine ⟨closed, clears, ?_⟩
    have allocated := FdTable.posixFdEntryAllocate_of_free clears.free
    rw [allocated] at duplicated
    dsimp only at duplicated
    rw [FdTable.setEntry_eq_copyEntry different allocated] at duplicated
    split at duplicated
    · cases duplicated
    · rename_i error middle same
      cases duplicated
      exact ⟨_, same⟩
    · rename_i other middle _ same
      cases duplicated
      exact ⟨_, same⟩

theorem dup3Entry_cases (duplicated : libc.dup3Entry oldfd newfd = some (answer, next)) :
    (libc.fds.fdTable newfd).functions = .sock ∧ libc.sockDup3 oldfd newfd = some (answer, next) ∨
      (libc.fds.fdTable newfd).functions = .file ∧ next = (libc.fileDup3 oldfd newfd).2 := by
  unfold dup3Entry at duplicated
  split at duplicated
  · rename_i functions
    exact .inl ⟨functions, duplicated⟩
  · rename_i functions
    exact .inr ⟨functions, (congrArg Prod.snd (some.inj duplicated)).symm⟩
  · cases duplicated
  · cases duplicated

theorem sockDup3_eq_some (duplicated : libc.sockDup3 oldfd newfd = some (answer, next)) :
    ∃ index outcome, libc.fdSocket oldfd = some index ∧
      ask { libc with fdSocket := update libc.fdSocket newfd (some index) }
        (.dup index) = some (outcome, next) := by
  unfold sockDup3 at duplicated
  split at duplicated
  · cases duplicated
  · rename_i index mapped
    obtain ⟨⟨outcome, next⟩, asked, same⟩ := map_eq_some_iff.mp duplicated
    cases same
    exact ⟨index, outcome, mapped, asked⟩

theorem sysDup3_cases {oldfd newfd : Int} {validFlags : Bool} {result : CloseResult} {closes : Bool}
    (duplicated : libc.sysDup3 oldfd newfd validFlags result closes = some (answer, next)) :
    next = libc ∨ ∃ old new : Fin maxFds, validFlags = true ∧
      libc.fds.posixFdEntry oldfd = some old ∧ (new.val : Int) = newfd ∧ old ≠ new ∧
      libc.dup3Valid old new result closes = some (answer, next) := by
  unfold sysDup3 at duplicated
  split at duplicated
  · rename_i inside
    split at duplicated
    · cases duplicated
      exact .inl rfl
    · rename_i valid
      split at duplicated
      · cases duplicated
        exact .inl rfl
      · rename_i old found
        split at duplicated
        · cases duplicated
          exact .inl rfl
        · rename_i different
          refine .inr ⟨old, ⟨newfd.toNat, inside.2⟩, Bool.not_eq_false _ ▸ valid, found,
            Int.toNat_of_nonneg inside.1, fun same => different ?_, duplicated⟩
          have number := (FdTable.posixFdEntry_eq_some found).1
          rw [same] at number
          exact number.symm.trans (Int.toNat_of_nonneg inside.1)
  · cases duplicated
    exact .inl rfl

theorem sysDup3_of_valid {oldfd : Int} {old new : Fin maxFds}
    (found : libc.fds.posixFdEntry oldfd = some old) (different : old ≠ new) :
    libc.sysDup3 oldfd new.val true result closes = libc.dup3Valid old new result closes := by
  have inside : (0 : Int) ≤ new.val ∧ (new.val : Int).toNat < maxFds :=
    ⟨Int.natCast_nonneg _, new.isLt⟩
  have other : oldfd ≠ new.val := fun same =>
    different (Fin.ext (Int.ofNat_inj.mp ((FdTable.posixFdEntry_eq_some found).1.trans same)))
  unfold sysDup3
  rw [dif_pos inside, found]
  dsimp only
  rw [if_neg other]
  rfl

theorem sysClose_cases (closed : libc.sysClose number result closes = some (answer, next)) :
    next = libc ∨ ∃ fd, libc.fds.posixFdEntry number = some fd ∧
      libc.closeEntry fd result closes = some (answer, next) := by
  unfold sysClose at closed
  split at closed
  · cases closed
    exact .inl rfl
  · split at closed
    · cases closed
      exact .inl rfl
    · rename_i fd found
      exact .inr ⟨fd, found, closed⟩

theorem sysClose_of_active (found : libc.fds.posixFdEntry number = some fd) :
    libc.sysClose number result closes = libc.closeEntry fd result closes := by
  have same := (FdTable.posixFdEntry_eq_some found).1
  have inside : ¬ (number = maxFds ∨ number = maxFds + 1) := by
    omega
  unfold sysClose
  rw [if_neg inside, found]

end Libc

end LionsOS.Posix

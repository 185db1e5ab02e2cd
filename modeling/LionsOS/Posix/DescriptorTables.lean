/-
This file is about the four tables that say together what a descriptor is: the table
of descriptors in `fd.c`, the descriptors of the file server and the paths in
`file.c`, and the slots of sockets in `sock.c`. Each is kept by other calls, and
after each call they agree, whatever fails. But the descriptors of the file server are
kept as an `int`, and one of them reads as none.
-/

import LionsOS.Lib.Runs
import LionsOS.Posix.Calls

open Function

namespace LionsOS.Posix

open Sock StepRun FdTable

/-- A call that comes to its end or waits, with any answers to it. -/
def AnsweredStep {maxFds : Nat} (libc : Libc maxFds) (call : Syscall) (next : Libc maxFds) : Prop :=
  ∃ result, libc.perform call = some (result, next)

/-! ### One descriptor -/

/-- What the tables say of one descriptor. -/
structure FdTables where
  active : Bool
  functions : FdFunctions
  serverFd : Option Nat
  path : List UInt8T
  socket : Option (Fin maxSockets)

/-- The descriptor is free or of one kind, and all tables say so. What the file server has given for
a file is `Ok`. -/
inductive FdKind (Ok : Nat → Prop) (tables : FdTables) : Prop
  | free (active : tables.active = false) (serverFd : tables.serverFd = none)
    (path : tables.path = []) (socket : tables.socket = none)
  | console (active : tables.active = true)
    (functions : tables.functions = .none ∨ tables.functions = .console)
    (serverFd : tables.serverFd = none) (path : tables.path = []) (socket : tables.socket = none)
  | file (active : tables.active = true) (functions : tables.functions = .file)
    (serverFd : ∃ number, tables.serverFd = some number ∧ Ok number)
    (socket : tables.socket = none)
  | sock (active : tables.active = true) (functions : tables.functions = .sock)
    (serverFd : tables.serverFd = none) (path : tables.path = []) (socket : tables.socket ≠ none)

namespace FdKind

variable {Ok : Nat → Prop} {tables : FdTables}

theorem of_inactive (kind : FdKind Ok tables) (inactive : tables.active = false) :
    tables.serverFd = none ∧ tables.path = [] ∧ tables.socket = none := by
  cases kind with
  | free _ serverFd path socket => exact ⟨serverFd, path, socket⟩
  | console active | file active | sock active => cases inactive.symm.trans active

theorem of_file (kind : FdKind Ok tables) (active : tables.active = true)
    (functions : tables.functions = .file) :
    (∃ number, tables.serverFd = some number ∧ Ok number) ∧ tables.socket = none := by
  cases kind with
  | free inactive => cases inactive.symm.trans active
  | file _ _ serverFd socket => exact ⟨serverFd, socket⟩
  | console _ other => rcases other with other | other <;> cases functions.symm.trans other
  | sock _ other => cases functions.symm.trans other

theorem of_sock (kind : FdKind Ok tables) (active : tables.active = true)
    (functions : tables.functions = .sock) :
    tables.serverFd = none ∧ tables.path = [] ∧ tables.socket ≠ none := by
  cases kind with
  | free inactive => cases inactive.symm.trans active
  | sock _ _ serverFd path socket => exact ⟨serverFd, path, socket⟩
  | console _ other => rcases other with other | other <;> cases functions.symm.trans other
  | file _ other => cases functions.symm.trans other

end FdKind

namespace Libc

variable {maxFds : Nat} {Ok : Nat → Prop} {libc next : Libc maxFds} {answer : SysResult}
  {fd : Fin maxFds} {path : List UInt8T} {event : Event} {dirfd : DirFd} {closes : Bool}
  {number : Nat}

variable {outcome : Outcome} {result closing : CloseResult} {answers : OpenAnswers} {call : Syscall}

def tablesAt (libc : Libc maxFds) (fd : Fin maxFds) : FdTables where
  active := libc.fds.fdActive fd
  functions := (libc.fds.fdTable fd).functions
  serverFd := libc.fsServerFdMap fd
  path := libc.fdPath fd
  socket := libc.fdSocket fd

/-! ### The invariant -/

def Kinds (libc : Libc maxFds) (Ok : Nat → Prop) : Prop :=
  ∀ fd, FdKind Ok (libc.tablesAt fd)

theorem initial_kinds : (initial : Libc maxFds).Kinds Ok := by
  intro fd
  by_cases low : fd.val ≤ 2
  · refine .console (decide_eq_true low) ?_ rfl rfl rfl
    show (FdTable.initial.fdTable fd).functions = .none ∨
      (FdTable.initial.fdTable fd).functions = .console
    unfold FdTable.initial
    dsimp only
    split
    · exact .inr rfl
    · exact .inl rfl
  · exact .free (decide_eq_false low) rfl rfl rfl

theorem Kinds.change (kinds : libc.Kinds Ok) (own : FdKind Ok (next.tablesAt fd))
    (others : ∀ other, other ≠ fd → next.tablesAt other = libc.tablesAt other) : next.Kinds Ok := by
  intro other
  by_cases same : other = fd
  · exact same ▸ own
  · rw [others other same]
    exact kinds other

theorem Kinds.of_same (kinds : libc.Kinds Ok) (same : next.tablesAt = libc.tablesAt) :
    next.Kinds Ok := by
  intro fd
  rw [same]
  exact kinds fd

theorem ask_tables (asked : libc.ask event = some (outcome, next)) :
    next.tablesAt = libc.tablesAt := by
  obtain ⟨layer, _, rfl⟩ := ask_eq_some asked
  rfl

theorem Kinds.ask (kinds : libc.Kinds Ok) (asked : libc.ask event = some (outcome, next)) :
    next.Kinds Ok :=
  kinds.of_same (ask_tables asked)

theorem Kinds.setEntry (kinds : libc.Kinds Ok) {entry : FdEntry}
    (functions : entry.functions = (libc.fds.fdTable fd).functions) :
    Kinds { libc with fds := libc.fds.setEntry fd entry } Ok := by
  refine kinds.of_same (funext fun other => ?_)
  unfold tablesAt FdTable.setEntry
  dsimp only
  by_cases same : other = fd
  · rw [same, update_self, functions]
  · rw [update_of_ne same]

/-! ### Opening -/

section Allocated

variable {other : Fin maxFds} {fds : FdTable maxFds}

theorem tablesAt_eq (active : next.fds.fdActive fd = libc.fds.fdActive fd)
    (entry : next.fds.fdTable fd = libc.fds.fdTable fd)
    (serverFd : next.fsServerFdMap fd = libc.fsServerFdMap fd)
    (path : next.fdPath fd = libc.fdPath fd) (socket : next.fdSocket fd = libc.fdSocket fd) :
    next.tablesAt fd = libc.tablesAt fd := by
  unfold tablesAt
  rw [active, entry, serverFd, path, socket]

theorem allocate_other (allocated : libc.fds.posixFdAllocate = some (fd, fds))
    (different : other ≠ fd) : fds.fdActive other = libc.fds.fdActive other ∧
      fds.fdTable other = libc.fds.fdTable other := by
  obtain ⟨_, active, entries⟩ := posixFdAllocate_eq_some allocated
  rw [active, entries]
  exact ⟨update_of_ne different _ _, rfl⟩

theorem Kinds.of_free (kinds : libc.Kinds Ok) (inactive : libc.fds.fdActive fd = false) :
    libc.fsServerFdMap fd = none ∧ libc.fdPath fd = [] ∧ libc.fdSocket fd = none :=
  (kinds fd).of_inactive inactive

theorem Kinds.give_back (kinds : libc.Kinds Ok) (inactive : libc.fds.fdActive fd = false)
    (others : ∀ other, other ≠ fd → fds.fdActive other = libc.fds.fdActive other ∧
      fds.fdTable other = libc.fds.fdTable other) :
    Kinds { libc with fds := fds.posixFdDeallocate fd } Ok := by
  obtain ⟨serverFd, path, socket⟩ := kinds.of_free inactive
  refine kinds.change (.free ?_ serverFd path socket) fun other different =>
    tablesAt_eq ?_ ?_ rfl rfl rfl
  · show (fds.posixFdDeallocate fd).fdActive fd = false
    rw [fdActive_posixFdDeallocate, update_self]
  · rw [fdActive_posixFdDeallocate, update_of_ne different]
    exact (others other different).1
  · exact (fdTable_posixFdDeallocate_of_ne different).trans (others other different).2

theorem Kinds.enterSocket (kinds : libc.Kinds Ok)
    (allocated : libc.fds.posixFdAllocate = some (fd, fds)) (index : Fin maxSockets) :
    Kinds { libc with
      fds := fds.setEntry fd .socket
      fdSocket := update libc.fdSocket fd (some index) } Ok := by
  obtain ⟨inactive, active, _⟩ := posixFdAllocate_eq_some allocated
  obtain ⟨serverFd, path, _⟩ := kinds.of_free inactive
  refine kinds.change (.sock ?_ ?_ serverFd path ?_) fun other different =>
    tablesAt_eq (allocate_other allocated different).1 ?_ rfl rfl (update_of_ne different _ _)
  · show fds.fdActive fd = true
    rw [active, update_self]
  · show ((fds.setEntry fd .socket).fdTable fd).functions = .sock
    rw [fdTable_setEntry_self]
    rfl
  · show update libc.fdSocket fd (some index) fd ≠ none
    rw [update_self]
    exact nofun
  · exact (update_of_ne different _ _).trans (allocate_other allocated different).2

end Allocated

section

variable (kinds : libc.Kinds Ok)
include kinds

theorem sysSocket_kinds {inet stream : Bool} {memory : Option Nat}
    (opened : libc.sysSocket inet stream memory result = some (answer, next)) : next.Kinds Ok := by
  unfold sysSocket at opened
  split_ifs at opened
  · cases opened
    exact kinds
  · cases opened
    exact kinds
  split at opened
  · cases opened
    exact kinds
  · rename_i fd fds allocated
    split at opened
    · cases opened
    · rename_i handle middle asked
      cases opened
      obtain ⟨layer, _, rfl⟩ := ask_eq_some asked
      exact kinds.enterSocket allocated _
    · rename_i middle _ asked
      cases opened
      obtain ⟨layer, _, rfl⟩ := ask_eq_some asked
      have inactive := (posixFdAllocate_eq_some allocated).1
      refine kinds.give_back inactive fun other different => ?_
      obtain ⟨active, entry⟩ := allocate_other allocated different
      exact ⟨active, (update_of_ne different _ _).trans entry⟩

theorem acceptReturned_kinds (returned : libc.acceptReturned outcome result = some (answer, next)) :
    next.Kinds Ok := by
  rcases acceptReturned_cases returned with rfl | ⟨_, _, asked⟩ | ⟨fd, fds, index, allocated, rfl⟩
  · exact kinds
  · exact kinds.ask asked
  · exact kinds.enterSocket allocated index

theorem sysAccept_kinds {sockfd : Int} {accepting : CloseResult}
    (accepted : libc.sysAccept sockfd accepting closing = some (answer, next)) : next.Kinds Ok := by
  rcases sysAccept_cases accepted with rfl | ⟨_, _, _, asked, returned⟩
  · exact kinds
  · exact acceptReturned_kinds (kinds.ask asked) returned

theorem resume_kinds {position : Nat} {answers : LwipAnswers}
    (resumed : libc.resume position answers closing = some (answer, next)) : next.Kinds Ok := by
  obtain ⟨_, _, asked, rfl | returned⟩ := resume_cases resumed
  · exact kinds.ask asked
  · exact acceptReturned_kinds (kinds.ask asked) returned

theorem sysSocketCall_kinds {number : Int} {call : SocketCall}
    (called : libc.sysSocketCall number call = some (answer, next)) : next.Kinds Ok := by
  rcases sysSocketCall_cases called with rfl | ⟨_, _, asked⟩
  · exact kinds
  · exact kinds.ask asked

end

/-- At this path a file is entered that the server has opened with this descriptor. -/
structure EntersAt (libc : Libc maxFds) (fullPath : List UInt8T) (flags : OpenFlags)
    (answers : OpenAnswers) (number : Nat) : Prop where
  notEtc : fullPath ≠ etcPath
  notServices : fullPath ≠ servicesPath
  buffer : answers.buffer = true
  descriptor : libc.fds.posixFdAllocate ≠ none
  notThere : ¬ (flags.creat ∧ flags.excl ∧ (answers.fstatInt fullPath).isSome)
  notDirectory : ¬ (flags.directory = false ∧ (flags.wronly ∨ flags.rdwr) ∧
    answers.fstatInt fullPath = some true)
  opened : answers.opened = some number
  truncated : ¬ (flags.directory = false ∧ flags.trunc ∧ answers.truncated = false)

/-- The call gets as far as entering a file that the server has opened with this descriptor. -/
def Enters (libc : Libc maxFds) : Syscall → Nat → Prop
  | .openat dirfd path flags answers, number => ∃ fullPath,
    libc.resolvePath dirfd path = .ok fullPath ∧ libc.EntersAt fullPath flags answers number
  | _, _ => False

/-- A descriptor was taken for a file. -/
structure Entered (libc next : Libc maxFds) (fd : Fin maxFds) (number : Nat) : Prop where
  inactive : libc.fds.fdActive fd = false
  active : next.fds.fdActive = update libc.fds.fdActive fd true
  file : (next.fds.fdTable fd).functions = .file
  others : ∀ other, other ≠ fd → next.fds.fdTable other = libc.fds.fdTable other
  serverFd : next.fsServerFdMap = update libc.fsServerFdMap fd (some number)
  path : ∃ fullPath, next.fdPath = update libc.fdPath fd fullPath
  socket : next.fdSocket = libc.fdSocket

/-- When a descriptor was found, a file is entered, or the descriptor is given back. -/
theorem openFound_enters {fds : FdTable maxFds} {fullPath : List UInt8T} {flags : OpenFlags}
    {answers : OpenAnswers} (notEtc : fullPath ≠ etcPath) (notServices : fullPath ≠ servicesPath)
    (buffer : answers.buffer = true) (allocated : libc.fds.posixFdAllocate = some (fd, fds)) :
    (∃ number, libc.EntersAt fullPath flags answers number ∧
      libc.Entered (libc.openFound fd fds fullPath flags answers).2 fd number) ∨
    (∀ number, ¬ libc.EntersAt fullPath flags answers number) ∧
      (libc.openFound fd fds fullPath flags answers).2.tablesAt =
        tablesAt { libc with fds := fds.posixFdDeallocate fd } := by
  obtain ⟨inactive, active, entries⟩ := posixFdAllocate_eq_some allocated
  unfold openFound
  split
  · rename_i there
    exact .inr ⟨fun _ enters => enters.notThere there, rfl⟩
  · rename_i notThere
    split
    · rename_i directory
      exact .inr ⟨fun _ enters => enters.notDirectory directory, rfl⟩
    · rename_i notDirectory
      split
      · rename_i refused
        exact .inr ⟨fun _ enters => Option.some_ne_none _ (enters.opened.symm.trans refused), rfl⟩
      · rename_i number opened
        split
        · rename_i kept
          exact .inr ⟨fun _ enters => enters.truncated kept, rfl⟩
        · rename_i truncated
          refine .inl ⟨number, ⟨notEtc, notServices, buffer, ?_, notThere, notDirectory, opened,
            truncated⟩, ⟨inactive, active, ?_, fun other different => ?_, rfl, ⟨_, rfl⟩, rfl⟩⟩
          · rw [allocated]
            exact Option.some_ne_none _
          · exact congrArg FdEntry.functions (fdTable_setEntry_self _)
          · rw [← entries]
            exact update_of_ne different _ _

/-- `openat` enters a file, or gives back what it has taken. -/
theorem sysOpenat_enters {flags : OpenFlags}
    (opened : libc.sysOpenat dirfd path flags answers = some (answer, next)) :
    (∃ fd number, libc.Enters (.openat dirfd path flags answers) number ∧
      libc.Entered next fd number) ∨
    (∀ number, ¬ libc.Enters (.openat dirfd path flags answers) number) ∧
      (next.tablesAt = libc.tablesAt ∨ ∃ fd fds, libc.fds.posixFdAllocate = some (fd, fds) ∧
        next.tablesAt = tablesAt { libc with fds := fds.posixFdDeallocate fd }) := by
  unfold sysOpenat at opened
  split at opened
  · rename_i unresolved
    cases opened
    refine .inr ⟨?_, .inl rfl⟩
    rintro _ ⟨_, resolved, _⟩
    cases unresolved.symm.trans resolved
  · rename_i fullPath resolved
    have never (not : ∀ number, ¬ libc.EntersAt fullPath flags answers number) (number : Nat) :
        ¬ libc.Enters (.openat dirfd path flags answers) number := by
      rintro ⟨_, again, enters⟩
      cases resolved.symm.trans again
      exact not number enters
    split_ifs at opened with etc _ services noBuffer
    · cases opened
      exact .inr ⟨never fun _ enters => enters.notEtc etc, .inl rfl⟩
    · cases opened
      exact .inr ⟨never fun _ enters => enters.notEtc etc, .inl rfl⟩
    · cases opened
      exact .inr ⟨never fun _ enters => enters.notServices services, .inl rfl⟩
    · cases opened
      exact .inr ⟨never fun _ enters => (nomatch noBuffer.symm.trans enters.buffer), .inl rfl⟩
    · split at opened
      · rename_i full
        cases opened
        exact .inr ⟨never fun _ enters => enters.descriptor full, .inl rfl⟩
      · rename_i fd fds allocated
        split_ifs at opened
        have found := @openFound_enters maxFds libc fd fds fullPath flags answers etc services
          (Bool.not_eq_false _ ▸ noBuffer) allocated
        rw [Option.some.inj opened] at found
        rcases found with ⟨number, enters, entered⟩ | ⟨not, same⟩
        · exact .inl ⟨fd, number, ⟨fullPath, resolved, enters⟩, entered⟩
        · exact .inr ⟨never not, .inr ⟨fd, fds, allocated, same⟩⟩

section

variable (kinds : libc.Kinds Ok)
include kinds

theorem sysOpenat_kinds {flags : OpenFlags}
    (ok : ∀ number, libc.Enters (.openat dirfd path flags answers) number → Ok number)
    (opened : libc.sysOpenat dirfd path flags answers = some (answer, next)) : next.Kinds Ok := by
  rcases sysOpenat_enters opened with ⟨fd, number, enters, entered⟩ |
    ⟨_, same | ⟨fd, fds, allocated, same⟩⟩
  · obtain ⟨_, _, socket⟩ := kinds.of_free entered.inactive
    refine kinds.change (.file ?_ entered.file ⟨number, ?_, ok number enters⟩ ?_)
      fun other different => tablesAt_eq ?_ (entered.others other different) ?_ ?_ ?_
    · show next.fds.fdActive fd = true
      rw [entered.active, update_self]
    · show next.fsServerFdMap fd = some number
      rw [entered.serverFd, update_self]
    · exact (congrFun entered.socket fd).trans socket
    · rw [entered.active, update_of_ne different]
    · rw [entered.serverFd, update_of_ne different]
    · obtain ⟨fullPath, same⟩ := entered.path
      rw [same, update_of_ne different]
    · rw [entered.socket]
  · exact kinds.of_same same
  · refine (kinds.give_back (posixFdAllocate_eq_some allocated).1 ?_).of_same same
    exact fun other different => allocate_other allocated different

/-! ### Closing and duplicating -/

theorem closeEntry_kinds (active : libc.fds.fdActive fd = true)
    (closed : libc.closeEntry fd result closes = some (answer, next)) : next.Kinds Ok := by
  have inactive : (libc.fds.posixFdDeallocate fd).fdActive fd = false := by
    rw [fdActive_posixFdDeallocate, update_self]
  have others {other : Fin maxFds} (different : other ≠ fd) :
      (libc.fds.posixFdDeallocate fd).fdActive other = libc.fds.fdActive other := by
    rw [fdActive_posixFdDeallocate, update_of_ne different]
  rcases closeEntry_cases closed with ⟨functions, closed⟩ | ⟨functions, rfl⟩
  · obtain ⟨index, outcome, _, asked⟩ := sockClose_eq_some closed
    obtain ⟨serverFd, path, _⟩ := (kinds fd).of_sock active functions
    have released : Kinds { libc with
        fds := libc.fds.posixFdDeallocate fd
        fdSocket := update libc.fdSocket fd none } Ok := by
      refine kinds.change (.free inactive serverFd path (update_self _ _ _))
        fun other different => ?_
      exact tablesAt_eq (others different) (fdTable_posixFdDeallocate_of_ne different) rfl
        rfl (update_of_ne different _ _)
    exact released.ask asked
  · obtain ⟨_, socket⟩ := (kinds fd).of_file active functions
    refine kinds.change (.free inactive (update_self _ _ _) (update_self _ _ _)
      socket) fun other different => ?_
    exact tablesAt_eq (others different) (fdTable_posixFdDeallocate_of_ne different)
      (update_of_ne different _ _) (update_of_ne different _ _) rfl

theorem dup3Valid_kinds {oldfd newfd : Fin maxFds} (old : libc.fds.fdActive oldfd = true)
    (different : oldfd ≠ newfd)
    (duplicated : libc.dup3Valid oldfd newfd result closes = some (answer, next)) :
    next.Kinds Ok := by
  obtain ⟨closed, clears, _, duplicated⟩ := dup3Valid_cases different duplicated
  have kinds' : closed.Kinds Ok := by
    rcases clears with ⟨_, rfl⟩ | ⟨active, _, closed⟩
    · exact kinds
    · exact closeEntry_kinds kinds active closed
  have old' : closed.fds.fdActive oldfd = true := by
    rcases clears with ⟨_, rfl⟩ | ⟨_, _, closed⟩
    · exact old
    · rw [fds_of_closeEntry closed, fdActive_posixFdDeallocate, update_of_ne different]
      exact old
  obtain ⟨serverFd, path, socket⟩ := kinds'.of_free clears.free
  have active : (closed.fds.copyEntry oldfd newfd).fdActive newfd = true :=
    copyEntry_self.1
  have functions : ((closed.fds.copyEntry oldfd newfd).fdTable newfd).functions =
      (closed.fds.fdTable oldfd).functions := by
    rw [copyEntry_self.2]
  rcases dup3Entry_cases duplicated with ⟨isSocket, duplicated⟩ | ⟨isFile, rfl⟩
  · obtain ⟨index, outcome, mapped, asked⟩ := sockDup3_eq_some duplicated
    have copied : Kinds { closed with
        fds := closed.fds.copyEntry oldfd newfd
        fdSocket := update closed.fdSocket newfd (some index) } Ok := by
      refine kinds'.change (.sock active isSocket serverFd path ?_) ?_
      · show update closed.fdSocket newfd (some index) newfd ≠ none
        rw [update_self]
        exact nofun
      · exact fun other different => tablesAt_eq (copyEntry_of_ne different).1
          (copyEntry_of_ne different).2 rfl rfl (update_of_ne different _ _)
    exact copied.ask asked
  · obtain ⟨⟨number, mapped, ok⟩, _⟩ := (kinds' oldfd).of_file old' (functions.symm.trans isFile)
    refine kinds'.change (.file active isFile ⟨number, ?_, ok⟩ socket) ?_
    · exact (update_self _ _ _).trans mapped
    · exact fun other different => tablesAt_eq (copyEntry_of_ne different).1
        (copyEntry_of_ne different).2 (update_of_ne different _ _) rfl rfl

/-! ### Every call -/

theorem step_kinds (ok : ∀ number, libc.Enters call number → Ok number)
    (step : AnsweredStep libc call next) : next.Kinds Ok := by
  obtain ⟨answer, performed⟩ := step
  cases call with
  | socket inet stream memory result => exact sysSocket_kinds kinds performed
  | accept sockfd accepting closing => exact sysAccept_kinds kinds performed
  | socketCall fd call => exact sysSocketCall_kinds kinds performed
  | resume position answers closing => exact resume_kinds kinds performed
  | openat dirfd path flags answers => exact sysOpenat_kinds kinds ok performed
  | read fd len buffer moves =>
    rcases sysRead_cases performed with rfl | asked | ⟨fd, filePtr, rfl⟩
    · exact kinds
    · exact sysSocketCall_kinds kinds asked
    · exact kinds.setEntry rfl
  | write fd len answers buffer moves =>
    rcases sysWrite_cases performed with rfl | asked | ⟨fd, filePtr, rfl⟩
    · exact kinds
    · exact sysSocketCall_kinds kinds asked
    · exact kinds.setEntry rfl
  | fstat fd =>
    cases sysFstat_same performed
    exact kinds
  | fcntlSetfl number nonblock =>
    rcases sysFcntlSetfl_cases performed with rfl | ⟨fd, rfl⟩
    · exact kinds
    · exact kinds.setEntry rfl
  | dup3 oldfd newfd validFlags result closes =>
    rcases sysDup3_cases performed with rfl | ⟨old, new, _, found, _, different, duplicated⟩
    · exact kinds
    · exact dup3Valid_kinds kinds (posixFdEntry_eq_some found).2 different duplicated
  | close number result closes =>
    rcases sysClose_cases performed with rfl | ⟨fd, found, closed⟩
    · exact kinds
    · exact closeEntry_kinds kinds (posixFdEntry_eq_some found).2 closed
  | callback event =>
    obtain ⟨⟨outcome, next⟩, asked, same⟩ := Option.map_eq_some_iff.mp performed
    cases same
    exact kinds.ask asked

/-- The assertion of `sys_openat` on the descriptor that it has found holds. -/
theorem Kinds.sysOpenat_ne_none (dirfd : DirFd) (path : List UInt8T) (flags : OpenFlags)
    (answers : OpenAnswers) : libc.sysOpenat dirfd path flags answers ≠ none := by
  unfold sysOpenat
  split
  · exact nofun
  · split_ifs
    · exact nofun
    · exact nofun
    · exact nofun
    · exact nofun
    · split
      · exact nofun
      · rename_i fd fds allocated
        rw [if_pos (kinds.of_free (posixFdAllocate_eq_some allocated).1).1]
        exact nofun

end

/-- The number that `fs_server_fd_map` holds, which is of 32 bits: all of them are set for none. -/
def fsServerFd (libc : Libc maxFds) (fd : Fin maxFds) : UInt32T :=
  match libc.fsServerFdMap fd with
  | none => -1
  | some number => BitVec.ofNat 32 number

/-- The tables say the same of each descriptor, and `openat` finds no descriptor of the file server
where it has found a free descriptor. -/
structure TablesAgree (libc : Libc maxFds) : Prop where
  inactive : ∀ fd, libc.fds.fdActive fd = false →
    libc.fsServerFd fd = -1 ∧ libc.fdPath fd = [] ∧ libc.fdSocket fd = none
  file : ∀ fd, libc.fds.fdActive fd = true → (libc.fds.fdTable fd).functions = .file →
    libc.fsServerFd fd ≠ -1 ∧ libc.fdSocket fd = none
  sock : ∀ fd, libc.fds.fdActive fd = true → (libc.fds.fdTable fd).functions = .sock →
    libc.fdSocket fd ≠ none ∧ libc.fsServerFd fd = -1
  assertion : ∀ dirfd path flags answers, libc.sysOpenat dirfd path flags answers ≠ none

/-- An `int` does not hold the descriptor as -1. -/
def Mappable (number : Nat) : Prop :=
  BitVec.ofNat 32 number ≠ -1

theorem fsServerFd_of_none (unmapped : libc.fsServerFdMap fd = none) : libc.fsServerFd fd = -1 := by
  unfold fsServerFd
  rw [unmapped]

theorem fsServerFd_of_some (mapped : libc.fsServerFdMap fd = some number) :
    libc.fsServerFd fd = BitVec.ofNat 32 number := by
  unfold fsServerFd
  rw [mapped]

theorem Kinds.tablesAgree (kinds : libc.Kinds Mappable) : libc.TablesAgree where
  inactive _ inactive :=
    have ⟨serverFd, others⟩ := kinds.of_free inactive
    ⟨fsServerFd_of_none serverFd, others⟩
  file fd active functions :=
    have ⟨⟨_, serverFd, mappable⟩, socket⟩ := (kinds fd).of_file active functions
    ⟨fsServerFd_of_some serverFd ▸ mappable, socket⟩
  sock fd active functions :=
    have ⟨serverFd, _, socket⟩ := (kinds fd).of_sock active functions
    ⟨socket, fsServerFd_of_none serverFd⟩
  assertion := kinds.sysOpenat_ne_none

theorem TablesAgree.kinds (agree : libc.TablesAgree) (kinds : libc.Kinds Ok) :
    libc.Kinds Mappable := by
  intro fd
  cases kinds fd with
  | free active serverFd path socket => exact .free active serverFd path socket
  | console active functions serverFd path socket =>
    exact .console active functions serverFd path socket
  | file active functions serverFd socket =>
    obtain ⟨number, serverFd, _⟩ := serverFd
    refine .file active functions ⟨number, serverFd, ?_⟩ socket
    rw [Mappable, ← fsServerFd_of_some serverFd]
    exact (agree.file fd active functions).1
  | sock active functions serverFd path socket => exact .sock active functions serverFd path socket

/-- A file that the call enters has a descriptor of the server that is not held as -1. -/
def EntersMappable (libc : Libc maxFds) (call : Syscall) : Prop :=
  ∀ number, libc.Enters call number → Mappable number

theorem entered_of_step (step : AnsweredStep libc call next) (enters : libc.Enters call number) :
    ∃ fd, libc.Entered next fd number := by
  cases call with
  | openat dirfd path flags answers =>
    obtain ⟨answer, performed⟩ := step
    rcases sysOpenat_enters performed with ⟨fd, other, again, entered⟩ | ⟨not, _⟩
    · obtain ⟨_, resolved, enters⟩ := enters
      obtain ⟨_, resolved', again⟩ := again
      cases enters.opened.symm.trans again.opened
      exact ⟨fd, entered⟩
    · exact (not number enters).elim
  | _ => exact enters.elim

theorem step_tablesAgree_iff (kinds : libc.Kinds Ok) (agree : libc.TablesAgree)
    (step : AnsweredStep libc call next) : next.TablesAgree ↔ libc.EntersMappable call := by
  constructor
  · intro after number enters
    obtain ⟨fd, entered⟩ := entered_of_step step enters
    have active : next.fds.fdActive fd = true := by
      rw [entered.active, update_self]
    have serverFd : next.fsServerFdMap fd = some number := by
      rw [entered.serverFd, update_self]
    rw [Mappable, ← fsServerFd_of_some serverFd]
    exact (after.file fd active entered.file).1
  · exact fun mappable => (step_kinds (agree.kinds kinds) mappable step).tablesAgree

end Libc

open Libc

/-- However descriptors are opened, accepted, duplicated and closed one after the other, and whatever
fails in it, the tables agree, exactly as long as the file server opens no file with a descriptor
that reads as -1 in an `int`. -/
theorem descriptor_tables_agree_iff {maxFds : Nat} {libc : Libc maxFds} {calls : List Syscall} :
    Run (Within TablesAgree AnsweredStep) .initial calls libc ↔
      Run (Guarded EntersMappable AnsweredStep) .initial calls libc := by
  refine run_within_iff_guarded (fun libc => libc.Kinds fun _ => True) initial_kinds
    initial_kinds.tablesAgree ?_ ?_
  · exact fun _ _ _ kinds step => step_kinds kinds (fun _ _ => trivial) step
  · exact fun _ _ _ kinds agree step => step_tablesAgree_iff kinds agree step

/-- The file server opens a file with the last descriptor of 32 bits. -/
theorem active_file_unmapped : ∃ libc : Libc 128, Run AnsweredStep .initial
      [.openat .cwd [0x61] ⟨false, false, false, false, false, false, false⟩
        ⟨true, fun _ => none, some 4294967295, true⟩] libc ∧ ¬ libc.TablesAgree := by
  refine ⟨_, Run.single ⟨_, rfl⟩, fun agree => ?_⟩
  exact (agree.file 3 rfl rfl).1 rfl

end LionsOS.Posix

/-
This file is about descriptors that are aliases of one open file. Whatever an
alias does goes by what the tables say of it: its entry, the descriptor of the
file server and the path. An alias that `dup3` has made has no path, and the first
close of an alias closes the file for all of them; nothing else comes between an
alias and its file.
-/

import LionsOS.Posix.Calls
import LionsOS.Lib.Runs

open Function

namespace LionsOS.Posix

open Sock StepRun FdTable

/-! ### Entries of files -/

/-- The entry of a descriptor fits what the descriptor was made for. -/
def EntryFor (active : Bool) (entry : FdEntry) : Option OpenFile → Prop
  | some file => active = true ∧ entry.functions = .file ∧ entry.directory = file.serverFd.directory
  | none => entry.functions ≠ .file

section Entries

variable {maxFds : Nat} {fds next : FdTable maxFds} {openFile : Fin maxFds → Option OpenFile}
  {fd : Fin maxFds}

def EntriesFor (fds : FdTable maxFds) (openFile : Fin maxFds → Option OpenFile) : Prop :=
  ∀ fd, EntryFor (fds.fdActive fd) (fds.fdTable fd) (openFile fd)

namespace EntriesFor

section

variable (entries : EntriesFor fds openFile)
include entries

theorem none_of_inactive (inactive : fds.fdActive fd = false) : openFile fd = none := by
  cases opened : openFile fd with
  | none => rfl
  | some file =>
    have own := entries fd
    rw [opened] at own
    exact nomatch inactive.symm.trans own.1

theorem none_of_functions (functions : (fds.fdTable fd).functions ≠ .file) :
    openFile fd = none := by
  cases opened : openFile fd with
  | none => rfl
  | some file =>
    have own := entries fd
    rw [opened] at own
    exact (functions own.2.1).elim

theorem some_of_functions (functions : (fds.fdTable fd).functions = .file) :
    ∃ file, openFile fd = some file := by
  cases opened : openFile fd with
  | some file => exact ⟨file, rfl⟩
  | none =>
    have own := entries fd
    rw [opened] at own
    exact (own functions).elim

/-- One descriptor changes, and the others stay as they are. -/
theorem change {file : Option OpenFile} (own : EntryFor (next.fdActive fd) (next.fdTable fd) file)
    (others : ∀ other, other ≠ fd → next.fdActive other = fds.fdActive other ∧
      next.fdTable other = fds.fdTable other) : EntriesFor next (update openFile fd file) := by
  intro other
  by_cases same : other = fd
  · rw [same, update_self]
    exact own
  · rw [update_of_ne same, (others other same).1, (others other same).2]
    exact entries other

/-- A descriptor that is not for a file changes, and still is not. -/
theorem change_other (unused : openFile fd = none) (own : (next.fdTable fd).functions ≠ .file)
    (others : ∀ other, other ≠ fd → next.fdActive other = fds.fdActive other ∧
      next.fdTable other = fds.fdTable other) : EntriesFor next openFile := by
  have changed : EntriesFor next (update openFile fd none) := entries.change own others
  rwa [← unused, update_eq_self] at changed

theorem setEntry {entry : FdEntry} (functions : entry.functions = (fds.fdTable fd).functions)
    (directory : entry.directory = (fds.fdTable fd).directory) :
    EntriesFor (fds.setEntry fd entry) openFile := by
  have changed : EntriesFor (fds.setEntry fd entry) (update openFile fd (openFile fd)) := by
    refine entries.change ?_ fun other different => ⟨rfl, update_of_ne different _ _⟩
    have own := entries fd
    show EntryFor (fds.fdActive fd) (update fds.fdTable fd entry fd) (openFile fd)
    rw [update_self]
    cases opened : openFile fd with
    | none =>
      rw [opened] at own
      exact fun file => own (functions.symm.trans file)
    | some file =>
      rw [opened] at own
      exact ⟨own.1, functions.trans own.2.1, directory.trans own.2.2⟩
  rwa [update_eq_self] at changed

theorem allocate (allocated : fds.posixFdAllocate = some (fd, next)) :
    EntriesFor next openFile ∧ openFile fd = none ∧ next.fdActive fd = true := by
  obtain ⟨inactive, active, table⟩ := posixFdAllocate_eq_some allocated
  have unused := entries.none_of_inactive inactive
  refine ⟨entries.change_other unused ?_ fun other different => ?_, unused, ?_⟩
  · have own := entries fd
    rw [unused] at own
    rwa [table]
  · exact ⟨by rw [active, update_of_ne different], by rw [table]⟩
  · rw [active, update_self]

theorem deallocate (fd : Fin maxFds) :
    EntriesFor (fds.posixFdDeallocate fd) (update openFile fd none) := by
  refine entries.change ?_ fun other different => ⟨?_, ?_⟩
  · unfold posixFdDeallocate
    split
    · show (update fds.fdTable fd .cleared fd).functions ≠ .file
      rw [update_self]
      exact (nomatch ·)
    · rename_i inactive
      have own := entries fd
      rwa [entries.none_of_inactive (Bool.eq_false_iff.mpr inactive)] at own
  · rw [fdActive_posixFdDeallocate, update_of_ne different]
  · exact fdTable_posixFdDeallocate_of_ne different

theorem deallocate_other (unused : openFile fd = none) :
    EntriesFor (fds.posixFdDeallocate fd) openFile := by
  have released := entries.deallocate fd
  rwa [← unused, update_eq_self] at released

theorem copyEntry {old : Fin maxFds} :
    EntriesFor (fds.copyEntry old fd) (update openFile fd (openFile old)) := by
  refine entries.change ?_ fun other different => copyEntry_of_ne different
  have own := entries old
  rw [copyEntry_self.1, copyEntry_self.2]
  cases opened : openFile old with
  | none => rwa [opened] at own
  | some file =>
    rw [opened] at own
    exact ⟨rfl, own.2⟩

end

end EntriesFor

end Entries

namespace Libc

variable {maxFds : Nat} {libc next : Libc maxFds} {answer : SysResult} {outcome : Outcome}
  {flags : OpenFlags}

variable {fd newfd oldfd : Fin maxFds} {file : OpenFile} {result closing : CloseResult}
  {fds : FdTable maxFds} {call : Syscall} {answers : OpenAnswers} {fullPath : List UInt8T}
  {closes : Bool}

/-! ### What aliases have to do -/

/-- A descriptor does what its open file does: the file server has the file open for reading, writing
and closing, `fstat` asks for its path, and relative paths start from it. -/
structure WorksFor (libc : Libc maxFds) (fd : Fin maxFds) (file : OpenFile) : Prop where
  isFile : libc.fds.fdActive fd = true ∧ (libc.fds.fdTable fd).functions = .file
  served : (libc.serverFd fd).bind libc.served = some file.opening
  fstat : libc.sysFstat fd.val = some (.stat file.path, libc)
  openat : libc.basePath (.fd fd.val) = directoryBase file.path

/-- Every descriptor does what the file does that it was opened for, or that it was duplicated
from. -/
def AliasesWork (libc : Libc maxFds) : Prop :=
  ∀ fd file, libc.openFile fd = some file → libc.WorksFor fd file

/-- No other descriptor is for the same open file. -/
def OnlyDescriptor (libc : Libc maxFds) (fd : Fin maxFds) : Prop :=
  ∀ file, libc.openFile fd = some file → ∀ other, other ≠ fd → libc.openFile other ≠ some file

/-- The call is none of these: a close that reaches the file server while there is another alias of
the file, be it a close of its own or that of the new descriptor of `dup3`, and a `dup3` of a file
that has a path. -/
structure KeepsAliases (libc : Libc maxFds) (call : Syscall) : Prop where
  close : ∀ number result fd, call = .close number result true →
    libc.fds.posixFdEntry number = some fd → libc.OnlyDescriptor fd
  dup3 : ∀ oldfd result closes old new, call = .dup3 oldfd (Fin.val new) true result closes →
    libc.fds.posixFdEntry oldfd = some old → old ≠ new →
      (closes = true → libc.OnlyDescriptor new) ∧
        ∀ file, libc.openFile old = some file → file.path = []

/-! ### The invariant -/

structure FilesSound (libc : Libc maxFds) : Prop where
  entries : EntriesFor libc.fds libc.openFile
  mapped : ∀ fd file, libc.openFile fd = some file →
    libc.fsServerFdMap fd = some file.serverFd.number
  unused : ∀ fd, libc.openFile fd = none → libc.fdPath fd = []
  fresh : ∀ fd file, libc.openFile fd = some file → file.opening < libc.openings
  unique : ∀ fd other file another, libc.openFile fd = some file →
    libc.openFile other = some another → file.opening = another.opening → file = another

theorem FilesSound.serverFd_eq (sound : libc.FilesSound) (opened : libc.openFile fd = some file) :
    libc.serverFd fd = some file.serverFd := by
  have own := sound.entries fd
  rw [opened] at own
  rw [serverFd, sound.mapped fd file opened, own.2.2]
  rfl

/-- What may go wrong with a descriptor of a file. -/
structure Works (libc : Libc maxFds) (fd : Fin maxFds) (file : OpenFile) : Prop where
  served : libc.served file.serverFd = some file.opening
  path : libc.fdPath fd = file.path

theorem posixFdEntry_of_active (active : libc.fds.fdActive fd = true) :
    libc.fds.posixFdEntry fd.val = some fd := by
  unfold posixFdEntry
  rw [dif_pos ⟨Int.natCast_nonneg _, fd.isLt⟩]
  exact if_pos active

theorem FilesSound.worksFor_iff (sound : libc.FilesSound) (opened : libc.openFile fd = some file) :
    libc.WorksFor fd file ↔ libc.Works fd file := by
  have own := sound.entries fd
  rw [opened] at own
  obtain ⟨active, functions, _⟩ := own
  have served : (libc.serverFd fd).bind libc.served = libc.served file.serverFd := by
    rw [sound.serverFd_eq opened]
    rfl
  have outside : ¬ ((fd.val : Int) = maxFds ∨ (fd.val : Int) = maxFds + 1) := by
    omega
  have fstat : libc.sysFstat fd.val = some (.stat (libc.fdPath fd), libc) := by
    unfold sysFstat
    rw [if_neg outside, posixFdEntry_of_active active]
    dsimp only
    rw [functions]
    rfl
  have openat : libc.basePath (.fd fd.val) = directoryBase (libc.fdPath fd) :=
    dif_pos ⟨Int.natCast_nonneg _, fd.isLt⟩
  constructor
  · intro works
    refine ⟨served.symm.trans works.served, ?_⟩
    have same := fstat.symm.trans works.fstat
    injection same with same
    injection same with same
    injection same
  · intro works
    refine ⟨⟨active, functions⟩, served.trans works.served, ?_, ?_⟩
    · rw [fstat, works.path]
    · rw [openat, works.path]

theorem FilesSound.aliasesWork_iff (sound : libc.FilesSound) :
    libc.AliasesWork ↔ ∀ fd file, libc.openFile fd = some file → libc.Works fd file :=
  forall_congr' fun _ => forall_congr' fun _ => forall_congr' fun opened =>
    sound.worksFor_iff opened

/-! ### Calls that leave files alone -/

/-- What is known of files. -/
def fileTables (libc : Libc maxFds) :=
  (libc.fsServerFdMap, libc.fdPath, libc.served, libc.openings, libc.openFile)

structure KeepsFiles (libc next : Libc maxFds) : Prop where
  entries : EntriesFor libc.fds libc.openFile → EntriesFor next.fds libc.openFile
  tables : next.fileTables = libc.fileTables

theorem KeepsFiles.refl (libc : Libc maxFds) : libc.KeepsFiles libc :=
  ⟨id, rfl⟩

theorem KeepsFiles.trans {last : Libc maxFds} (first : libc.KeepsFiles next)
    (second : next.KeepsFiles last) : libc.KeepsFiles last := by
  have same : next.openFile = libc.openFile := congrArg (fun tables => tables.2.2.2.2) first.tables
  refine ⟨fun entries => ?_, second.tables.trans first.tables⟩
  have middle := first.entries entries
  rw [← same] at middle ⊢
  exact second.entries middle

theorem KeepsFiles.of_fds (fds : next.fds = libc.fds)
    (tables : next.fileTables = libc.fileTables) : libc.KeepsFiles next :=
  ⟨fun entries => fds ▸ entries, tables⟩

theorem ask_files {event : Event} (asked : libc.ask event = some (outcome, next)) :
    libc.KeepsFiles next := by
  obtain ⟨layer, _, rfl⟩ := ask_eq_some asked
  exact .of_fds rfl rfl

theorem sockClose_files (functions : (libc.fds.fdTable fd).functions = .sock)
    (closed : libc.sockClose fd result = some (answer, next)) : libc.KeepsFiles next := by
  obtain ⟨index, outcome, _, asked⟩ := sockClose_eq_some closed
  obtain ⟨layer, _, rfl⟩ := ask_eq_some asked
  refine ⟨fun entries => entries.deallocate_other (entries.none_of_functions ?_), rfl⟩
  rw [functions]
  exact (nomatch ·)

theorem sockDup3_files (duplicated : libc.sockDup3 oldfd newfd = some (answer, next)) :
    libc.KeepsFiles next := by
  obtain ⟨index, outcome, _, asked⟩ := sockDup3_eq_some duplicated
  obtain ⟨layer, _, rfl⟩ := ask_eq_some asked
  exact .of_fds rfl rfl

theorem enterSocket_files (allocated : libc.fds.posixFdAllocate = some (fd, fds)) :
    libc.KeepsFiles (({ libc with fds } : Libc maxFds).enterSocket fd) := by
  refine ⟨fun entries => ?_, rfl⟩
  obtain ⟨entries, unused, _⟩ := entries.allocate allocated
  refine entries.change_other unused ?_ fun other different =>
    ⟨rfl, update_of_ne different _ _⟩
  show (update fds.fdTable fd .socket fd).functions ≠ .file
  rw [update_self]
  exact (nomatch ·)

theorem sysSocket_files {inet stream : Bool} {memory : Option Nat}
    (opened : libc.sysSocket inet stream memory result = some (answer, next)) :
    libc.KeepsFiles next := by
  unfold sysSocket at opened
  split_ifs at opened
  · cases opened
    exact .refl libc
  · cases opened
    exact .refl libc
  split at opened
  · cases opened
    exact .refl libc
  · rename_i fd fds allocated
    have entered := enterSocket_files allocated
    split at opened
    · cases opened
    · rename_i asked
      cases opened
      exact (entered.trans (ask_files asked)).trans (.of_fds rfl rfl)
    · rename_i middle _ asked
      cases opened
      obtain ⟨layer, _, rfl⟩ := ask_eq_some asked
      refine entered.trans ⟨fun entries => entries.deallocate_other ?_, rfl⟩
      refine entries.none_of_functions ?_
      show (update fds.fdTable fd .socket fd).functions ≠ .file
      rw [update_self]
      exact (nomatch ·)

theorem acceptReturned_files (returned : libc.acceptReturned outcome result = some (answer, next)) :
    libc.KeepsFiles next := by
  rcases acceptReturned_cases returned with rfl | ⟨_, _, asked⟩ | ⟨fd, fds, index, allocated, rfl⟩
  · exact .refl next
  · exact ask_files asked
  · exact (enterSocket_files allocated).trans (.of_fds rfl rfl)

theorem sysAccept_files {sockfd : Int} {accepting : CloseResult}
    (accepted : libc.sysAccept sockfd accepting closing = some (answer, next)) :
    libc.KeepsFiles next := by
  rcases sysAccept_cases accepted with rfl | ⟨_, _, _, asked, returned⟩
  · exact .refl next
  · exact (ask_files asked).trans (acceptReturned_files returned)

theorem resume_files {position : Nat} {answers : LwipAnswers}
    (resumed : libc.resume position answers closing = some (answer, next)) :
    libc.KeepsFiles next := by
  obtain ⟨_, _, asked, rfl | returned⟩ := resume_cases resumed
  · exact ask_files asked
  · exact (ask_files asked).trans (acceptReturned_files returned)

theorem sysSocketCall_files {fd : Int} {call : SocketCall}
    (called : libc.sysSocketCall fd call = some (answer, next)) : libc.KeepsFiles next := by
  rcases sysSocketCall_cases called with rfl | ⟨_, _, asked⟩
  · exact .refl next
  · exact ask_files asked

theorem setEntry_files {entry : FdEntry}
    (functions : entry.functions = (libc.fds.fdTable fd).functions)
    (directory : entry.directory = (libc.fds.fdTable fd).directory) :
    libc.KeepsFiles { libc with fds := libc.fds.setEntry fd entry } :=
  ⟨fun entries => entries.setEntry functions directory, rfl⟩

/-- The call neither opens nor closes nor duplicates a descriptor of a file. -/
def LeavesFiles : Syscall → Prop
  | .openat _ _ _ _ | .dup3 _ _ _ _ _ | .close _ _ _ => False
  | _ => True

theorem perform_files (performed : libc.perform call = some (answer, next))
    (leaves : LeavesFiles call) : libc.KeepsFiles next := by
  cases call with
  | openat | dup3 | close => exact leaves.elim
  | socket inet stream memory result => exact sysSocket_files performed
  | accept sockfd accepting closing => exact sysAccept_files performed
  | socketCall fd call => exact sysSocketCall_files performed
  | resume position answers closing => exact resume_files performed
  | read fd len buffer moves =>
    rcases sysRead_cases performed with rfl | asked | ⟨fd, filePtr, rfl⟩
    · exact .refl next
    · exact sysSocketCall_files asked
    · exact setEntry_files rfl rfl
  | write fd len answers buffer moves =>
    rcases sysWrite_cases performed with rfl | asked | ⟨fd, filePtr, rfl⟩
    · exact .refl next
    · exact sysSocketCall_files asked
    · exact setEntry_files rfl rfl
  | fstat fd =>
    cases sysFstat_same performed
    exact .refl libc
  | fcntlSetfl number nonblock =>
    rcases sysFcntlSetfl_cases performed with rfl | ⟨fd, rfl⟩
    · exact .refl next
    · exact setEntry_files rfl rfl
  | callback event =>
    obtain ⟨⟨outcome, next⟩, asked, same⟩ := Option.map_eq_some_iff.mp performed
    cases same
    exact ask_files asked

theorem KeepsFiles.sound (kept : libc.KeepsFiles next) (sound : libc.FilesSound) :
    next.FilesSound := by
  obtain ⟨entries, tables⟩ := kept
  simp only [fileTables, Prod.mk.injEq] at tables
  obtain ⟨map, path, _, openings, openFile⟩ := tables
  refine ⟨?_, ?_, ?_, ?_, ?_⟩
  · rw [openFile]
    exact entries sound.entries
  · rw [openFile, map]
    exact sound.mapped
  · rw [openFile, path]
    exact sound.unused
  · rw [openFile, openings]
    exact sound.fresh
  · rw [openFile]
    exact sound.unique

theorem KeepsFiles.works_iff (kept : libc.KeepsFiles next) (sound : libc.FilesSound) :
    next.AliasesWork ↔ libc.AliasesWork := by
  rw [sound.aliasesWork_iff, (kept.sound sound).aliasesWork_iff]
  obtain ⟨_, tables⟩ := kept
  simp only [fileTables, Prod.mk.injEq] at tables
  obtain ⟨_, path, served, _, openFile⟩ := tables
  rw [openFile]
  refine forall_congr' fun fd => forall_congr' fun file => forall_congr' fun _ => ?_
  constructor <;> rintro ⟨open_, same⟩
  · exact ⟨served ▸ open_, path ▸ same⟩
  · exact ⟨served.symm ▸ open_, path.symm ▸ same⟩

/-! ### Opening -/

theorem Works.of_opened {own : ServerFd} (works : libc.Works fd file)
    (closed : libc.served own = none)
    (served : next.served = update libc.served own (some libc.openings))
    (path : next.fdPath fd = libc.fdPath fd) : next.Works fd file := by
  refine ⟨?_, path.trans works.path⟩
  have different : file.serverFd ≠ own := by
    rintro rfl
    exact nomatch closed.symm.trans works.served
  rw [served, update_of_ne different]
  exact works.served

theorem Opens.sound (sound : libc.FilesSound)
    (allocated : libc.fds.posixFdAllocate = some (fd, fds))
    (opens : libc.Opens fd fds fullPath flags answers next) : next.FilesSound := by
  obtain ⟨entries, unused, active⟩ := sound.entries.allocate allocated
  have fresh (own : Fin maxFds) (file : OpenFile) (opened : libc.openFile own = some file) :
      file.opening < libc.openings + 1 := Nat.lt_succ_of_lt (sound.fresh own file opened)
  cases opens with
  | refused same =>
    subst same
    exact ⟨entries.deallocate_other unused, sound.mapped, sound.unused, sound.fresh, sound.unique⟩
  | notTruncated _ same =>
    subst same
    exact ⟨entries.deallocate_other unused, sound.mapped, sound.unused, fresh, sound.unique⟩
  | @opened number _ same =>
    subst same
    let file : OpenFile := {
      opening := libc.openings
      serverFd := { directory := flags.directory, number }
      path := fullPath }
    have of_other {own : Fin maxFds} {another : OpenFile}
        (opened : update libc.openFile fd (some file) own = some another) :
        own = fd ∧ another = file ∨ own ≠ fd ∧ libc.openFile own = some another := by
      by_cases same : own = fd
      · rw [same, update_self] at opened
        exact .inl ⟨same, (Option.some.inj opened).symm⟩
      · rw [update_of_ne same] at opened
        exact .inr ⟨same, opened⟩
    refine ⟨?_, ?_, ?_, ?_, ?_⟩
    · refine entries.change ?_ fun other different => ⟨rfl, update_of_ne different _ _⟩
      show EntryFor (fds.fdActive fd) (update fds.fdTable fd _ fd) (some file)
      rw [update_self]
      exact ⟨active, rfl, rfl⟩
    · intro own another opened
      show update libc.fsServerFdMap fd (some number) own = some another.serverFd.number
      rcases of_other opened with ⟨rfl, rfl⟩ | ⟨different, opened⟩
      · exact update_self _ _ _
      · rw [update_of_ne different]
        exact sound.mapped own another opened
    · intro own closed
      by_cases same : own = fd
      · rw [same] at closed
        exact nomatch (update_self (f := libc.openFile) fd (some file)).symm.trans closed
      · show update libc.fdPath fd fullPath own = []
        have closed : update libc.openFile fd (some file) own = none := closed
        rw [update_of_ne same] at closed ⊢
        exact sound.unused own closed
    · intro own another opened
      rcases of_other opened with ⟨_, rfl⟩ | ⟨_, opened⟩
      · exact Nat.lt_succ_self _
      · exact fresh own another opened
    · intro own other first second opened opened' equal
      rcases of_other opened with ⟨_, rfl⟩ | ⟨_, opened⟩ <;>
        rcases of_other opened' with ⟨_, rfl⟩ | ⟨_, opened'⟩
      · rfl
      · exact absurd equal (sound.fresh other second opened').ne'
      · exact absurd equal (sound.fresh own first opened).ne
      · exact sound.unique own other first second opened opened' equal

theorem Opens.works (sound : libc.FilesSound) (works : libc.AliasesWork)
    (allocated : libc.fds.posixFdAllocate = some (fd, fds))
    (closed : ∀ number, answers.opened = some number →
      libc.served { directory := flags.directory, number } = none)
    (opens : libc.Opens fd fds fullPath flags answers next) : next.AliasesWork := by
  have later := opens.sound sound allocated
  rw [later.aliasesWork_iff]
  rw [sound.aliasesWork_iff] at works
  cases opens with
  | refused same =>
    subst same
    exact fun own file opened => ⟨(works own file opened).served, (works own file opened).path⟩
  | @notTruncated number opened same =>
    subst same
    exact fun own file own_opened =>
      (works own file own_opened).of_opened (closed number opened) rfl rfl
  | @opened number opened same =>
    subst same
    intro own file own_opened
    by_cases same : own = fd
    · rw [same] at own_opened ⊢
      have equal := (update_self (f := libc.openFile) fd _).symm.trans own_opened
      cases Option.some.inj equal
      exact ⟨update_self _ _ _, update_self _ _ _⟩
    · have before : libc.openFile own = some file :=
        (update_of_ne same _ _).symm.trans own_opened
      exact (works own file before).of_opened (closed number opened) rfl (update_of_ne same _ _)

/-! ### Closing -/

theorem fileClose_sound (closes : Bool) (sound : libc.FilesSound) :
    (libc.fileClose fd closes).2.FilesSound := by
  have before {own : Fin maxFds} {file : OpenFile}
      (opened : update libc.openFile fd none own = some file) :
      own ≠ fd ∧ libc.openFile own = some file := by
    have different : own ≠ fd := by
      rintro rfl
      exact nomatch (update_self _ _ _).symm.trans opened
    exact ⟨different, (update_of_ne different _ _).symm.trans opened⟩
  refine ⟨sound.entries.deallocate fd, ?_, ?_, ?_, ?_⟩
  · intro own file opened
    obtain ⟨different, opened⟩ := before opened
    exact (update_of_ne different _ _).trans (sound.mapped own file opened)
  · intro own closed
    show update libc.fdPath fd [] own = []
    have closed : update libc.openFile fd none own = none := closed
    by_cases same : own = fd
    · rw [same, update_self]
    · rw [update_of_ne same] at closed ⊢
      exact sound.unused own closed
  · exact fun own file opened => sound.fresh own file (before opened).2
  · exact fun own other file another opened opened' =>
      sound.unique own other file another (before opened).2 (before opened').2

theorem served_fileClose (sound : libc.FilesSound) (opened : libc.openFile fd = some file)
    (closes : Bool) :
    (libc.fileClose fd closes).2.served =
      if closes then update libc.served file.serverFd none else libc.served := by
  unfold fileClose
  rw [sound.serverFd_eq opened]

theorem fileClose_works_iff (sound : libc.FilesSound) (works : libc.AliasesWork)
    (opened : libc.openFile fd = some file) :
    (libc.fileClose fd closes).2.AliasesWork ↔ (closes = true → libc.OnlyDescriptor fd) := by
  rw [(fileClose_sound closes sound).aliasesWork_iff]
  rw [sound.aliasesWork_iff] at works
  have served := served_fileClose sound opened closes
  constructor
  · rintro still rfl own same other different alias_
    cases opened.symm.trans same
    have after : (libc.fileClose fd true).2.openFile other = some file :=
      (update_of_ne different _ _).trans alias_
    have gone := (still other file after).served
    rw [served, if_pos rfl, update_self] at gone
    cases gone
  · intro only other another after
    have different : other ≠ fd := by
      rintro rfl
      exact nomatch (update_self _ _ _).symm.trans after
    have before : libc.openFile other = some another :=
      (update_of_ne different _ _).symm.trans after
    have own := works other another before
    refine ⟨?_, (update_of_ne different _ _).trans own.path⟩
    rw [served]
    split
    · rename_i closed
      -- an alias would have the same descriptor of the file server, and so the same opening
      have apart : another.serverFd ≠ file.serverFd := by
        intro same
        have openings := (works fd file opened).served.symm.trans (same ▸ own.served)
        have equal := sound.unique fd other file another opened before (Option.some.inj openings)
        exact only closed file opened other different (equal ▸ before)
      rw [update_of_ne apart]
      exact own.served
    · exact own.served

theorem OnlyDescriptor.of_none (unused : libc.openFile fd = none) : libc.OnlyDescriptor fd :=
  fun _ opened => nomatch unused.symm.trans opened

theorem closeEntry_files (sound : libc.FilesSound)
    (closed : libc.closeEntry fd result closes = some (answer, next)) :
    next.FilesSound ∧ (∀ other, other ≠ fd → next.openFile other = libc.openFile other) ∧
      (libc.AliasesWork → (next.AliasesWork ↔ (closes = true → libc.OnlyDescriptor fd))) := by
  rcases closeEntry_cases closed with ⟨functions, closed⟩ | ⟨functions, rfl⟩
  · have kept := sockClose_files functions closed
    have unused : libc.openFile fd = none :=
      sound.entries.none_of_functions (by rw [functions]; exact (nomatch ·))
    have same : next.openFile = libc.openFile := congrArg (fun tables => tables.2.2.2.2) kept.tables
    refine ⟨kept.sound sound, fun other _ => by rw [same], fun works => ?_⟩
    rw [kept.works_iff sound]
    exact iff_of_true works fun _ => .of_none unused
  · obtain ⟨file, opened⟩ := sound.entries.some_of_functions functions
    exact ⟨fileClose_sound closes sound, fun other different => update_of_ne different _ _,
      fun works => fileClose_works_iff sound works opened⟩

theorem Clears.files (sound : libc.FilesSound) (clears : libc.Clears newfd result closes next) :
    next.FilesSound ∧ (∀ other, other ≠ newfd → next.openFile other = libc.openFile other) ∧
      (libc.AliasesWork → (next.AliasesWork ↔ (closes = true → libc.OnlyDescriptor newfd))) := by
  rcases clears with ⟨inactive, rfl⟩ | ⟨_, answer, closed⟩
  · refine ⟨sound, fun _ _ => rfl, fun works => iff_of_true works fun _ => .of_none ?_⟩
    exact sound.entries.none_of_inactive inactive
  · exact closeEntry_files sound closed

/-! ### Duplicating -/

/-- What the new descriptor of a file stands for. -/
def copied (libc : Libc maxFds) (oldfd newfd : Fin maxFds) : Libc maxFds :=
  (fileDup3 { libc with fds := libc.fds.copyEntry oldfd newfd } oldfd newfd).2

theorem openFile_copied {own : Fin maxFds}
    (opened : (libc.copied oldfd newfd).openFile own = some file) :
    own = newfd ∧ libc.openFile oldfd = some file ∨
      own ≠ newfd ∧ libc.openFile own = some file := by
  have opened : update libc.openFile newfd (libc.openFile oldfd) own = some file := opened
  by_cases same : own = newfd
  · rw [same, update_self] at opened
    exact .inl ⟨same, opened⟩
  · rw [update_of_ne same] at opened
    exact .inr ⟨same, opened⟩

theorem copied_sound (sound : libc.FilesSound) (unused : libc.openFile newfd = none) :
    (libc.copied oldfd newfd).FilesSound := by
  have known {own : Fin maxFds} {file : OpenFile}
      (opened : (libc.copied oldfd newfd).openFile own = some file) :
      ∃ other, libc.openFile other = some file := by
    rcases openFile_copied opened with ⟨_, opened⟩ | ⟨_, opened⟩
    · exact ⟨oldfd, opened⟩
    · exact ⟨own, opened⟩
  refine ⟨sound.entries.copyEntry, ?_, ?_, ?_, ?_⟩
  · intro own file opened
    show update libc.fsServerFdMap newfd (libc.fsServerFdMap oldfd) own = some file.serverFd.number
    rcases openFile_copied opened with ⟨rfl, original⟩ | ⟨different, before⟩
    · rw [update_self]
      exact sound.mapped oldfd file original
    · rw [update_of_ne different]
      exact sound.mapped own file before
  · intro own closed
    have closed : update libc.openFile newfd (libc.openFile oldfd) own = none := closed
    by_cases same : own = newfd
    · exact sound.unused own (same ▸ unused)
    · rw [update_of_ne same] at closed
      exact sound.unused own closed
  · intro own file opened
    obtain ⟨other, opened⟩ := known opened
    exact sound.fresh other file opened
  · intro own other file another opened opened'
    obtain ⟨first, opened⟩ := known opened
    obtain ⟨second, opened'⟩ := known opened'
    exact sound.unique first second file another opened opened'

theorem copied_works_iff (sound : libc.FilesSound) (unused : libc.openFile newfd = none) :
    (libc.copied oldfd newfd).AliasesWork ↔
      libc.AliasesWork ∧ ∀ file, libc.openFile oldfd = some file → file.path = [] := by
  rw [(copied_sound sound unused).aliasesWork_iff, sound.aliasesWork_iff]
  constructor
  · intro works
    refine ⟨fun own file opened => ?_, fun file opened => ?_⟩
    · have different : own ≠ newfd := by
        rintro rfl
        exact nomatch unused.symm.trans opened
      have before : (libc.copied oldfd newfd).openFile own = some file :=
        (update_of_ne different _ _).trans opened
      exact ⟨(works own file before).served, (works own file before).path⟩
    · have own : (libc.copied oldfd newfd).openFile newfd = some file :=
        (update_self _ _ _).trans opened
      exact (works newfd file own).path.symm.trans (sound.unused newfd unused)
  · rintro ⟨works, no_path⟩ own file opened
    rcases openFile_copied opened with ⟨rfl, original⟩ | ⟨_, before⟩
    · refine ⟨(works oldfd file original).served, ?_⟩
      exact (sound.unused own unused).trans (no_path file original).symm
    · exact ⟨(works own file before).served, (works own file before).path⟩

theorem dup3Valid_files (sound : libc.FilesSound) (different : oldfd ≠ newfd)
    (duplicated : libc.dup3Valid oldfd newfd result closes = some (answer, next)) :
    next.FilesSound ∧ (libc.AliasesWork → (next.AliasesWork ↔
      (closes = true → libc.OnlyDescriptor newfd) ∧
        ∀ file, libc.openFile oldfd = some file → file.path = [])) := by
  obtain ⟨closed, clears, _, duplicated⟩ := dup3Valid_cases different duplicated
  obtain ⟨sound', others, works_iff⟩ := clears.files sound
  have unused := sound'.entries.none_of_inactive clears.free
  rcases dup3Entry_cases duplicated with ⟨functions, duplicated⟩ | ⟨_, rfl⟩
  · have socket : closed.openFile oldfd = none := by
      refine sound'.entries.none_of_functions ?_
      have same : (closed.fds.copyEntry oldfd newfd).fdTable newfd = closed.fds.fdTable oldfd :=
        copyEntry_self.2
      rw [← same, functions]
      exact (nomatch ·)
    have entered : closed.KeepsFiles { closed with fds := closed.fds.copyEntry oldfd newfd } := by
      refine ⟨fun entries => ?_, rfl⟩
      have copy : EntriesFor (closed.fds.copyEntry oldfd newfd)
          (update closed.openFile newfd (closed.openFile oldfd)) := entries.copyEntry
      rwa [socket, ← unused, update_eq_self] at copy
    have kept := entered.trans (sockDup3_files duplicated)
    refine ⟨kept.sound sound', fun works => ?_⟩
    rw [kept.works_iff sound', works_iff works, iff_self_and]
    intro _ file opened
    rw [← others oldfd different, socket] at opened
    cases opened
  · refine ⟨copied_sound sound' unused, fun works => ?_⟩
    rw [← works_iff works, ← others oldfd different]
    exact copied_works_iff sound' unused

/-! ### Which calls keep the aliases apart -/

theorem KeepsAliases.of_leaves (leaves : LeavesFiles call) : libc.KeepsAliases call := by
  refine ⟨?_, ?_⟩
  · rintro number result fd rfl
    exact leaves.elim
  · rintro oldfd result closes old new rfl
    exact leaves.elim

theorem step_files (sound : libc.FilesSound) (step : SyscallStep libc call next) : next.FilesSound ∧
      (libc.AliasesWork → (next.AliasesWork ↔ libc.KeepsAliases call)) := by
  obtain ⟨enabled, answer, performed⟩ := step
  have other (kept : libc.KeepsFiles next) (leaves : libc.KeepsAliases call) : next.FilesSound ∧
      (libc.AliasesWork → (next.AliasesWork ↔ libc.KeepsAliases call)) :=
    ⟨kept.sound sound, fun works => iff_of_true ((kept.works_iff sound).mpr works) leaves⟩
  cases call with
  | openat dirfd path flags answers =>
    have leaves : libc.KeepsAliases (.openat dirfd path flags answers) :=
      ⟨fun _ _ _ => (nomatch ·), fun _ _ _ _ _ => (nomatch ·)⟩
    rcases sysOpenat_cases performed with rfl | ⟨fd, fds, fullPath, _, allocated, opens⟩
    · exact other (.refl next) leaves
    · refine ⟨opens.sound sound allocated, fun works => iff_of_true ?_ leaves⟩
      exact opens.works sound works allocated enabled
  | close number result closes =>
    cases found : libc.fds.posixFdEntry number with
    | none =>
      rcases sysClose_cases performed with rfl | ⟨fd, active, _⟩
      · refine other (.refl next) ⟨fun _ _ fd same active => ?_, fun _ _ _ _ _ => (nomatch ·)⟩
        cases same
        exact nomatch found.symm.trans active
      · exact nomatch found.symm.trans active
    | some fd =>
      have closed := (sysClose_of_active found).symm.trans performed
      obtain ⟨sound', _, works_iff⟩ := closeEntry_files sound closed
      refine ⟨sound', fun works => (works_iff works).trans ⟨fun only => ⟨?_, ?_⟩, fun keeps => ?_⟩⟩
      · rintro _ _ own ⟨⟩ active
        cases found.symm.trans active
        exact only rfl
      · exact fun _ _ _ _ _ => (nomatch ·)
      · rintro rfl
        exact keeps.close number result fd rfl found
  | dup3 oldfd newfd validFlags result closes =>
    by_cases valid : ∃ old new : Fin maxFds, validFlags = true ∧
        libc.fds.posixFdEntry oldfd = some old ∧ (new.val : Int) = newfd ∧ old ≠ new
    · obtain ⟨old, new, rfl, found, rfl, different⟩ := valid
      have duplicated := (sysDup3_of_valid found different).symm.trans performed
      obtain ⟨sound', works_iff⟩ := dup3Valid_files sound different duplicated
      refine ⟨sound', fun works => (works_iff works).trans ⟨fun copies => ⟨?_, ?_⟩, fun keeps => ?_⟩⟩
      · exact fun _ _ _ => (nomatch ·)
      · intro _ _ _ own target same active _
        injection same with numbers targets _ _ closing
        cases numbers
        cases found.symm.trans active
        cases Fin.ext (Int.ofNat_inj.mp targets)
        exact closing ▸ copies
      · exact keeps.dup3 oldfd result closes old new rfl found different
    · rcases sysDup3_cases performed with rfl | ⟨old, new, flags, found, target, different, _⟩
      · refine other (.refl next) ⟨fun _ _ _ => (nomatch ·), fun _ _ _ old new same found ne => ?_⟩
        cases same
        exact (valid ⟨old, new, rfl, found, rfl, ne⟩).elim
      · exact (valid ⟨old, new, flags, found, target, different⟩).elim
  | _ => exact other (perform_files performed trivial) (.of_leaves trivial)

theorem initial_files : (initial : Libc maxFds).FilesSound where
  entries fd := by
    show (FdTable.initial.fdTable fd).functions ≠ .file
    unfold FdTable.initial
    dsimp only
    split <;> exact (nomatch ·)
  mapped _ _ := (nomatch ·)
  unused _ _ := rfl
  fresh _ _ := (nomatch ·)
  unique _ _ _ _ := (nomatch ·)

end Libc

/-- The flags and answers of an open for reading that succeeds. -/
def readFlags : OpenFlags where
  directory := false
  creat := false
  excl := false
  wronly := false
  rdwr := false
  trunc := false
  nonblock := false

def readAnswers : OpenAnswers where
  buffer := true
  stat _ := none
  opened := some 0
  truncated := true

end LionsOS.Posix

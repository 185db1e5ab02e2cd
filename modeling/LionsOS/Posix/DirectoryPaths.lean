/-
This file is about the paths that descriptors stand for when relative paths start from
them. `resolve_path` looks at the table of paths only, and not at whether a descriptor
is an open directory; for a descriptor without a path, a console's or a duplicate's, it
gives a path that is not absolute.
-/

import LionsOS.Posix.FileAliases
import LionsOS.Posix.ResolvedPaths

open Function

namespace LionsOS.Posix

open CStrings Sock StepRun List

/-! ### How paths are joined -/

/-- What a path names below a directory: the path `.` adds nothing. -/
def named (path : List UInt8T) : List UInt8T :=
  if path = dotPath then [] else path

/-- A path below a directory, with one slash between them. -/
def joinPath (base path : List UInt8T) : List UInt8T :=
  (if base.getLast? = some 0x2f then base else base ++ rootPath) ++ named path

/-- The path of a descriptor, with a slash behind it unless it ends with one or is empty. -/
def slashed (base : List UInt8T) : List UInt8T :=
  if base ≠ [] ∧ base.getLast? ≠ some 0x2f then base ++ rootPath else base

/-- There is room for the path of a descriptor with what is appended to it. -/
def Fits (base path : List UInt8T) (outSize : Nat) : Prop :=
  base.length + 1 < outSize ∧ (path = dotPath ∨ (slashed base).length + path.length < outSize)

section Paths

variable {maxFds : Nat} {fdPath : Fin maxFds → List UInt8T} {base path : List UInt8T} {dirfd : Int}
  {outSize : Nat} {fullPath : List UInt8T}

theorem slashed_append_named (filled : base ≠ []) :
    slashed base ++ named path = joinPath base path := by
  unfold slashed joinPath
  by_cases closed : base.getLast? = some 0x2f
  · rw [if_pos closed, if_neg (fun both => both.2 closed)]
  · rw [if_neg closed, if_pos ⟨filled, closed⟩]

theorem named_of_dot : named dotPath = [] :=
  if_pos rfl

theorem named_of_ne (different : path ≠ dotPath) : named path = path :=
  if_neg different

/-- The end of `resolve_path`, for a relative path. -/
def appendTo (base path : List UInt8T) (outSize : Nat) : Except FileErrno (List UInt8T) :=
  if path = dotPath then .ok base
  else if outSize ≤ base.length + path.length then .error .enametoolong
  else .ok (base ++ path)

theorem appendTo_of_room (room : path = dotPath ∨ base.length + path.length < outSize) :
    appendTo base path outSize = .ok (base ++ named path) := by
  unfold appendTo named
  by_cases dot : path = dotPath
  · rw [if_pos dot, if_pos dot, append_nil]
  · rw [if_neg dot, if_neg dot, if_neg (Nat.not_le.mpr (room.resolve_left dot))]

theorem appendTo_of_full (full : ¬ (path = dotPath ∨ base.length + path.length < outSize)) :
    appendTo base path outSize = .error .enametoolong := by
  obtain ⟨notDot, long⟩ := not_or.mp full
  unfold appendTo
  rw [if_neg notDot, if_pos (Nat.not_lt.mp long)]

theorem resolvePath_of_long (long : outSize ≤ path.length) :
    resolvePath fdPath dirfd (some path) outSize = .error .enametoolong :=
  if_pos (.inl long)

/-- The number is none of a directory, whatever is open. -/
def OutsideTable (maxFds : Nat) (dirfd : Int) : Prop :=
  dirfd ≠ atFdcwd ∧ dirfd ≠ etcFd maxFds ∧ ¬ (0 ≤ dirfd ∧ dirfd.toNat < maxFds)

section Short

variable (short : path.length < outSize) (size : outSize ≤ pathMax)
include short size

theorem resolvePath_of_outside (outside : OutsideTable maxFds dirfd) :
    resolvePath fdPath dirfd (some path) outSize = .error .ebadf := by
  unfold resolvePath
  unfold OutsideTable at outside
  dsimp only
  rw [if_neg (by omega), if_pos outside]

theorem resolvePath_of_absolute (inside : ¬ OutsideTable maxFds dirfd)
    (absolute : path.head? = some 0x2f) :
    resolvePath fdPath dirfd (some path) outSize = .ok path := by
  unfold resolvePath
  unfold OutsideTable at inside
  dsimp only
  rw [if_neg (by omega), if_neg inside, if_pos absolute]

theorem resolvePath_of_relative (inside : ¬ OutsideTable maxFds dirfd)
    (relative : path.head? ≠ some 0x2f) : resolvePath fdPath dirfd (some path) outSize =
      (basePath fdPath dirfd outSize).bind fun base => appendTo base path outSize := by
  unfold resolvePath
  unfold OutsideTable at inside
  dsimp only
  rw [if_neg (by omega), if_neg inside, if_neg relative]
  cases basePath fdPath dirfd outSize <;> rfl

theorem resolvePath_cwd (relative : path.head? ≠ some 0x2f) :
    resolvePath fdPath atFdcwd (some path) outSize = appendTo rootPath path outSize := by
  rw [resolvePath_of_relative short size (fun outside => outside.1 rfl) relative]
  rfl

theorem resolvePath_etc (relative : path.head? ≠ some 0x2f) :
    resolvePath fdPath (etcFd maxFds) (some path) outSize =
      appendTo ((etcPath ++ rootPath).take (outSize - 1)) path outSize := by
  rw [resolvePath_of_relative short size (fun outside => outside.2.1 rfl) relative]
  unfold basePath
  rw [if_pos rfl]
  rfl

/-- For a number in the table, what is computed goes by the path that is stored for it. -/
theorem resolvePath_fd (fd : Fin maxFds) (relative : path.head? ≠ some 0x2f) :
    (Fits (fdPath fd) path outSize → resolvePath fdPath fd.val (some path) outSize =
      .ok (slashed (fdPath fd) ++ named path)) ∧
    (¬ Fits (fdPath fd) path outSize → resolvePath fdPath fd.val (some path) outSize =
      .error .enametoolong) := by
  have inside : (0 : Int) ≤ fd.val ∧ (fd.val : Int).toNat < maxFds :=
    ⟨Int.natCast_nonneg _, fd.isLt⟩
  have notEtc : (fd.val : Int) ≠ etcFd maxFds := by
    unfold etcFd
    omega
  rw [resolvePath_of_relative short size (fun outside => outside.2.2 inside) relative]
  have based : basePath fdPath fd.val outSize =
      if outSize ≤ (fdPath fd).length + 1 then .error .enametoolong
      else .ok (slashed (fdPath fd)) := by
    unfold basePath slashed
    rw [if_neg notEtc, dif_pos inside]
    change (if outSize ≤ (fdPath fd).length + 1 then _
      else if fdPath fd ≠ [] ∧ (fdPath fd).getLast? ≠ some 0x2f then _ else _) = _
    split_ifs <;> rfl
  rw [based]
  by_cases long : outSize ≤ (fdPath fd).length + 1
  · rw [if_pos long]
    exact ⟨fun fits => absurd fits.1 (Nat.not_lt.mpr long), fun _ => rfl⟩
  · rw [if_neg long]
    exact ⟨fun fits => appendTo_of_room fits.2,
      fun full => appendTo_of_full fun room => full ⟨Nat.lt_of_not_le long, room⟩⟩

end Short

theorem resolvePath_eq_ok (resolved : resolvePath fdPath dirfd (some path) outSize = .ok fullPath) :
    fullPath = path ∨ ∃ base, basePath fdPath dirfd outSize = .ok base ∧
      fullPath = base ++ named path := by
  by_cases long : outSize ≤ path.length ∨ pathMax < outSize
  · rw [show resolvePath fdPath dirfd (some path) outSize = _ from if_pos long] at resolved
    cases resolved
  by_cases outside : OutsideTable maxFds dirfd
  · rw [resolvePath_of_outside (by omega) (by omega) outside] at resolved
    cases resolved
  by_cases absolute : path.head? = some 0x2f
  · rw [resolvePath_of_absolute (by omega) (by omega) outside absolute] at resolved
    cases resolved
    exact .inl rfl
  · rw [resolvePath_of_relative (by omega) (by omega) outside absolute] at resolved
    cases based : basePath fdPath dirfd outSize with
    | error error =>
      rw [based] at resolved
      cases resolved
    | ok base =>
      rw [based] at resolved
      change appendTo base path outSize = .ok fullPath at resolved
      refine .inr ⟨base, rfl, ?_⟩
      by_cases room : path = dotPath ∨ base.length + path.length < outSize
      · rw [appendTo_of_room room] at resolved
        cases resolved
        rfl
      · rw [appendTo_of_full room] at resolved
        cases resolved

theorem basePath_noZero (stored : ∀ fd, 0 ∉ fdPath fd)
    (found : basePath fdPath dirfd outSize = .ok base) : 0 ∉ base := by
  have root : (0 : UInt8T) ∉ rootPath := by decide
  have etc : (0 : UInt8T) ∉ etcPath ++ rootPath := by decide
  unfold basePath at found
  split at found
  · cases found
    exact root
  · split at found
    · cases found
      exact fun member => etc (mem_of_mem_take member)
    · split at found
      · dsimp only at found
        split at found
        · cases found
        · split at found
          · cases found
            exact fun member => (mem_append.mp member).elim (stored _) root
          · cases found
            exact stored _
      · cases found

theorem resolvePath_noZero (stored : ∀ fd, 0 ∉ fdPath fd) (noZero : 0 ∉ path)
    (resolved : resolvePath fdPath dirfd (some path) outSize = .ok fullPath) : 0 ∉ fullPath := by
  rcases resolvePath_eq_ok resolved with rfl | ⟨base, found, rfl⟩
  · exact noZero
  · intro member
    rcases mem_append.mp member with inBase | inPath
    · exact basePath_noZero stored found inBase
    · unfold named at inPath
      split_ifs at inPath
      · cases inPath
      · exact noZero inPath

end Paths

/-! ### The table of paths -/

/-- What `fd_path` holds for a path: zeros behind it. -/
def storedPath (path : List UInt8T) : List UInt8T :=
  path ++ replicate (pathMax - path.length) 0

theorem textOf_storedPath {path : List UInt8T} (noZero : 0 ∉ path) (short : path.length < pathMax) :
    textOf (storedPath path) = some path := by
  obtain ⟨zeros, left⟩ : ∃ zeros, pathMax - path.length = zeros + 1 :=
    ⟨pathMax - path.length - 1, by omega⟩
  unfold storedPath
  rw [left]
  exact textOf_append_zero noZero _

namespace Syscall

/-- The path of a call is a text. -/
def PathIsText : Syscall → Prop
  | .openat _ path _ _ => 0 ∉ path
  | _ => True

end Syscall

def TextStep {maxFds : Nat} (libc : Libc maxFds) (call : Syscall) (next : Libc maxFds) : Prop :=
  SyscallStep libc call next ∧ call.PathIsText

namespace Libc

variable {maxFds : Nat} {libc next : Libc maxFds} {answer : SysResult} {fd : Fin maxFds}
  {dirfd : DirFd} {oldfd newfd : Fin maxFds} {result : CloseResult} {path : List UInt8T}
  {closes : Bool}

/-- The table `fd_path`. -/
def storedPaths (libc : Libc maxFds) (fd : Fin maxFds) : List UInt8T :=
  storedPath (libc.fdPath fd)

/-- What the table of paths holds: texts that fit, and for a descriptor the path that its file was
opened with or none. -/
structure PathsSound (libc : Libc maxFds) : Prop where
  text : ∀ fd, 0 ∉ libc.fdPath fd
  short : ∀ fd, (libc.fdPath fd).length < pathMax
  own : ∀ fd file, libc.openFile fd = some file →
    libc.fdPath fd = file.path ∨ libc.fdPath fd = []

/-- A relative path that is resolved is behind a directory's. -/
theorem resolvePath_of_relative (short : path.length < pathMax) (relative : path.head? ≠ some 0x2f)
    {fullPath : List UInt8T} (resolved : libc.resolvePath dirfd path = .ok fullPath) :
    ∃ base, libc.basePath dirfd = .ok base ∧ appendTo base path pathMax = .ok fullPath := by
  unfold resolvePath at resolved
  rw [if_neg (Nat.not_le.mpr short)] at resolved
  split at resolved
  · exact absurd ‹_› relative
  · exact absurd ‹_› relative
  · rename_i dirfd _ _ _ _
    cases based : libc.basePath dirfd with
    | error error =>
      rw [based] at resolved
      cases resolved
    | ok base =>
      rw [based] at resolved
      refine ⟨base, rfl, ?_⟩
      unfold appendTo
      change (if path = dotPath then _
        else if pathMax ≤ base.length + path.length then _ else _) = _ at resolved
      split_ifs at resolved ⊢ with dot
      · cases resolved
        rfl
      · cases resolved
        rfl

theorem resolvePath_number {fullPath : List UInt8T}
    (resolved : libc.resolvePath dirfd path = .ok fullPath) :
    ∃ number, Posix.resolvePath libc.fdPath number (some path) pathMax = .ok fullPath := by
  have short : path.length < pathMax := by
    by_contra long
    unfold resolvePath at resolved
    rw [if_pos (Nat.not_lt.mp long)] at resolved
    cases resolved
  have size : pathMax ≤ pathMax := Nat.le_refl _
  by_cases absolute : path.head? = some 0x2f
  · refine ⟨atFdcwd, ?_⟩
    rw [Posix.resolvePath_of_absolute short size (fun outside => outside.1 rfl) absolute]
    unfold resolvePath at resolved
    rw [if_neg (Nat.not_le.mpr short), absolute] at resolved
    split at resolved
    · split_ifs at resolved
      cases resolved
      rfl
    · cases resolved
      rfl
    · rename_i notAbsolute _
      exact (notAbsolute rfl).elim
  · obtain ⟨base, based, appended⟩ := resolvePath_of_relative short absolute resolved
    cases dirfd with
    | cwd =>
      cases based
      exact ⟨atFdcwd, (resolvePath_cwd short size absolute).trans appended⟩
    | etc =>
      cases based
      exact ⟨etcFd maxFds, (resolvePath_etc short size absolute).trans appended⟩
    | fd number =>
      unfold basePath at based
      dsimp only at based
      split at based
      · rename_i inside
        refine ⟨number, ?_⟩
        have number_eq : number = ((⟨number.toNat, inside.2⟩ : Fin maxFds).val : Int) :=
          (Int.toNat_of_nonneg inside.1).symm
        unfold directoryBase at based
        split at based
        · cases based
        · rename_i room
          have found : slashed (libc.fdPath ⟨number.toNat, inside.2⟩) = base := by
            unfold slashed
            split_ifs at based ⊢ with closed
            · cases based
              rfl
            · cases based
              rfl
          rw [number_eq]
          subst found
          by_cases more : path = dotPath ∨
              (slashed (libc.fdPath ⟨number.toNat, inside.2⟩)).length + path.length < pathMax
          · rw [appendTo_of_room more] at appended
            rw [← appended]
            exact (resolvePath_fd short size _ absolute).1 ⟨Nat.lt_of_not_le room, more⟩
          · rw [appendTo_of_full more] at appended
            cases appended
      · cases based

theorem PathsSound.kept (sound : libc.PathsSound) (paths : next.fdPath = libc.fdPath)
    (files : next.openFile = libc.openFile) : next.PathsSound :=
  ⟨paths ▸ sound.text, paths ▸ sound.short, by
    rw [paths, files]
    exact sound.own⟩

theorem PathsSound.released (sound : libc.PathsSound) {fd : Fin maxFds}
    (paths : next.fdPath = update libc.fdPath fd [])
    (files : next.openFile = update libc.openFile fd none) : next.PathsSound := by
  have each (other : Fin maxFds) : next.fdPath other = [] ∨
      next.fdPath other = libc.fdPath other ∧ next.openFile other = libc.openFile other := by
    rw [paths, files]
    by_cases same : other = fd
    · rw [same, update_self]
      exact .inl rfl
    · rw [update_of_ne same, update_of_ne same]
      exact .inr ⟨rfl, rfl⟩
  refine ⟨fun other => ?_, fun other => ?_, fun other file opened => ?_⟩
  · rcases each other with none | ⟨path, _⟩
    · rw [none]
      exact not_mem_nil
    · rw [path]
      exact sound.text other
  · rcases each other with none | ⟨path, _⟩
    · rw [none]
      exact Nat.zero_lt_succ _
    · rw [path]
      exact sound.short other
  · rcases each other with none | ⟨path, same⟩
    · exact .inr none
    · rw [path]
      exact sound.own other file (same ▸ opened)

/-- A descriptor gets a path, and a file that is opened with it. -/
theorem PathsSound.entered (sound : libc.PathsSound) {file : OpenFile} (text : 0 ∉ file.path)
    (short : file.path.length < pathMax) (paths : next.fdPath = update libc.fdPath fd file.path)
    (files : next.openFile = update libc.openFile fd (some file)) : next.PathsSound := by
  refine ⟨fun other => ?_, fun other => ?_, fun other another opened => ?_⟩
  · rw [paths]
    by_cases same : other = fd
    · rw [same, update_self]
      exact text
    · rw [update_of_ne same]
      exact sound.text other
  · rw [paths]
    by_cases same : other = fd
    · rw [same, update_self]
      exact short
    · rw [update_of_ne same]
      exact sound.short other
  · rw [paths]
    rw [files] at opened
    by_cases same : other = fd
    · rw [same, update_self] at opened ⊢
      cases opened
      exact .inl rfl
    · rw [update_of_ne same] at opened ⊢
      exact sound.own other another opened

theorem KeepsFiles.paths (kept : libc.KeepsFiles next) (sound : libc.PathsSound) :
    next.PathsSound := by
  have tables := kept.tables
  simp only [fileTables, Prod.mk.injEq] at tables
  exact sound.kept tables.2.1 tables.2.2.2.2

theorem closeEntry_paths (sound : libc.PathsSound)
    (closed : libc.closeEntry fd result closes = some (answer, next)) : next.PathsSound := by
  rcases closeEntry_cases closed with ⟨functions, closed⟩ | ⟨_, rfl⟩
  · exact (sockClose_files functions closed).paths sound
  · exact sound.released rfl rfl

theorem fileDup3_paths (sound : libc.PathsSound) (unused : libc.fdPath newfd = []) :
    (libc.fileDup3 oldfd newfd).2.PathsSound := by
  refine ⟨sound.text, sound.short, fun other file opened => ?_⟩
  have opened : update libc.openFile newfd (libc.openFile oldfd) other = some file :=
    opened
  by_cases same : other = newfd
  · rw [same]
    exact .inr unused
  · rw [update_of_ne same] at opened
    exact sound.own other file opened

theorem dup3Valid_paths (files : libc.FilesSound) (sound : libc.PathsSound)
    (different : oldfd ≠ newfd)
    (duplicated : libc.dup3Valid oldfd newfd result closes = some (answer, next)) :
    next.PathsSound := by
  obtain ⟨closed, clears, _, duplicated⟩ := dup3Valid_cases different duplicated
  have files' := (clears.files files).1
  have sound' : closed.PathsSound := by
    rcases clears with ⟨_, rfl⟩ | ⟨_, answer, closing⟩
    · exact sound
    · exact closeEntry_paths sound closing
  have copied : PathsSound { closed with fds := closed.fds.copyEntry oldfd newfd } :=
    sound'.kept rfl rfl
  rcases dup3Entry_cases duplicated with ⟨_, duplicated⟩ | ⟨_, rfl⟩
  · exact (sockDup3_files duplicated).paths copied
  · exact fileDup3_paths copied (files'.unused newfd (files'.entries.none_of_inactive clears.free))

theorem sysOpenat_paths {flags : OpenFlags} {answers : OpenAnswers} (sound : libc.PathsSound)
    (noZero : 0 ∉ path) (opened : libc.sysOpenat dirfd path flags answers = some (answer, next)) :
    next.PathsSound := by
  rcases sysOpenat_cases opened with rfl | ⟨fd, fds, fullPath, resolved, _, opens⟩
  · exact sound
  · obtain ⟨number, resolved⟩ := resolvePath_number resolved
    cases opens with
    | refused same | notTruncated _ same =>
      subst same
      exact sound.kept rfl rfl
    | opened _ same =>
      subst same
      exact sound.entered (resolvePath_noZero sound.text noZero resolved)
        (resolvePath_length_lt resolved) rfl rfl

theorem step_paths {call : Syscall} (files : libc.FilesSound) (sound : libc.PathsSound)
    (step : TextStep libc call next) : next.PathsSound := by
  obtain ⟨⟨_, answer, performed⟩, isText⟩ := step
  cases call with
  | openat => exact sysOpenat_paths sound isText performed
  | close =>
    rcases sysClose_cases performed with rfl | ⟨fd, _, closed⟩
    · exact sound
    · exact closeEntry_paths sound closed
  | dup3 =>
    rcases sysDup3_cases performed with rfl | ⟨old, new, _, _, _, different, duplicated⟩
    · exact sound
    · exact dup3Valid_paths files sound different duplicated
  | _ => exact (perform_files performed trivial).paths sound

theorem initial_paths : (initial : Libc maxFds).PathsSound where
  text _ := not_mem_nil
  short _ := Nat.zero_lt_succ _
  own _ _ _ := .inr rfl

theorem paths_of_run {calls : List Syscall} (run : Run TextStep initial calls libc) :
    libc.FilesSound ∧ libc.PathsSound :=
  run.invariant (fun libc => libc.FilesSound ∧ libc.PathsSound) ⟨initial_files, initial_paths⟩
    fun _ _ _ sound step => ⟨(step_files sound.1 step.1).1, step_paths sound.1 sound.2 step⟩

/-! ### What is promised of paths -/

/-- A descriptor is an open directory. -/
def IsDirectory (libc : Libc maxFds) (fd : Fin maxFds) : Prop :=
  libc.fds.fdActive fd = true ∧ (libc.fds.fdTable fd).functions = .file ∧
    (libc.fds.fdTable fd).directory = true

/-- Relative paths may start from the number. -/
def Usable (libc : Libc maxFds) (dirfd : Int) : Prop :=
  dirfd = atFdcwd ∨ dirfd = etcFd maxFds ∨
    ∃ fd : Fin maxFds, (fd.val : Int) = dirfd ∧ libc.IsDirectory fd

/-- The path of what was opened for the number, be it under another one that it is a duplicate
of. -/
def OpenedWith (libc : Libc maxFds) (dirfd : Int) (base : List UInt8T) : Prop :=
  dirfd = atFdcwd ∧ base = rootPath ∨ dirfd = etcFd maxFds ∧ base = etcPath ∨
    ∃ (fd : Fin maxFds) (file : OpenFile), (fd.val : Int) = dirfd ∧
      libc.openFile fd = some file ∧ file.path = base

/-- What is promised of an outcome of `resolve_path`: it stays within its memory; a path that it
gives is absolute, fits the output, and is the path itself or behind that of the directory; and a
number that is no directory's is refused, if the path is not too long already. -/
structure ResolvesRight (libc : Libc maxFds) (dirfd : Int) (path : List UInt8T) (outSize : Nat)
    (outcome : Option (Except FileErrno (List UInt8T))) : Prop where
  within : outcome.isSome = true
  resolved : ∀ out, outcome = some (.ok out) → ∃ fullPath, textOf out = some fullPath ∧
    fullPath.length < outSize ∧ fullPath.head? = some 0x2f ∧
    (path.head? = some 0x2f → fullPath = path) ∧
    (path.head? ≠ some 0x2f → ∃ base, libc.OpenedWith dirfd base ∧ fullPath = joinPath base path)
  ebadf : path.length < outSize → ¬ libc.Usable dirfd → outcome = some (.error .ebadf)

/-- The number stands for an open directory, if for a place in the table, and a path that is stored
for it is absolute where one is needed; and there is room for `/etc/`. -/
structure Resolvable (libc : Libc maxFds) (dirfd : Int) (path : List UInt8T) (outSize : Nat) :
    Prop where
  directory : ∀ fd : Fin maxFds, (fd.val : Int) = dirfd → libc.IsDirectory fd ∧
    (path.head? = some 0x2f ∨ (libc.fdPath fd).head? = some 0x2f ∨
      ¬ Fits (libc.fdPath fd) path outSize)
  etc : dirfd = etcFd maxFds → named path = [] → 5 < outSize

/-- The same of what is computed of the texts. -/
structure RightResult (libc : Libc maxFds) (dirfd : Int) (path : List UInt8T) (outSize : Nat)
    (result : Except FileErrno (List UInt8T)) : Prop where
  resolved : ∀ fullPath, result = .ok fullPath → fullPath.head? = some 0x2f ∧
    (path.head? = some 0x2f → fullPath = path) ∧
    (path.head? ≠ some 0x2f → ∃ base, libc.OpenedWith dirfd base ∧ fullPath = joinPath base path)
  ebadf : path.length < outSize → ¬ libc.Usable dirfd → result = .error .ebadf

section Promises

variable {dirfd : Int} {base fullPath : List UInt8T} {outSize : Nat} {error : FileErrno}

theorem resolvesRight_iff {outcome : Option (Except FileErrno (List UInt8T))}
    {result : Except FileErrno (List UInt8T)} (outputs : Outputs outSize outcome result)
    (fits : ∀ fullPath, result = .ok fullPath → fullPath.length < outSize) :
    libc.ResolvesRight dirfd path outSize outcome ↔ libc.RightResult dirfd path outSize result := by
  cases result with
  | error error =>
    cases show outcome = some (.error error) from outputs
    constructor
    · intro right
      exact ⟨fun _ same => (nomatch same),
        fun short unusable => Option.some.inj (right.ebadf short unusable)⟩
    · intro right
      exact ⟨rfl, fun _ same => (nomatch same),
        fun short unusable => congrArg some (right.ebadf short unusable)⟩
  | ok fullPath =>
    obtain ⟨out, rfl, holds, _⟩ := outputs
    constructor
    · intro right
      refine ⟨fun fullPath' same => ?_, fun short unusable => ?_⟩
      · cases same
        obtain ⟨fullPath', holds', _, others⟩ := right.resolved out rfl
        cases holds.symm.trans holds'
        exact others
      · exact nomatch right.ebadf short unusable
    · intro right
      refine ⟨rfl, fun out' same => ?_, fun short unusable => ?_⟩
      · cases same
        exact ⟨fullPath, holds, fits fullPath rfl, right.resolved fullPath rfl⟩
      · exact nomatch right.ebadf short unusable

theorem RightResult.of_error (usable : libc.Usable dirfd) :
    libc.RightResult dirfd path outSize (.error error) :=
  ⟨fun _ same => (nomatch same), fun _ unusable => (unusable usable).elim⟩

theorem RightResult.of_absolute (usable : libc.Usable dirfd) (absolute : path.head? = some 0x2f) :
    libc.RightResult dirfd path outSize (.ok path) := by
  refine ⟨fun fullPath same => ?_, fun _ unusable => (unusable usable).elim⟩
  cases same
  exact ⟨absolute, fun _ => rfl, fun relative => (relative absolute).elim⟩

theorem head?_slashed_append (filled : base ≠ []) (path : List UInt8T) :
    (slashed base ++ named path).head? = base.head? := by
  obtain ⟨first, rest, rfl⟩ := exists_cons_of_ne_nil filled
  unfold slashed
  split <;> rfl

theorem head?_slashed_append_ne (stored : base.head? ≠ some 0x2f)
    (relative : path.head? ≠ some 0x2f) : (slashed base ++ named path).head? ≠ some 0x2f := by
  by_cases filled : base = []
  · cases filled
    unfold named
    split
    · exact (nomatch ·)
    · exact relative
  · rwa [head?_slashed_append filled]

section

variable (usable : libc.Usable dirfd) (relative : path.head? ≠ some 0x2f)
  (opened : libc.OpenedWith dirfd base)
include usable relative opened

theorem RightResult.of_joined (absolute : base.head? = some 0x2f) :
    libc.RightResult dirfd path outSize (.ok (slashed base ++ named path)) := by
  have filled : base ≠ [] := by
    rintro rfl
    cases absolute
  refine ⟨fun fullPath same => ?_, fun _ unusable => (unusable usable).elim⟩
  cases same
  refine ⟨(head?_slashed_append filled path).trans absolute, fun other => (relative other).elim,
    fun _ => ⟨base, opened, slashed_append_named filled⟩⟩

theorem RightResult.of_appended (absolute : base.head? = some 0x2f) :
    libc.RightResult dirfd path outSize (appendTo (slashed base) path outSize) := by
  by_cases room : path = dotPath ∨ (slashed base).length + path.length < outSize
  · rw [appendTo_of_room room]
    exact .of_joined usable relative opened absolute
  · rw [appendTo_of_full room]
    exact .of_error usable

end

theorem none_of_named (none : named path = []) : path.head? ≠ some 0x2f := by
  intro absolute
  by_cases dot : path = dotPath
  · cases dot
    cases absolute
  · rw [named_of_ne dot] at none
    cases none
    cases absolute

theorem val_ne_atFdcwd (fd : Fin maxFds) : (fd.val : Int) ≠ atFdcwd := by
  unfold atFdcwd
  omega

theorem val_ne_etcFd (fd : Fin maxFds) : (fd.val : Int) ≠ etcFd maxFds := by
  unfold etcFd
  omega

theorem etcFd_ne_atFdcwd : etcFd maxFds ≠ atFdcwd := by
  unfold etcFd atFdcwd
  omega

theorem openedWith_etc (opened : libc.OpenedWith (etcFd maxFds) base) : base = etcPath := by
  rcases opened with ⟨cwd, _⟩ | ⟨_, same⟩ | ⟨fd, _, number, _⟩
  · exact absurd cwd etcFd_ne_atFdcwd
  · exact same
  · exact absurd number (val_ne_etcFd fd)

theorem isDirectory_of_usable (usable : libc.Usable fd.val) : libc.IsDirectory fd := by
  rcases usable with cwd | etc | ⟨other, number, directory⟩
  · exact absurd cwd (val_ne_atFdcwd fd)
  · exact absurd etc (val_ne_etcFd fd)
  · rwa [Fin.ext (Int.ofNat_inj.mp number)] at directory

section Short

variable (short : path.length < outSize) (size : outSize ≤ pathMax)
include short size

theorem right_cwd : libc.RightResult atFdcwd path outSize
    (Posix.resolvePath libc.fdPath atFdcwd (some path) outSize) := by
  have usable : libc.Usable atFdcwd := .inl rfl
  by_cases absolute : path.head? = some 0x2f
  · rw [resolvePath_of_absolute short size (fun outside => outside.1 rfl) absolute]
    exact .of_absolute usable absolute
  · rw [resolvePath_cwd short size absolute]
    exact .of_appended usable absolute (.inl ⟨rfl, rfl⟩) rfl

theorem right_etc_iff : libc.RightResult (etcFd maxFds) path outSize
      (Posix.resolvePath libc.fdPath (etcFd maxFds) (some path) outSize) ↔
    (named path = [] → 5 < outSize) := by
  have usable : libc.Usable (etcFd maxFds) := .inr (.inl rfl)
  by_cases absolute : path.head? = some 0x2f
  · rw [resolvePath_of_absolute short size (fun outside => outside.2.1 rfl) absolute]
    exact iff_of_true (.of_absolute usable absolute) fun none => (none_of_named none absolute).elim
  rw [resolvePath_etc short size absolute]
  by_cases room : 5 < outSize
  · have whole : (etcPath ++ rootPath).take (outSize - 1) = slashed etcPath := by
      rw [List.take_of_length_le (show (etcPath ++ rootPath).length ≤ outSize - 1 from by
        rw [show (etcPath ++ rootPath).length = 5 from rfl]
        omega)]
      rfl
    rw [whole]
    exact iff_of_true (.of_appended usable absolute (.inr (.inl ⟨rfl, rfl⟩)) rfl) fun _ => room
  -- the output holds at most four characters of `/etc/`
  · have length : ((etcPath ++ rootPath).take (outSize - 1)).length = outSize - 1 := by
      rw [List.length_take, show (etcPath ++ rootPath).length = 5 from rfl]
      omega
    by_cases none : named path = []
    · refine iff_of_false (fun right => ?_) fun enough => room (enough none)
      have fits : path = dotPath ∨
          ((etcPath ++ rootPath).take (outSize - 1)).length + path.length < outSize := by
        by_cases dot : path = dotPath
        · exact .inl dot
        · rw [named_of_ne dot] at none
          rw [none, List.length_nil]
          exact .inr (by omega)
      rw [appendTo_of_room fits] at right
      obtain ⟨base, opened, same⟩ := (right.resolved _ rfl).2.2 absolute
      cases openedWith_etc opened
      have lengths := congrArg List.length same
      unfold joinPath at lengths
      rw [none, List.append_nil, List.append_nil, if_neg (show ¬ etcPath.getLast? = some 0x2f by
        decide), show (etcPath ++ rootPath).length = 5 from rfl] at lengths
      omega
    · refine iff_of_true ?_ fun same => absurd same none
      have full : ¬ (path = dotPath ∨
          ((etcPath ++ rootPath).take (outSize - 1)).length + path.length < outSize) := by
        have notDot : path ≠ dotPath := fun dot => none (dot ▸ named_of_dot)
        rw [named_of_ne notDot] at none
        have some_ := List.length_pos_iff.mpr none
        exact not_or.mpr ⟨notDot, by omega⟩
      rw [appendTo_of_full full]
      exact .of_error usable

/-- A place in the table has to be an open directory's, with a path that is absolute if it is
needed. -/
theorem right_fd_iff (files : libc.FilesSound) (sound : libc.PathsSound) (fd : Fin maxFds) :
    libc.RightResult fd.val path outSize
        (Posix.resolvePath libc.fdPath fd.val (some path) outSize) ↔
      libc.IsDirectory fd ∧ (path.head? = some 0x2f ∨ (libc.fdPath fd).head? = some 0x2f ∨
        ¬ Fits (libc.fdPath fd) path outSize) := by
  have inside : ¬ OutsideTable maxFds fd.val :=
    fun outside => outside.2.2 ⟨Int.natCast_nonneg _, fd.isLt⟩
  have computed (relative : path.head? ≠ some 0x2f) :=
    @resolvePath_fd maxFds libc.fdPath path outSize short size fd relative
  by_cases directory : libc.IsDirectory fd
  · have usable : libc.Usable fd.val := .inr (.inr ⟨fd, rfl, directory⟩)
    by_cases absolute : path.head? = some 0x2f
    · rw [resolvePath_of_absolute short size inside absolute]
      exact iff_of_true (.of_absolute usable absolute) ⟨directory, .inl absolute⟩
    by_cases fits : Fits (libc.fdPath fd) path outSize
    · rw [(computed absolute).1 fits]
      by_cases stored : (libc.fdPath fd).head? = some 0x2f
      · obtain ⟨file, opened⟩ := files.entries.some_of_functions directory.2.1
        have own : file.path = libc.fdPath fd := by
          rcases sound.own fd file opened with same | none
          · exact same.symm
          · rw [none] at stored
            cases stored
        exact iff_of_true
          (.of_joined usable absolute (.inr (.inr ⟨fd, file, rfl, opened, own⟩)) stored)
          ⟨directory, .inr (.inl stored)⟩
      · refine iff_of_false (fun right => ?_) ?_
        · exact head?_slashed_append_ne stored absolute (right.resolved _ rfl).1
        · rintro ⟨_, either⟩
          exact (either.resolve_left absolute).elim stored fun full => full fits
    · rw [(computed absolute).2 fits]
      exact iff_of_true (.of_error usable) ⟨directory, .inr (.inr fits)⟩
  · refine iff_of_false (fun right => ?_) fun both => directory both.1
    have refused := right.ebadf short fun usable => directory (isDirectory_of_usable usable)
    by_cases absolute : path.head? = some 0x2f
    · rw [resolvePath_of_absolute short size inside absolute] at refused
      cases refused
    · by_cases fits : Fits (libc.fdPath fd) path outSize
      · rw [(computed absolute).1 fits] at refused
        cases refused
      · rw [(computed absolute).2 fits] at refused
        cases refused

end Short

end Promises

end Libc

/-- Whatever was opened, duplicated and closed before, `resolve_path` keeps its promises exactly for
the paths that are too long and for those that are resolvable. -/
theorem resolvesRight_iff_resolvable {maxFds : Nat} {libc : Libc maxFds} {calls : List Syscall}
    (run : Run TextStep .initial calls libc) {src path outPath : List UInt8T}
    (isPath : textOf src = some path) {outSize : Nat} (atLeast : 2 ≤ outSize)
    (atMost : outSize ≤ pathMax) (size : outPath.length = outSize) (dirfd : Int) :
    libc.ResolvesRight dirfd path outSize
        (resolvePathInto libc.storedPaths dirfd (some src) outPath outSize) ↔
      outSize ≤ path.length ∨ libc.Resolvable dirfd path outSize := by
  obtain ⟨files, sound⟩ := Libc.paths_of_run run
  have stored (fd : Fin maxFds) : textOf (libc.storedPaths fd) = some (libc.fdPath fd) :=
    textOf_storedPath (sound.text fd) (sound.short fd)
  have outputs := resolvePathInto_outputs stored isPath atLeast size dirfd
  rw [Libc.resolvesRight_iff outputs fun _ => resolvePath_length_lt]
  by_cases long : outSize ≤ path.length
  · rw [resolvePath_of_long long]
    refine iff_of_true ⟨fun _ same => (nomatch same), fun short => ?_⟩ (.inl long)
    exact (Nat.not_lt.mpr long short).elim
  have short := Nat.lt_of_not_le long
  rw [or_iff_right long]
  by_cases outside : OutsideTable maxFds dirfd
  · rw [resolvePath_of_outside short atMost outside]
    refine iff_of_true ⟨fun _ same => (nomatch same), fun _ _ => rfl⟩ ⟨?_, ?_⟩
    · rintro fd rfl
      exact (outside.2.2 ⟨Int.natCast_nonneg _, fd.isLt⟩).elim
    · intro etc
      exact (outside.2.1 etc).elim
  by_cases cwd : dirfd = atFdcwd
  · subst cwd
    refine iff_of_true (Libc.right_cwd short atMost) ⟨?_, ?_⟩
    · intro fd number
      exact (Libc.val_ne_atFdcwd fd number).elim
    · intro etc
      exact (Libc.etcFd_ne_atFdcwd etc.symm).elim
  by_cases etc : dirfd = etcFd maxFds
  · subst etc
    rw [Libc.right_etc_iff short atMost]
    constructor
    · exact fun room => ⟨fun fd number => (Libc.val_ne_etcFd fd number).elim, fun _ => room⟩
    · exact fun resolvable => resolvable.etc rfl
  · obtain ⟨positive, small⟩ : 0 ≤ dirfd ∧ dirfd.toNat < maxFds := by
      by_contra notInside
      exact outside ⟨cwd, etc, notInside⟩
    obtain ⟨number, rfl⟩ := Int.eq_ofNat_of_zero_le positive
    rw [Libc.right_fd_iff short atMost files sound ⟨number, small⟩]
    constructor
    · intro right
      refine ⟨fun fd same => ?_, fun same => absurd same etc⟩
      rwa [show fd = ⟨number, small⟩ from Fin.ext (Int.ofNat_inj.mp same)]
    · exact fun resolvable => resolvable.directory ⟨number, small⟩ rfl

/-- The flags of an open of a directory. -/
def directoryFlags : OpenFlags :=
  { readFlags with directory := true }

/-- The directory `/a` is opened, and the path `b` resolved from it. -/
theorem below_directory : ∃ libc : Libc 128,
    Run TextStep .initial [.openat .cwd [0x61] directoryFlags readAnswers] libc ∧
      libc.ResolvesRight 3 [0x62] pathMax (resolvePathInto libc.storedPaths 3
        (some (literal [0x62])) (replicate pathMax 0) pathMax) := by
  have noZero : (0 : UInt8T) ∉ [0x61] := by decide
  obtain ⟨libc, run, directory, path⟩ : ∃ libc : Libc 128,
      Run TextStep .initial [.openat .cwd [0x61] directoryFlags readAnswers] libc ∧
        libc.IsDirectory 3 ∧ (libc.fdPath 3).head? = some 0x2f :=
    ⟨_, .single ⟨⟨fun _ _ => rfl, _, rfl⟩, noZero⟩, ⟨rfl, rfl, rfl⟩, rfl⟩
  refine ⟨libc, run, (resolvesRight_iff_resolvable run (textOf_literal [0x62] (by decide))
    (by decide) (Nat.le_refl _) length_replicate 3).mpr (.inr ⟨?_, ?_⟩)⟩
  · intro fd number
    cases Fin.ext (Int.ofNat_inj.mp number) (b := (3 : Fin 128))
    exact ⟨directory, .inr (.inl path)⟩
  · intro etc
    exact absurd etc (by decide)

/-- Standard input is no directory. The path `a` is resolved from it to `a`, which is not
absolute. -/
theorem below_console : ∃ out, resolvePathInto (Libc.storedPaths (.initial : Libc 128)) 0
      (some (literal [0x61])) (replicate pathMax 0) pathMax = some (.ok out) ∧
    textOf out = some [0x61] ∧
    ¬ (Libc.initial : Libc 128).Usable 0 ∧
    ¬ Libc.ResolvesRight (.initial : Libc 128) 0 [0x61] pathMax (some (.ok out)) := by
  have stored (fd : Fin 128) : textOf (Libc.storedPaths (.initial : Libc 128) fd) = some [] :=
    textOf_storedPath not_mem_nil (Nat.zero_lt_succ _)
  have outputs : Outputs pathMax _ _ := resolvePathInto_outputs stored
    (textOf_literal [0x61] (by decide)) (by decide) (length_replicate (a := 0)) 0
  obtain ⟨out, computed, holds, _⟩ := outputs
  refine ⟨out, computed, holds, ?_, fun right => ?_⟩
  · rintro (cwd | etc | ⟨fd, number, _, functions, _⟩)
    · exact absurd cwd (by decide)
    · exact absurd etc (by decide)
    · cases Fin.ext (Int.ofNat_inj.mp number) (b := (0 : Fin 128))
      cases functions
  · obtain ⟨fullPath, holds', _, absolute, _⟩ := right.resolved out rfl
    cases holds.symm.trans holds'
    exact absurd absolute (by decide)

end LionsOS.Posix

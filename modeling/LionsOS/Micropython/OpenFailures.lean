/-
This file is about calls of `mp_vfs_fs_file_open` that fail. The path buffer is given
back behind the first command, and once more where the size of the file cannot be
found. The file is closed by a command that overwrites the completion of the one that
has failed, so that its status is lost.
-/

import LionsOS.Micropython.VfsFile

namespace LionsOS.Micropython

open FsClient

open Fs (fsBufferSize fsStatusSuccess)

/-! ### What a call has to leave behind -/

/-- The descriptors that the server has open after a command. -/
def heldAfter (held : List UInt64T) (exchange : FsCommand × Completion) : List UInt64T :=
  if exchange.2.status = fsStatusSuccess then
    match exchange.1 with
    | .fileOpen .. => exchange.2.data :: held
    | .fileClose fd => held.erase fd
    | _ => held
  else held

/-- The descriptors that the server has opened and not closed. -/
def heldOpen (exchanges : List (FsCommand × Completion)) : List UInt64T :=
  exchanges.foldl heldAfter []

/-- The status of the first command that has failed. -/
def firstFailure (exchanges : List (FsCommand × Completion)) : Option UInt64T :=
  (exchanges.find? fun exchange => exchange.2.status ≠ fsStatusSuccess).map fun exchange =>
    exchange.2.status

/-- No assertion has fired, the path buffer was freed once, and if the call raises an error, no file
is left open and the error is the status of the command that has failed. -/
def EndsCleanly {Server : Type} (buffer : Nat) (result : Option (Opened × FsClient Server)) :
    Prop :=
  ∃ opened next, result = some (opened, next) ∧ next.record.freed = [buffer] ∧
    ∀ errno, opened = .raises errno →
      heldOpen next.record.exchanges = [] ∧ firstFailure next.record.exchanges = some errno

section Opening

variable {Server : Type} (env : FileServer Server) (locals : Completion) (fresh : VfsFsFile)
  (client : FsClient Server) (text : Bool) (fname : List UInt8T) (modeIn : List Char)

/-- The command that opens the file. -/
def openIssued (buffer : Nat) (taken : FsClient Server) : Issued Server :=
  let path := cString fname ++ [0]
  (taken.copyTo buffer path).fsCommandBlocking env locals
    (.fileOpen (bufferAt buffer path.length) (OpenMode.parse text modeIn).flags)

/-- The command for the size of a file that was opened. -/
def sizeIssued (opening : Issued Server) (freed : FsClient Server) : Issued Server :=
  freed.fsCommandBlocking env opening.completion (.fileSize opening.completion.data)

/-- The call ends so, if there is a buffer for the path. -/
def OpensCleanly : Prop :=
  ∀ buffer taken, client.start.fsBufferAllocate = some (buffer, taken) →
    EndsCleanly buffer (mpVfsFsFileOpen env locals fresh client.start text (.path fname) modeIn)

/-- The file is truncated, or the open command could not be issued and the file is closed with the
status of the truncation. -/
def Truncates (err : Bool) (fd : UInt64T) (completion : Completion) (client : FsClient Server) :
    Prop :=
  let truncating := client.fsCommandBlocking env completion (.fileTruncate fd 0)
  truncating.completion.status = fsStatusSuccess ∨ err = true ∧
    (closeFile env truncating.completion truncating.client fd).1.status =
      truncating.completion.status

/-- There is an id for the first command, or the local variable reads as success. Of a file that is
opened, the size is found, and it is truncated if the mode says so. -/
def SucceedWith (buffer : Nat) (taken : FsClient Server) : Prop :=
  let opening := openIssued env locals text fname modeIn buffer taken
  (opening.err = true → locals.status = fsStatusSuccess) ∧
  ∀ freed, opening.client.fsBufferFree buffer = some freed →
    opening.completion.status = fsStatusSuccess →
    let sizing := sizeIssued env opening freed
    sizing.completion.status = fsStatusSuccess ∧
      ((OpenMode.parse text modeIn).truncate = true →
        Truncates env opening.err opening.completion.data sizing.completion sizing.client)

def CommandsSucceed : Prop :=
  ∀ buffer taken, client.start.fsBufferAllocate = some (buffer, taken) →
    SucceedWith env locals text fname modeIn buffer taken

end Opening

/-! ### The commands behind the first -/

section Behind

variable {Server : Type} {env : FileServer Server} {client : FsClient Server}
  {completion : Completion} {command : FsCommand}

theorem heldOpen_snoc (exchanges : List (FsCommand × Completion))
    (exchange : FsCommand × Completion) :
    heldOpen (exchanges ++ [exchange]) = heldAfter (heldOpen exchanges) exchange := by
  unfold heldOpen
  rw [List.foldl_append, List.foldl_cons, List.foldl_nil]

/-- A failure that comes behind an earlier one is not the first. -/
theorem firstFailure_snoc (exchanges : List (FsCommand × Completion))
    (exchange : FsCommand × Completion) : firstFailure (exchanges ++ [exchange]) =
      (firstFailure exchanges).or
        (if exchange.2.status = fsStatusSuccess then none else some exchange.2.status) := by
  unfold firstFailure
  by_cases succeeded : exchange.2.status = fsStatusSuccess <;> simp [succeeded]

/-- A command can only fail if it is issued, or if the one before has failed. -/
theorem completed_of_failed
    (failed : (client.fsCommandBlocking env completion command).completion.status ≠
      fsStatusSuccess) (before : completion.status = fsStatusSuccess) :
    FsClient.Completed env client command (client.fsCommandBlocking env completion command) := by
  rcases client.fsCommandBlocking_cases env completion command with same | completed
  · rw [same] at failed
    exact absurd before failed
  · exact completed

theorem fsCommandBlocking_freed :
    (client.fsCommandBlocking env completion command).client.record.freed =
      client.record.freed := by
  rcases client.fsCommandBlocking_cases env completion command with same | completed
  · rw [same]
  · exact completed.freed

theorem fsCommandBlocking_heldOpen
    (keeps : ∀ held reached, heldAfter held (command, reached) = held) :
    heldOpen (client.fsCommandBlocking env completion command).client.record.exchanges =
      heldOpen client.record.exchanges := by
  rcases client.fsCommandBlocking_cases env completion command with same | completed
  · rw [same]
  · rw [completed.exchanges, heldOpen_snoc, keeps]

theorem heldAfter_fileSize {fd : UInt64T} (held : List UInt64T) (reached : Completion) :
    heldAfter held (.fileSize fd, reached) = held := by
  unfold heldAfter
  split_ifs <;> rfl

theorem heldAfter_fileTruncate {fd length : UInt64T} (held : List UInt64T) (reached : Completion) :
    heldAfter held (.fileTruncate fd length, reached) = held := by
  unfold heldAfter
  split_ifs <;> rfl

/-- A command that succeeds, or is not issued behind one that has, is no failure. -/
theorem fsCommandBlocking_firstFailure
    (succeeded : (client.fsCommandBlocking env completion command).completion.status =
      fsStatusSuccess) :
    firstFailure (client.fsCommandBlocking env completion command).client.record.exchanges =
      firstFailure client.record.exchanges := by
  rcases client.fsCommandBlocking_cases env completion command with same | completed
  · rw [same]
  · rw [completed.exchanges, firstFailure_snoc]
    rw [if_pos succeeded, Option.or_none]

/-! ### Closing behind a failure -/

variable {fd : UInt64T}

theorem closeFile_firstFailure {status : UInt64T}
    (failed : firstFailure client.record.exchanges = some status) :
    firstFailure (closeFile env completion client fd).2.record.exchanges = some status := by
  rcases client.fsCommandBlocking_cases env completion (.fileClose fd) with same | completed
  · rw [closeFile, same]
    exact failed
  · show firstFailure (client.fsCommandBlocking env completion _).client.record.exchanges = _
    rw [completed.exchanges, firstFailure_snoc, failed]
    rfl

theorem closeFile_freed :
    (closeFile env completion client fd).2.record.freed = client.record.freed :=
  fsCommandBlocking_freed

theorem closeFile_heldOpen_nil (nothing : heldOpen client.record.exchanges = []) :
    heldOpen (closeFile env completion client fd).2.record.exchanges = [] := by
  rcases client.fsCommandBlocking_cases env completion (.fileClose fd) with same | completed
  · rw [closeFile, same]
    exact nothing
  · show heldOpen (client.fsCommandBlocking env completion _).client.record.exchanges = _
    rw [completed.exchanges, heldOpen_snoc, nothing, heldAfter]
    split_ifs <;> rfl

theorem closeFile_heldOpen (open_ : heldOpen client.record.exchanges = [fd])
    (closed : heldOpen (closeFile env completion client fd).2.record.exchanges = []) :
    (closeFile env completion client fd).1.status = fsStatusSuccess := by
  rcases client.fsCommandBlocking_cases env completion (.fileClose fd) with same | completed
  · rw [closeFile, same, open_] at closed
    cases closed
  · show (client.fsCommandBlocking env completion _).completion.status = _
    have held : heldOpen (client.fsCommandBlocking env completion
        (.fileClose fd)).client.record.exchanges = [] := closed
    rw [completed.exchanges, heldOpen_snoc, open_, heldAfter] at held
    by_contra refused
    rw [if_neg refused] at held
    cases held

/-! ### From the truncation on -/

/-- What is known of a call that has an open file, or that could not ask for one. -/
structure SoFar (err : Bool) (buffer : Nat) (fd : UInt64T) (client : FsClient Server) : Prop where
  freed : client.record.freed = [buffer]
  noFailure : firstFailure client.record.exchanges = none
  held : heldOpen client.record.exchanges = if err then [] else [fd]

variable {err : Bool} {buffer : Nat} {o : VfsFsFile} {mode : OpenMode}

theorem SoFar.endsCleanly (soFar : SoFar err buffer fd client) (o : VfsFsFile) :
    EndsCleanly buffer (some (.returns o, client)) :=
  ⟨_, _, rfl, soFar.freed, fun _ raised => by cases raised⟩

/-- A command keeps what is known, unless it fails. -/
theorem SoFar.issued (soFar : SoFar err buffer fd client)
    (keeps : ∀ held reached, heldAfter held (command, reached) = held)
    (succeeded : (client.fsCommandBlocking env completion command).completion.status =
      fsStatusSuccess) :
    SoFar err buffer fd (client.fsCommandBlocking env completion command).client where
  freed := fsCommandBlocking_freed.trans soFar.freed
  noFailure := (fsCommandBlocking_firstFailure succeeded).trans soFar.noFailure
  held := (fsCommandBlocking_heldOpen keeps).trans soFar.held

/-- A file that is closed because it could not be truncated. -/
theorem SoFar.truncation_failed_iff (soFar : SoFar err buffer fd client)
    (before : completion.status = fsStatusSuccess)
    (failed : (client.fsCommandBlocking env completion
      (.fileTruncate fd 0)).completion.status ≠ fsStatusSuccess) :
    let truncating := client.fsCommandBlocking env completion (.fileTruncate fd 0)
    let closed := closeFile env truncating.completion truncating.client fd
    EndsCleanly buffer (some (.raises closed.1.status, closed.2)) ↔
      err = true ∧ closed.1.status = truncating.completion.status := by
  intro truncating closed
  have completed : FsClient.Completed env client (.fileTruncate fd 0) truncating :=
    completed_of_failed failed before
  have first : firstFailure truncating.client.record.exchanges =
      some truncating.completion.status := by
    rw [completed.exchanges, firstFailure_snoc, soFar.noFailure]
    exact if_neg failed
  have remains : firstFailure closed.2.record.exchanges = some truncating.completion.status :=
    closeFile_firstFailure first
  have held : heldOpen truncating.client.record.exchanges = if err then [] else [fd] :=
    (fsCommandBlocking_heldOpen heldAfter_fileTruncate).trans soFar.held
  constructor
  · rintro ⟨_, _, ⟨⟩, _, raised⟩
    obtain ⟨nothing, status⟩ := raised _ rfl
    have same : truncating.completion.status = closed.1.status :=
      Option.some.inj (remains.symm.trans status)
    cases err with
    | true => exact ⟨rfl, same.symm⟩
    | false =>
      have succeeded : closed.1.status = fsStatusSuccess := closeFile_heldOpen held nothing
      exact absurd (same.trans succeeded) failed
  · rintro ⟨rfl, same⟩
    refine ⟨_, _, rfl, closeFile_freed.trans (fsCommandBlocking_freed.trans soFar.freed), ?_⟩
    rintro _ ⟨⟩
    exact ⟨closeFile_heldOpen_nil held, remains.trans (congrArg some same.symm)⟩

theorem truncateOrAppend_iff (o : VfsFsFile) (soFar : SoFar err buffer o.fd client)
    (before : completion.status = fsStatusSuccess) :
    EndsCleanly buffer (some (truncateOrAppend env mode o completion client)) ↔
      (mode.truncate = true → Truncates env err o.fd completion client) := by
  unfold truncateOrAppend
  by_cases truncates : mode.truncate = true
  · rw [if_pos truncates]
    by_cases truncated : (client.fsCommandBlocking env completion
        (.fileTruncate o.fd 0)).completion.status = fsStatusSuccess
    · rw [if_neg (not_not_intro truncated)]
      exact iff_of_true ((soFar.issued heldAfter_fileTruncate truncated).endsCleanly o)
        fun _ => .inl truncated
    · rw [if_pos truncated]
      exact (soFar.truncation_failed_iff before truncated).trans
        ⟨fun clean _ => .inr clean, fun clean => (clean truncates).resolve_left truncated⟩
  · refine iff_of_true ?_ fun impossible => absurd impossible truncates
    split_ifs
    · exact soFar.endsCleanly _
    · exact soFar.endsCleanly o

theorem SoFar.sizeOpened_iff (soFar : SoFar err buffer o.fd client) :
    EndsCleanly buffer (sizeOpened env mode o buffer completion client) ↔
      let sizing := client.fsCommandBlocking env completion (.fileSize o.fd)
      sizing.completion.status = fsStatusSuccess ∧
        (mode.truncate = true → Truncates env err o.fd sizing.completion sizing.client) := by
  unfold sizeOpened
  by_cases found : (client.fsCommandBlocking env completion
      (.fileSize o.fd)).completion.status = fsStatusSuccess
  · rw [if_neg (not_not_intro found)]
    have sized : SoFar err buffer o.fd
        (client.fsCommandBlocking env completion (.fileSize o.fd)).client :=
      soFar.issued heldAfter_fileSize found
    rw [truncateOrAppend_iff { o with
      size := (client.fsCommandBlocking env completion (.fileSize o.fd)).completion.data } sized
      found]
    exact ⟨fun clean => ⟨found, clean⟩, fun clean => clean.2⟩
  · rw [if_pos found]
    refine iff_of_false ?_ fun clean => found clean.1
    rintro ⟨opened, next, freed, once, _⟩
    obtain ⟨again, freedAgain, same⟩ := Option.map_eq_some_iff.mp freed
    cases same
    rw [fsBufferFree_record freedAgain] at once
    rw [closeFile_freed, fsCommandBlocking_freed, soFar.freed] at once
    cases once

end Behind

section Calls

variable {Server : Type} {env : FileServer Server} {locals : Completion} {fresh : VfsFsFile}
  {client : FsClient Server} {text : Bool} {fname : List UInt8T} {modeIn : List Char}
  {buffer : Nat} {taken : FsClient Server}

theorem openIssued_cases (allocated : client.start.fsBufferAllocate = some (buffer, taken)) :
    let opening := openIssued env locals text fname modeIn buffer taken
    opening.client.record.freed = [] ∧ (∃ freed, opening.client.fsBufferFree buffer = some freed) ∧
      (opening.err = true ∧ opening.completion = locals ∧ opening.client.record.exchanges = [] ∨
        opening.err = false ∧ ∃ path flags, opening.client.record.exchanges =
          [(.fileOpen path flags, opening.completion)]) := by
  obtain ⟨i, small, rfl, rfl⟩ := fsBufferAllocate_eq_some allocated
  have kept : (openIssued env locals text fname modeIn (i * fsBufferSize)
      (client.start.holding i)).client.buffers.used i = true :=
    fsCommandBlocking_kept small (List.mem_singleton_self _) holding_used_self
  refine ⟨fsCommandBlocking_freed, fsBufferFree_of_used small kept, ?_⟩
  rcases ((client.start.holding i).copyTo (i * fsBufferSize)
    (cString fname ++ [0])).fsCommandBlocking_cases env locals (.fileOpen (bufferAt
      (i * fsBufferSize) (cString fname ++ [0]).length) (OpenMode.parse text modeIn).flags)
    with same | completed
  · unfold openIssued
    rw [same]
    exact .inl ⟨rfl, rfl, rfl⟩
  · exact .inr ⟨completed.err, _, _, completed.exchanges⟩

/-- What a call that has a buffer comes to. -/
theorem endsCleanly_iff (allocated : client.start.fsBufferAllocate = some (buffer, taken)) :
    EndsCleanly buffer (mpVfsFsFileOpen env locals fresh client.start text (.path fname) modeIn) ↔
      SucceedWith env locals text fname modeIn buffer taken := by
  obtain ⟨unfreed, ⟨freed, released⟩, reached⟩ :=
    @openIssued_cases _ env locals client text fname modeIn _ _ allocated
  have record := fsBufferFree_record released
  unfold mpVfsFsFileOpen SucceedWith
  rw [allocated]
  dsimp only
  rw [← openIssued, released]
  generalize openIssued env locals text fname modeIn buffer taken = opening at *
  have once : freed.record.freed = [buffer] := by
    rw [record, unfreed]
    rfl
  have exchanges : freed.record.exchanges = opening.client.record.exchanges := by
    rw [record]
  simp only [Option.some.injEq, forall_eq']
  by_cases succeeded : opening.completion.status = fsStatusSuccess
  · rw [if_neg (not_not_intro succeeded)]
    have soFar : SoFar opening.err buffer opening.completion.data freed := by
      rcases reached with ⟨err, _, none⟩ | ⟨err, path, flags, asked⟩
      · refine ⟨once, ?_, ?_⟩ <;> rw [exchanges, none]
        · rfl
        · rw [err]
          rfl
      · refine ⟨once, ?_, ?_⟩ <;> rw [exchanges, asked]
        · simp [firstFailure, succeeded]
        · rw [err]
          simp [heldOpen, heldAfter, succeeded]
    have issued : opening.err = true → locals.status = fsStatusSuccess := by
      rcases reached with ⟨_, same, _⟩ | ⟨err, _⟩
      · exact fun _ => same ▸ succeeded
      · exact fun impossible => absurd (err.symm.trans impossible) Bool.false_ne_true
    rw [SoFar.sizeOpened_iff (o := ⟨_, opening.completion.data, _, _⟩) soFar]
    exact ⟨fun clean => ⟨issued, fun _ => clean⟩, fun clean => clean.2 succeeded⟩
  · rw [if_pos succeeded]
    rcases reached with ⟨err, same, none⟩ | ⟨err, path, flags, asked⟩
    · refine iff_of_false ?_ fun clean => succeeded (same ▸ clean.1 err)
      rintro ⟨_, _, ⟨⟩, _, raised⟩
      obtain ⟨_, status⟩ := raised _ rfl
      rw [exchanges, none] at status
      cases status
    · refine iff_of_true ⟨_, _, rfl, once, ?_⟩ ⟨fun impossible => ?_, fun impossible => ?_⟩
      · rintro _ ⟨⟩
        rw [exchanges, asked]
        refine ⟨?_, ?_⟩
        · simp [heldOpen, heldAfter, succeeded]
        · simp [firstFailure, succeeded]
      · exact absurd (err.symm.trans impossible) Bool.false_ne_true
      · exact absurd impossible succeeded

/-- However the commands of a call come out, the call ends cleanly exactly if those that are issued
behind the first one succeed, and the first one is issued or taken for one that succeeds. -/
theorem opensCleanly_iff : OpensCleanly env locals fresh client text fname modeIn ↔
    CommandsSucceed env locals client text fname modeIn := by
  refine forall_congr' fun buffer => forall_congr' fun taken => forall_congr' fun allocated => ?_
  exact endsCleanly_iff allocated

end Calls

/-- A file server that opens every file and does not find the size of any. -/
def sizeless : FileServer Unit where
  clientShareSize := 0x4000000
  available _ := true
  answer command buffers _ :=
    { completion :=
        match command with
        | .fileOpen .. => ⟨fsStatusSuccess, 3⟩
        | .fileClose _ => ⟨fsStatusSuccess, 0⟩
        | _ => ⟨Fs.fsStatusError, 0⟩
      buffers
      server := ()
      accessed := [] }
  allowed _ _ _ _ member := by cases member
  read _ _ _ _ _ succeeded := by cases succeeded
  kept _ _ _ _ _ used := used

/-- The buffer of the path is freed a second time when it is in use no more. -/
theorem size_failure_frees_twice :
    ¬ OpensCleanly sizeless ⟨0, 0⟩ ⟨true, 0, 0, 0⟩ .unused true [0x61] ['r'] := by
  intro clean
  obtain ⟨⟨buffer, taken⟩, allocated⟩ := Option.isSome_iff_exists.mp
    (fsBufferAllocate_isSome (show 0 < Fs.numBuffers by decide)
      (rfl : unused.start.buffers.used 0 = false))
  obtain ⟨_, ⟨freed, released⟩, _⟩ :=
    @openIssued_cases _ sizeless ⟨0, 0⟩ _ true [0x61] ['r'] _ _ allocated
  have sized := ((endsCleanly_iff allocated).mp (clean _ _ allocated)).2 freed released rfl
  cases sized.1

end LionsOS.Micropython

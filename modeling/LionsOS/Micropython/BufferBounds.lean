/-
This file is about where MicroPython's calls on files access the share. A call takes one
buffer, but the size that it puts into the command and copies is the one that the program
has asked for; a file server only compares it with the end of the share. Files that are
awaited, of `modfs_raw.c`, are read without a look at the status.
-/

import LionsOS.Micropython.VfsFile

namespace LionsOS.Micropython

open Bytes FsClient
open Fs (FsBuffer fsBufferSize fsGetClientBuffer fsStatusSuccess)
open Fs.BufferPool (rangeOf)

variable {fd offset : UInt64T} {shareSize : UInt64T} {fname : List UInt8T} {modeIn : List Char}
  {path : List UInt8T} {buf : List UInt8T} {mode : OpenMode} {nbyte : UInt64T} {stale : Bool}
  {text : Bool}

/-! ### Files that are awaited -/

section Raw

variable {Server : Type} (env : FileServer Server) (client : FsClient Server)

/-- The path is copied without its zero. `none` where the call raises an error. -/
def requestOpen (path : List UInt8T) : Option (FsBuffer × FsClient Server) :=
  if env.available client.server then
    client.fsBufferAllocate.map fun (pathBuffer, taken) =>
      let bytes := cString path
      (bufferAt pathBuffer bytes.length, taken.copyTo pathBuffer bytes)
  else none

def completeOpen (path : FsBuffer) (completion : Completion) :
    Option (Except UInt64T UInt64T × FsClient Server) :=
  (client.fsBufferFree path.offset.toNat).map fun freed =>
    if completion.status ≠ fsStatusSuccess then (.error completion.status, freed)
    else (.ok completion.data, freed)

/-- `open` of `fs_async.py`. -/
def asyncOpen (path : List UInt8T) : Option (Except UInt64T UInt64T × FsClient Server) :=
  match requestOpen env client path with
  | none => some (.error 1, client)
  | some (pathBuffer, issued) =>
    let awaited := issued.exchange env (.fileOpen pathBuffer fsOpenFlagsReadOnly)
    completeOpen awaited.2 pathBuffer awaited.1

/-- No buffer is returned where the call raises an error, and nothing when an assertion fires. -/
def requestPread (nbyte : UInt64T) : Option (Option FsBuffer × FsClient Server) :=
  match client.fsBufferAllocate with
  | none => some (none, client)
  | some (readBuffer, taken) =>
    if env.available taken.server then
      some (some { offset := BitVec.ofNat 64 readBuffer, size := nbyte }, taken)
    else (taken.fsBufferFree readBuffer).map fun freed => (none, freed)

/-- The status is not looked at. -/
def completePread (buf : FsBuffer) (completion : Completion) :
    Option (List UInt8T × FsClient Server) :=
  let copied := client.copyFrom buf.offset.toNat completion.data.toNat
  (copied.2.fsBufferFree buf.offset.toNat).map fun freed => (copied.1, freed)

/-- `pread` of `fs_async.py`. -/
def asyncPread (fd nbyte offset : UInt64T) :
    Option (Except UInt64T (List UInt8T) × FsClient Server) :=
  match requestPread env client nbyte with
  | none => none
  | some (none, next) => some (.error 1, next)
  | some (some buf, issued) =>
    let awaited := issued.exchange env (.fileRead fd offset buf)
    (completePread awaited.2 buf awaited.1).map fun (bytes, freed) => (.ok bytes, freed)

end Raw

/-! ### Accesses of a call -/

inductive FileCall where
  /-- Also what `readinto` comes to. -/
  | reads (o : VfsFsFile) (size : UInt64T)
  | writes (o : VfsFsFile) (buf : List UInt8T)
  | opens (text : Bool) (fname : List UInt8T) (modeIn : List Char)
  | asyncOpens (path : List UInt8T)
  | preads (fd nbyte offset : UInt64T)

open FileCall

section Calls

variable {Server : Type} (env : FileServer Server) (locals : Completion) (fresh : VfsFsFile)

/-- `none` when an assertion fires. -/
def FileCall.perform (client : FsClient Server) : FileCall → Option (FsClient Server)
  | .reads o size => (vfsFsFileRead env locals client o size).map fun (_, _, _, next) => next
  | .writes o buf => (vfsFsFileWrite env locals client o buf).map fun (_, _, next) => next
  | .opens text fname modeIn =>
    (mpVfsFsFileOpen env locals fresh client text (.path fname) modeIn).map fun (_, next) => next
  | .asyncOpens path => (asyncOpen env client path).map fun (_, next) => next
  | .preads fd nbyte offset => (asyncPread env client fd nbyte offset).map fun (_, next) => next

/-- The completion of a read that has failed has no length in it. -/
def ClearsFailed : Prop :=
  ∀ fd offset buf buffers server,
    (env.answer (.fileRead fd offset buf) buffers server).completion.status ≠ fsStatusSuccess →
    (env.answer (.fileRead fd offset buf) buffers server).completion.data = 0

end Calls

/-- Whatever a file server does that behaves as file servers do, all bytes of the share that are
accessed for a call lie in the buffer that the call was given. If `clears`, the server is one that
clears what a failed read returns. -/
def StaysInside {Server : Type} (clears : Prop) (shareSize : UInt64T) (locals : Completion)
    (fresh : VfsFsFile) (client : FsClient Server) (call : FileCall) : Prop :=
  ∀ env : FileServer Server, env.clientShareSize = shareSize → (clears → ClearsFailed env) →
    ∀ next, call.perform env locals fresh client.start = some next →
      ∀ range ∈ next.record.accessed, ∃ buffer taken,
        client.start.fsBufferAllocate = some (buffer, taken) ∧ range ⊆ rangeOf buffer

/-- A read of that size from a buffer on stays in the buffer, or is refused by the server. -/
def ReadFits (shareSize : UInt64T) (buffer : Nat) (size : UInt64T) : Prop :=
  size.toNat ≤ fsBufferSize ∨ shareSize.toNat < buffer + size.toNat

/-- The sizes that a call may be given. -/
def FileCall.Fits (clears : Prop) (shareSize : UInt64T) (buffer : Nat) : FileCall → Prop
  | .reads _ size => ReadFits shareSize buffer size
  | .writes _ buf => buf.length ≤ fsBufferSize
  | .opens _ fname _ => (cString fname).length < fsBufferSize
  | .asyncOpens path => (cString path).length ≤ fsBufferSize
  | .preads _ nbyte _ => clears ∧ ReadFits shareSize buffer nbyte

/-! ### What is inside -/

/-- All accesses so far lie in a buffer. -/
def Inside {Server : Type} (buffer : Nat) (client : FsClient Server) : Prop :=
  ∀ range ∈ client.record.accessed, range ⊆ rangeOf buffer

/-- A server that accepts a buffer may access that of a call only. -/
def Named (shareSize : UInt64T) (buffer : Nat) (buf : FsBuffer) : Prop :=
  (fsGetClientBuffer shareSize buf).isSome → buf.range ⊆ rangeOf buffer

theorem subset_rangeOf_iff {buffer length : Nat} :
    (⟨buffer, length⟩ : Range) ⊆ rangeOf buffer ↔ length ≤ fsBufferSize := by
  constructor
  · intro inside
    by_contra longer
    have last := inside (buffer + fsBufferSize) ⟨by simp, by simpa using longer⟩
    exact absurd last.2 (lt_irrefl _)
  · exact fun fits address within => ⟨within.1, within.2.trans_le (Nat.add_le_add_left fits _)⟩

section Parts

variable {Server : Type} {env : FileServer Server} {client next : FsClient Server}
  {buffer i length : Nat} {command : FsCommand} {completion : Completion} {size : UInt64T}

theorem inside_access (inside : Inside buffer client) (fits : length ≤ fsBufferSize) :
    Inside buffer (client.access ⟨buffer, length⟩) := by
  rintro range accessed
  rcases List.mem_append.mp accessed with before | now
  · exact inside range before
  · cases List.mem_singleton.mp now
    exact subset_rangeOf_iff.mpr fits

section

variable (inside : Inside buffer client)
include inside

theorem inside_copyTo {bytes : List UInt8T} (fits : bytes.length ≤ fsBufferSize) :
    Inside buffer (client.copyTo buffer bytes) :=
  @inside_access _ { client with buffers := (client.copyTo buffer bytes).buffers } _ _ inside fits

theorem inside_freed (freed : client.fsBufferFree buffer = some next) : Inside buffer next := by
  rw [Inside, fsBufferFree_record freed]
  exact inside_access inside (le_refl _)

theorem inside_exchange (named : ∀ buf ∈ command.buffers, Named env.clientShareSize buffer buf) :
    Inside buffer (client.exchange env command).2 := by
  rintro range accessed
  rcases List.mem_append.mp accessed with before | now
  · exact inside range before
  · obtain ⟨buf, member, checked, within⟩ := env.allowed command _ _ range now
    exact fun address touched => named buf member checked address (within address touched)

theorem inside_issued (named : ∀ buf ∈ command.buffers, Named env.clientShareSize buffer buf) :
    Inside buffer (client.fsCommandBlocking env completion command).client := by
  unfold fsCommandBlocking
  split_ifs
  · exact inside_exchange inside named
  · exact inside

end

section

variable (small : i < Fs.numBuffers)
include small

theorem range_of_start :
    FsBuffer.range { offset := BitVec.ofNat 64 (i * fsBufferSize), size } =
      ⟨i * fsBufferSize, size.toNat⟩ :=
  congrArg (Range.mk · size.toNat) (toNat_bufferAt_offset small size.toNat)

theorem named_iff_length :
    Named shareSize (i * fsBufferSize) { offset := BitVec.ofNat 64 (i * fsBufferSize), size } ↔
      ((fsGetClientBuffer shareSize { offset := BitVec.ofNat 64 (i * fsBufferSize), size }).isSome →
          size.toNat ≤ fsBufferSize) := by
  rw [Named, range_of_start small, subset_rangeOf_iff]

theorem named_iff :
    Named shareSize (i * fsBufferSize) { offset := BitVec.ofNat 64 (i * fsBufferSize), size } ↔
      ReadFits shareSize (i * fsBufferSize) size := by
  have start := toNat_bufferAt_offset small size.toNat
  have accepted : (fsGetClientBuffer shareSize
      { offset := BitVec.ofNat 64 (i * fsBufferSize), size }).isSome ↔
      0 < size.toNat ∧ i * fsBufferSize + size.toNat ≤ shareSize.toNat := by
    rw [Option.isSome_iff_exists]
    simp only [Fs.fsGetClientBuffer_eq_some]
    rw [show (BitVec.ofNat 64 (i * fsBufferSize)).toNat = i * fsBufferSize from start]
    exact ⟨fun ⟨_, _, right⟩ => right, fun right => ⟨_, rfl, right⟩⟩
  rw [named_iff_length small, accepted, ReadFits]
  omega

theorem length_read (fits : ReadFits env.clientShareSize (i * fsBufferSize) size)
    (succeeded : (client.exchange env (.fileRead fd offset
      { offset := BitVec.ofNat 64 (i * fsBufferSize), size })).1.status = fsStatusSuccess) :
    (client.exchange env (.fileRead fd offset
      { offset := BitVec.ofNat 64 (i * fsBufferSize), size })).1.data.toNat ≤ fsBufferSize := by
  obtain ⟨within, checked⟩ := env.read fd offset _ _ _ succeeded
  have short := (named_iff_length small).mp ((named_iff small).mpr fits) checked
  exact (BitVec.le_def.mp within).trans short

end

theorem inside_taken (allocated : client.start.fsBufferAllocate = some (buffer, next)) :
    Inside buffer next := by
  obtain ⟨i, _, _, rfl⟩ := fsBufferAllocate_eq_some allocated
  exact fun _ impossible => by cases impossible

theorem named_bytes (small : i < Fs.numBuffers) (fits : length ≤ fsBufferSize) :
    Named env.clientShareSize (i * fsBufferSize) (bufferAt (i * fsBufferSize) length) := by
  refine (named_iff small).mpr (.inl ?_)
  exact (BitVec.toNat_ofNat _ _).trans_le ((Nat.mod_le _ _).trans fits)

end Parts

/-! ### Calls that fit -/

section Fitting

variable {Server : Type} {env : FileServer Server} {locals : Completion} {fresh o : VfsFsFile}
  {client next taken : FsClient Server} {buffer i : Nat} {size : UInt64T}

variable {completion : Completion}

section

variable (small : i < Fs.numBuffers)
  (allocated : client.start.fsBufferAllocate = some (i * fsBufferSize, taken))
include small allocated

theorem inside_read (fits : ReadFits env.clientShareSize (i * fsBufferSize) size)
    (performed : (reads o size).perform env locals fresh client.start = some next) :
    Inside (i * fsBufferSize) next := by
  unfold perform at performed
  obtain ⟨⟨result, bytes, after, last⟩, read, same⟩ := Option.map_eq_some_iff.mp performed
  cases same
  unfold vfsFsFileRead at read
  rw [allocated] at read
  dsimp only at read
  have issued : Inside (i * fsBufferSize) (taken.fsCommandBlocking env locals (.fileRead o.fd o.pos
      { offset := BitVec.ofNat 64 (i * fsBufferSize), size })).client := by
    refine inside_issued (inside_taken allocated) fun buf member => ?_
    cases List.mem_singleton.mp member
    exact (named_iff small).mpr fits
  split_ifs at read with failed
  · obtain ⟨freed, released, same⟩ := Option.map_eq_some_iff.mp read
    cases same
    exact inside_freed issued released
  · obtain ⟨freed, released, same⟩ := Option.map_eq_some_iff.mp read
    cases same
    refine inside_freed (inside_access issued ?_) released
    rw [not_or, not_not] at failed
    unfold fsCommandBlocking at failed ⊢
    by_cases available : env.available taken.server = true
    · rw [if_pos available] at failed ⊢
      exact length_read small fits failed.2
    · rw [if_neg available] at failed
      exact absurd rfl failed.1

theorem inside_write (fits : buf.length ≤ fsBufferSize)
    (performed : (writes o buf).perform env locals fresh client.start = some next) :
    Inside (i * fsBufferSize) next := by
  unfold perform at performed
  obtain ⟨⟨result, after, last⟩, written, same⟩ := Option.map_eq_some_iff.mp performed
  cases same
  unfold vfsFsFileWrite at written
  rw [allocated] at written
  obtain ⟨freed, released, same⟩ := Option.map_eq_some_iff.mp written
  cases same
  refine inside_freed (inside_issued (inside_copyTo (inside_taken allocated) fits) ?_) released
  intro named member
  cases List.mem_singleton.mp member
  exact named_bytes small fits

end

theorem inside_unnamed {command : FsCommand} (inside : Inside buffer client)
    (none : command.buffers = []) :
    Inside buffer (client.fsCommandBlocking env completion command).client := by
  refine inside_issued inside fun buf member => ?_
  rw [none] at member
  cases member

theorem inside_truncateOrAppend (inside : Inside buffer client) :
    Inside buffer (truncateOrAppend env mode o completion client).2 := by
  unfold truncateOrAppend
  dsimp only
  split_ifs
  · exact inside_unnamed (inside_unnamed inside rfl) rfl
  · exact inside_unnamed inside rfl
  · exact inside
  · exact inside

theorem inside_sizeOpened {opened : Opened} (inside : Inside buffer client)
    (sized : sizeOpened env mode o buffer completion client = some (opened, next)) :
    Inside buffer next := by
  have sizing := @inside_unnamed _ env _ _ completion _ inside
    (rfl : (FsCommand.fileSize o.fd).buffers = [])
  unfold sizeOpened at sized
  dsimp only at sized
  split_ifs at sized
  · obtain ⟨freed, released, same⟩ := Option.map_eq_some_iff.mp sized
    cases same
    exact inside_freed (inside_unnamed sizing rfl) released
  · have same := congrArg Prod.snd (Option.some.inj sized)
    rw [← (show _ = next from same)]
    exact inside_truncateOrAppend sizing

section

variable (small : i < Fs.numBuffers)
  (allocated : client.start.fsBufferAllocate = some (i * fsBufferSize, taken))
include small allocated

theorem inside_open (fits : (cString fname).length < fsBufferSize)
    (performed : (opens text fname modeIn).perform env locals fresh client.start = some next) :
    Inside (i * fsBufferSize) next := by
  unfold perform at performed
  obtain ⟨⟨result, last⟩, opened, same⟩ := Option.map_eq_some_iff.mp performed
  cases same
  have pathFits : (cString fname ++ [0]).length ≤ fsBufferSize := by
    rw [List.length_append]
    exact fits
  unfold mpVfsFsFileOpen at opened
  rw [allocated] at opened
  dsimp only at opened
  split at opened
  · cases opened
  · next freed released =>
    have inside : Inside (i * fsBufferSize) freed := by
      refine inside_freed (inside_issued (inside_copyTo (inside_taken allocated) pathFits) ?_)
        released
      intro named member
      cases List.mem_singleton.mp member
      exact named_bytes small pathFits
    split_ifs at opened
    · cases opened
      exact inside
    · exact inside_sizeOpened inside opened

theorem inside_asyncOpen (fits : (cString path).length ≤ fsBufferSize)
    (performed : (asyncOpens path).perform env locals fresh client.start = some next) :
    Inside (i * fsBufferSize) next := by
  obtain ⟨⟨result, last⟩, opened, same⟩ := Option.map_eq_some_iff.mp performed
  cases same
  unfold asyncOpen requestOpen at opened
  rw [allocated] at opened
  split_ifs at opened with available
  · obtain ⟨freed, released, same⟩ := Option.map_eq_some_iff.mp opened
    have inside : Inside (i * fsBufferSize) freed := by
      rw [toNat_bufferAt_offset small] at released
      refine inside_freed (inside_exchange (inside_copyTo (inside_taken allocated) fits) ?_)
        released
      intro named member
      cases List.mem_singleton.mp member
      exact named_bytes small fits
    split_ifs at same <;> cases same <;> exact inside
  · cases opened
    exact fun _ impossible => by cases impossible

theorem inside_pread (clears : ClearsFailed env)
    (fits : ReadFits env.clientShareSize (i * fsBufferSize) nbyte)
    (performed : (preads fd nbyte offset).perform env locals fresh client.start = some next) :
    Inside (i * fsBufferSize) next := by
  unfold perform at performed
  obtain ⟨⟨result, last⟩, read, same⟩ := Option.map_eq_some_iff.mp performed
  cases same
  unfold asyncPread requestPread at read
  rw [allocated] at read
  dsimp only at read
  split_ifs at read with available
  · obtain ⟨⟨bytes, freed⟩, completed, same⟩ := Option.map_eq_some_iff.mp read
    cases same
    obtain ⟨_, released, same⟩ := Option.map_eq_some_iff.mp completed
    cases same
    have start := toNat_bufferAt_offset small nbyte.toNat
    change BitVec.toNat (BitVec.ofNat 64 (i * fsBufferSize)) = i * fsBufferSize at start
    rw [start] at released
    refine inside_freed (inside_access (inside_exchange (inside_taken allocated) ?_) ?_) released
    · intro named member
      cases List.mem_singleton.mp member
      exact (named_iff small).mpr fits
    · by_cases succeeded : (taken.exchange env (.fileRead fd offset
          { offset := BitVec.ofNat 64 (i * fsBufferSize), size := nbyte })).1.status =
          fsStatusSuccess
      · exact length_read small fits succeeded
      · rw [exchange]
        rw [clears _ _ _ _ _ succeeded]
        exact Nat.zero_le _
  · cases released : taken.fsBufferFree (i * fsBufferSize) with
    | none =>
      rw [released] at read
      cases read
    | some freed =>
      rw [released] at read
      cases read
      exact inside_freed (inside_taken allocated) released

end

end Fitting

/-! ### Calls that do not fit -/

/-- How a read ends that may have a length in it though it has failed. -/
def readCompletion (shareSize : UInt64T) (stale : Bool) (buf : FsBuffer) : Completion :=
  if stale then ⟨Fs.fsStatusError, 0x10000⟩
  else if (fsGetClientBuffer shareSize buf).isSome then ⟨fsStatusSuccess, buf.size⟩
  else ⟨Fs.fsStatusError, 0⟩

theorem readCompletion_accepted {buf : FsBuffer}
    (accepted : (fsGetClientBuffer shareSize buf).isSome) :
    readCompletion shareSize false buf = ⟨fsStatusSuccess, buf.size⟩ := by
  rw [readCompletion, if_neg Bool.false_ne_true, if_pos accepted]

/-- A file server that fails all commands but reads. -/
def servedReads {Server : Type} (shareSize : UInt64T) (stale : Bool) : FileServer Server where
  clientShareSize := shareSize
  available _ := true
  answer command buffers server :=
    { completion :=
        match command with
        | .fileRead _ _ buf => readCompletion shareSize stale buf
        | _ => ⟨Fs.fsStatusError, 0⟩
      buffers
      server
      accessed := [] }
  allowed _ _ _ _ member := by cases member
  read fd offset buf buffers server succeeded := by
    dsimp only [readCompletion] at succeeded ⊢
    split_ifs at succeeded ⊢ with isStale checked
    · cases succeeded
    · exact ⟨BitVec.le_refl _, checked⟩
    · cases succeeded
  kept _ _ _ _ _ used := used

theorem servedReads_clears {Server : Type} :
    @ClearsFailed Server (servedReads shareSize false) := by
  intro fd offset buf buffers server failed
  by_cases accepted : (fsGetClientBuffer shareSize buf).isSome
  · exact absurd (congrArg Completion.status (readCompletion_accepted accepted)) failed
  · show (readCompletion shareSize false buf).data = 0
    rw [readCompletion, if_neg Bool.false_ne_true, if_neg accepted]

section Reaching

variable {Server : Type} {locals : Completion} {fresh o : VfsFsFile} {client : FsClient Server}
  {i : Nat} {shareSize size : UInt64T}

/-- Where a buffer is freed at the end, what was accessed before is still on record. -/
theorem freed_reaches {range : Range} (small : i < Fs.numBuffers)
    (used : client.buffers.used i = true) (accessed : range ∈ client.record.accessed) :
    ∃ next, client.fsBufferFree (i * fsBufferSize) = some next ∧ range ∈ next.record.accessed := by
  obtain ⟨next, released⟩ := fsBufferFree_of_used small used
  refine ⟨next, released, ?_⟩
  rw [fsBufferFree_record released]
  exact List.mem_append_left _ accessed

section

variable (small : i < Fs.numBuffers)
  (allocated : client.start.fsBufferAllocate = some (i * fsBufferSize, client.start.holding i))
include small allocated

theorem read_reaches
    (accepted : (fsGetClientBuffer shareSize
      { offset := BitVec.ofNat 64 (i * fsBufferSize), size }).isSome) :
    ∃ next, (reads o size).perform (servedReads shareSize false) locals fresh
      client.start = some next ∧ ⟨i * fsBufferSize, size.toNat⟩ ∈ next.record.accessed := by
  let command : FsCommand :=
    .fileRead o.fd o.pos { offset := BitVec.ofNat 64 (i * fsBufferSize), size }
  let awaited := ((client.start.holding i).exchange (servedReads shareSize false) command).2
  have answered : (client.start.holding i).fsCommandBlocking (servedReads shareSize false) locals
      command = { err := false, completion := ⟨fsStatusSuccess, size⟩, client := awaited } :=
    congrArg (Issued.mk false · awaited) (readCompletion_accepted accepted)
  obtain ⟨next, released, accessed⟩ :=
    @freed_reaches _ (awaited.access ⟨i * fsBufferSize, size.toNat⟩) i _ small
      holding_used_self (List.mem_append_right _ (List.mem_singleton_self _))
  refine ⟨next, ?_, accessed⟩
  unfold perform vfsFsFileRead
  rw [allocated]
  dsimp only
  rw [answered]
  show Option.map _ (Option.map _ ((awaited.access ⟨_, size.toNat⟩).fsBufferFree _)) = _
  rw [released]
  rfl

theorem write_reaches :
    ∃ next, (writes o buf).perform (servedReads shareSize false) locals fresh
      client.start = some next ∧ ⟨i * fsBufferSize, buf.length⟩ ∈ next.record.accessed := by
  let awaited := ((client.start.holding i).copyTo (i * fsBufferSize) buf).fsCommandBlocking
    (servedReads shareSize false) locals
    (.fileWrite o.fd o.pos (bufferAt (i * fsBufferSize) buf.length))
  obtain ⟨next, released, accessed⟩ :=
    @freed_reaches _ awaited.client i ⟨i * fsBufferSize, buf.length⟩ small holding_used_self
      (List.mem_append_left _ (List.mem_append_right _ (List.mem_singleton_self _)))
  refine ⟨next, ?_, accessed⟩
  unfold perform vfsFsFileWrite
  rw [allocated]
  show Option.map _ (Option.map _ (awaited.client.fsBufferFree _)) = _
  rw [released]
  rfl

theorem open_reaches :
    ∃ next, (opens text fname modeIn).perform (servedReads shareSize false) locals fresh
      client.start = some next ∧
        ⟨i * fsBufferSize, (cString fname ++ [0]).length⟩ ∈ next.record.accessed := by
  let path := cString fname ++ [0]
  let awaited := ((client.start.holding i).copyTo (i * fsBufferSize) path).fsCommandBlocking
    (servedReads shareSize false) locals
    (.fileOpen (bufferAt (i * fsBufferSize) path.length) (OpenMode.parse text modeIn).flags)
  obtain ⟨next, released, accessed⟩ :=
    @freed_reaches _ awaited.client i ⟨i * fsBufferSize, path.length⟩ small holding_used_self
      (List.mem_append_left _ (List.mem_append_right _ (List.mem_singleton_self _)))
  refine ⟨next, ?_, accessed⟩
  unfold perform mpVfsFsFileOpen
  rw [allocated]
  dsimp only
  rw [show fsBufferFree _ _ = some next from released]
  rfl

theorem asyncOpen_reaches :
    ∃ next, (asyncOpens path).perform (servedReads shareSize false) locals fresh
      client.start = some next ∧
        ⟨i * fsBufferSize, (cString path).length⟩ ∈ next.record.accessed := by
  let awaited := (((client.start.holding i).copyTo (i * fsBufferSize) (cString path)).exchange
    (servedReads shareSize false)
    (.fileOpen (bufferAt (i * fsBufferSize) (cString path).length) fsOpenFlagsReadOnly)).2
  obtain ⟨next, released, accessed⟩ :=
    @freed_reaches _ awaited i ⟨i * fsBufferSize, (cString path).length⟩ small holding_used_self
      (List.mem_append_left _ (List.mem_append_right _ (List.mem_singleton_self _)))
  refine ⟨next, ?_, accessed⟩
  unfold perform
  unfold asyncOpen requestOpen
  rw [allocated]
  show Option.map _ (Option.map _ (awaited.fsBufferFree (bufferAt _ _).offset.toNat)) = _
  rw [toNat_bufferAt_offset small, released]
  rfl

theorem pread_reaches :
    ∃ next, (preads fd nbyte offset).perform (servedReads shareSize stale) locals fresh
      client.start = some next ∧
        ⟨i * fsBufferSize, (readCompletion shareSize stale
          { offset := BitVec.ofNat 64 (i * fsBufferSize), size := nbyte }).data.toNat⟩ ∈
            next.record.accessed := by
  let buf : FsBuffer := { offset := BitVec.ofNat 64 (i * fsBufferSize), size := nbyte }
  let length := (readCompletion shareSize stale buf).data.toNat
  let awaited :=
    ((client.start.holding i).exchange (servedReads shareSize stale) (.fileRead fd offset buf)).2
  obtain ⟨next, released, accessed⟩ :=
    @freed_reaches _ (awaited.access ⟨i * fsBufferSize, length⟩) i _ small
      holding_used_self (List.mem_append_right _ (List.mem_singleton_self _))
  refine ⟨next, ?_, accessed⟩
  have start : buf.offset.toNat = i * fsBufferSize :=
    toNat_bufferAt_offset small nbyte.toNat
  unfold perform asyncPread requestPread
  rw [allocated]
  show Option.map _ (Option.map _ (Option.map _
    ((awaited.access ⟨buf.offset.toNat, length⟩).fsBufferFree buf.offset.toNat))) = _
  rw [start, released]
  rfl

end

end Reaching

/-! ### The sizes that stay inside -/

section Bounds

variable {Server : Type} {locals : Completion} {fresh : VfsFsFile} {client : FsClient Server}
  {clears : Prop} {shareSize : UInt64T} {call : FileCall}

variable {env : FileServer Server} {next : FsClient Server}

theorem inside_of_fits {taken : FsClient Server} {i : Nat} (small : i < Fs.numBuffers)
    (allocated : client.start.fsBufferAllocate = some (i * fsBufferSize, taken))
    (clearing : clears → ClearsFailed env)
    (fits : call.Fits clears env.clientShareSize (i * fsBufferSize))
    (performed : call.perform env locals fresh client.start = some next) :
    Inside (i * fsBufferSize) next := by
  cases call with
  | reads o size => exact inside_read small allocated fits performed
  | writes o buf => exact inside_write small allocated fits performed
  | opens text fname modeIn => exact inside_open small allocated fits performed
  | asyncOpens path => exact inside_asyncOpen small allocated fits performed
  | preads fd nbyte offset =>
    exact inside_pread small allocated (clearing fits.1) fits.2 performed

theorem nothing_accessed (none : client.start.fsBufferAllocate = none)
    (performed : call.perform env locals fresh client.start = some next) :
    next.record.accessed = [] := by
  unfold perform at performed
  cases call with
  | reads o size =>
    unfold vfsFsFileRead at performed
    rw [none] at performed
    cases performed
    rfl
  | writes o buf =>
    unfold vfsFsFileWrite at performed
    rw [none] at performed
    cases performed
    rfl
  | opens text fname modeIn =>
    unfold mpVfsFsFileOpen at performed
    rw [none] at performed
    cases performed
    rfl
  | asyncOpens path =>
    unfold asyncOpen requestOpen at performed
    rw [none] at performed
    split_ifs at performed <;> cases performed <;> rfl
  | preads fd nbyte offset =>
    unfold asyncPread requestPread at performed
    rw [none] at performed
    cases performed
    rfl

/-- What one of the servers makes a call access has to lie in the buffer. -/
theorem StaysInside.length_le (stays : StaysInside clears shareSize locals fresh client call)
    {i length : Nat} (clearing : clears → stale = false)
    (allocated : client.start.fsBufferAllocate = some (i * fsBufferSize, client.start.holding i))
    (reached : ∃ next, call.perform (servedReads shareSize stale) locals fresh client.start =
      some next ∧ ⟨i * fsBufferSize, length⟩ ∈ next.record.accessed) : length ≤ fsBufferSize := by
  obtain ⟨next, performed, accessed⟩ := reached
  obtain ⟨buffer, taken, same, inside⟩ := stays (servedReads shareSize stale) rfl
    (fun clear => clearing clear ▸ servedReads_clears) next performed _ accessed
  cases allocated.symm.trans same
  exact subset_rangeOf_iff.mp inside

/-- Whatever a program asks for, a call stays in its buffer exactly if the size that it was given
fits. -/
theorem staysInside_iff : StaysInside clears shareSize locals fresh client call ↔
    ∀ buffer taken, client.start.fsBufferAllocate = some (buffer, taken) →
      call.Fits clears shareSize buffer := by
  constructor
  · intro stays buffer taken allocated
    obtain ⟨i, small, rfl, rfl⟩ := fsBufferAllocate_eq_some allocated
    cases call with
    | reads o size =>
      refine (named_iff small).mp ((named_iff_length small).mpr fun accepted => ?_)
      exact stays.length_le (fun _ => rfl) allocated (read_reaches small allocated accepted)
    | writes o buf =>
      exact stays.length_le (fun _ => rfl) allocated (write_reaches small allocated)
    | opens text fname modeIn =>
      have short := stays.length_le (fun _ => rfl) allocated (open_reaches small allocated)
      rw [List.length_append] at short
      exact short
    | asyncOpens path =>
      exact stays.length_le (fun _ => rfl) allocated (asyncOpen_reaches small allocated)
    | preads fd nbyte offset =>
      have clear : clears := by
        by_contra unclear
        have short := stays.length_le (fun clear => absurd clear unclear) allocated
          (@pread_reaches _ _ _ true _ _ _ _ _ _ small allocated)
        exact absurd short (show ¬ 0x10000 ≤ fsBufferSize by decide)
      refine ⟨clear, (named_iff small).mp ((named_iff_length small).mpr fun accepted => ?_)⟩
      have short := stays.length_le (fun _ => rfl) allocated
        (@pread_reaches _ _ _ false _ _ _ _ _ _ small allocated)
      rw [readCompletion_accepted accepted] at short
      exact short
  · rintro fits env rfl clearing next performed range accessed
    cases allocated : client.start.fsBufferAllocate with
    | none =>
      rw [nothing_accessed allocated performed] at accessed
      cases accessed
    | some held =>
      obtain ⟨buffer, taken⟩ := held
      obtain ⟨i, small, rfl, same⟩ := fsBufferAllocate_eq_some allocated
      exact ⟨_, _, rfl, inside_of_fits small allocated clearing (fits _ _ allocated) performed range
        accessed⟩

end Bounds

/-- A write of one byte more than a buffer has goes into the next buffer. -/
theorem long_write_leaves_buffer : ¬ StaysInside True (BitVec.ofNat 64 Fs.fsShareSize) ⟨0, 0⟩
    ⟨true, 0, 0, 0⟩ unused (.writes ⟨true, 3, 0, 0⟩ (List.replicate (fsBufferSize + 1) 0x61)) := by
  intro stays
  obtain ⟨⟨buffer, taken⟩, allocated⟩ := Option.isSome_iff_exists.mp
    (fsBufferAllocate_isSome (show 0 < Fs.numBuffers by decide)
      (rfl : unused.start.buffers.used 0 = false))
  obtain ⟨i, small, rfl, rfl⟩ := fsBufferAllocate_eq_some allocated
  have short := stays.length_le (fun _ => rfl) allocated (write_reaches small allocated)
  rw [List.length_replicate] at short
  exact absurd short (Nat.not_succ_le_self _)

end LionsOS.Micropython

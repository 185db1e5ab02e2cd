/-
This file is about the arrays that both file system servers copy paths to. The
copy is bounded by the longest path, whatever the array; so it stays in the array
where that has room for the longest path and a terminator, and elsewhere only as
long as the client names a short one.
-/

import LionsOS.Fat.FatFsModel
import LionsOS.Nfs.Requests

namespace LionsOS.Fs

open List

variable {buf : FsBuffer} {fd : UInt64T} {kind : OfKind} {shareSize : UInt64T}
  {call : List UInt8T → Nfs.NfsCall} {slot : Fin 2}

/-! ### What a copy writes -/

/-- A path is copied from a buffer of the share. -/
def Copied (shareSize : UInt64T) (buf : FsBuffer) : Prop :=
  fsGetClientBuffer shareSize buf ≠ none ∧ buf.size.toNat ≤ fsMaxPathLength

theorem copied_of_fsCopyClientPath {share : Nat → UInt8T} {path : List UInt8T}
    (copied : fsCopyClientPath share shareSize buf = some path) :
    Copied shareSize buf ∧ path.length = buf.size.toNat + 1 := by
  unfold fsCopyClientPath at copied
  split at copied
  case h_1 => cases copied
  case h_2 data checked =>
    obtain ⟨short, ⟨⟩⟩ := Option.ite_none_left_eq_some.mp copied
    refine ⟨⟨?_, Nat.not_lt.mp short⟩, ?_⟩
    · rw [checked]
      simp
    · rw [length_append, bytesAt, length_map, length_range]
      rfl

theorem fsCopyClientPath_of_copied (copied : Copied shareSize buf) (share : Nat → UInt8T) :
    ∃ path, fsCopyClientPath share shareSize buf = some path := by
  obtain ⟨data, checked⟩ := Option.ne_none_iff_exists'.mp copied.1
  refine ⟨bytesAt share buf.range ++ [0], ?_⟩
  unfold fsCopyClientPath
  rw [checked]
  exact if_neg (Nat.not_lt.mpr copied.2)

/-- A write of a path copied from a buffer, with its terminator, to an array. -/
structure WritesPath (shareSize : UInt64T) (declared : Nat) (buf : FsBuffer) (write : PathWrite) :
    Prop where
  copied : Copied shareSize buf
  declared : write.declared = declared
  written : write.written = buf.size.toNat + 1

theorem WritesPath.inside_iff {declared : Nat} {write : PathWrite}
    (writes : WritesPath shareSize (declared + 1) buf write) :
    write.Inside ↔ buf.size.toNat ≤ declared := by
  rw [PathWrite.Inside, writes.written, writes.declared, Nat.add_le_add_iff_right]

/-! ### The FAT server -/

section Fat

open LionsOS.Fat

variable {fatfs : FatFs} {files : FatFiles fatfs}

/-- All that a segment writes are paths of its command, in arrays that have room for all paths but
for the one of an open. -/
def SegmentWrites (type : CmdType) (params : CmdParams) (segment : Segment fatfs) : Prop :=
  ∀ write ∈ segment.pathWrites, ∃ buf ∈ type.buffers params, WritesPath fatFsDataRegionSize
      ((if type = .fileOpen then fsMaxNameLength else fsMaxPathLength) + 1) buf write

variable {type : CmdType} {params : CmdParams}

theorem segmentWrites_finish (status : UInt64T) (result : Option UInt64T) :
    SegmentWrites type params (finish files status result) := by
  rintro _ ⟨⟩

theorem segmentWrites_inCall (call : FatFsCall) (stage : HandlerStage) :
    SegmentWrites type params (inCall files call stage) := by
  rintro _ ⟨⟩

theorem segmentWrites_endOp {rest : FatFiles fatfs → Segment fatfs}
    (writes : ∀ files, SegmentWrites type params (rest files)) :
    SegmentWrites type params (endOp files fd rest) :=
  endOp_rule (by rintro _ ⟨⟩) fun _ _ => writes _

theorem segmentWrites_withOp {rest : Fin maxOpenFiles → FatFiles fatfs → Segment fatfs}
    (writes : ∀ object files, SegmentWrites type params (rest object files)) :
    SegmentWrites type params (withOp kind files fd rest) :=
  withOp_rule (segmentWrites_finish _ _) fun _ _ _ => writes _ _

theorem segmentWrites_withPath (named : buf ∈ type.buffers params) {failed : UInt64T}
    {rest : List UInt8T → Segment fatfs} (writes : ∀ path, SegmentWrites type params (rest path)) :
    SegmentWrites type params
      (withPath files ((if type = .fileOpen then fsMaxNameLength else fsMaxPathLength) + 1) buf
        failed rest) := by
  refine withPath_rule (segmentWrites_finish _ _) fun path copies write member => ?_
  rcases mem_cons.mp member with rfl | later
  · obtain ⟨copied, length⟩ := copied_of_fsCopyClientPath copies
    exact ⟨buf, named, copied, rfl, length⟩
  · exact writes path write later

theorem segmentWrites_handleClose {call : UInt64T → Fin maxOpenFiles → FatFsCall × HandlerStage} :
    SegmentWrites type params (handleClose kind params files call) := by
  refine segmentWrites_withOp fun object files => segmentWrites_endOp fun files => ?_
  split
  · exact segmentWrites_finish _ _
  · exact segmentWrites_inCall _ _

theorem segmentWrites_operationFunctions (type : CmdType) (params : CmdParams)
    (files : FatFiles fatfs) :
    SegmentWrites type params (operationFunctions type params files) := by
  cases type with
  | initialise =>
    simp only [operationFunctions, handleInitialise]
    split
    · exact segmentWrites_finish _ _
    · exact segmentWrites_inCall _ _
  | deinitialise =>
    simp only [operationFunctions, handleDeinitialise]
    split
    · exact segmentWrites_inCall _ _
    · exact segmentWrites_finish _ _
  | fileOpen =>
    refine segmentWrites_withPath mem_cons_self fun filepath => ?_
    split
    · exact segmentWrites_finish _ _
    · exact segmentWrites_inCall _ _
  | dirOpen =>
    refine segmentWrites_withPath mem_cons_self fun dirpath => ?_
    split
    · exact segmentWrites_finish _ _
    · exact segmentWrites_inCall _ _
  | fileClose | dirClose =>
    exact segmentWrites_handleClose
  | stat =>
    simp only [operationFunctions, handleStat]
    split
    · exact segmentWrites_finish _ _
    · split
      · exact segmentWrites_finish _ _
      · exact segmentWrites_withPath mem_cons_self fun filepath => segmentWrites_inCall _ _
  | fileRead | fileWrite | dirRead =>
    simp only [operationFunctions, handleFileRead, handleFileWrite, handleDirRead]
    split
    · exact segmentWrites_finish _ _
    · exact segmentWrites_withOp fun object files => segmentWrites_inCall _ _
  | fileSize | dirTell =>
    refine segmentWrites_withOp fun object files => segmentWrites_endOp fun files => ?_
    exact segmentWrites_finish _ _
  | rename =>
    refine segmentWrites_withPath mem_cons_self fun oldpath => ?_
    refine segmentWrites_withPath (mem_cons_of_mem _ mem_cons_self) fun newpath => ?_
    exact segmentWrites_inCall _ _
  | fileRemove | dirCreate | dirRemove =>
    exact segmentWrites_withPath mem_cons_self fun path => segmentWrites_inCall _ _
  | fileTruncate | fileSync | dirSeek | dirRewind =>
    exact segmentWrites_withOp fun object files => segmentWrites_inCall _ _

theorem fileOpen_writes (files : FatFiles fatfs)
    (copied : Copied fatFsDataRegionSize (paramBuffer params 0)) :
    { declared := fsMaxNameLength + 1, written := (paramBuffer params 0).size.toNat + 1 } ∈
      (operationFunctions .fileOpen params files).pathWrites := by
  obtain ⟨path, copies⟩ := fsCopyClientPath_of_copied copied files.share
  simp only [operationFunctions, handleFileOpen, withPath, copies,
    ← (copied_of_fsCopyClientPath copies).2]
  exact mem_cons_self

/-- The FAT server writes outside its arrays exactly where it opens a file with a path that is longer
than a name and not refused. -/
theorem fat_inside_iff (type : CmdType) (params : CmdParams) (files : FatFiles fatfs) :
    (∀ write ∈ (operationFunctions type params files).pathWrites, write.Inside) ↔
      (type = .fileOpen → Copied fatFsDataRegionSize (paramBuffer params 0) →
        (paramBuffer params 0).size.toNat ≤ fsMaxNameLength) := by
  constructor
  · rintro inside rfl copied
    exact Nat.le_of_succ_le_succ (inside _ (fileOpen_writes files copied))
  · intro short write member
    obtain ⟨buf, named, writes⟩ := segmentWrites_operationFunctions type params files write member
    refine writes.inside_iff.mpr ?_
    split
    · rename_i opens
      subst opens
      rw [mem_singleton.mp named]
      exact short rfl (mem_singleton.mp named ▸ writes.copied)
    · exact writes.copied.2

end Fat

/-! ### The NFS server -/

/-- The commands whose handlers of the NFS server copy the path that comes first. -/
def namesPath : CmdType → Bool
  | .stat | .fileOpen | .rename | .fileRemove | .dirCreate | .dirRemove | .dirOpen => true
  | _ => false

section Nfs

open LionsOS.Nfs

variable {server : NfsServer} {answer : NfsAnswer} {id : UInt64T} {type : CmdType}
  {params : CmdParams}

variable {rest : NfsServer → Outcome} {data : List UInt64T}

/-- All that a handler writes is the path that comes first, in one of the path buffers. -/
def OutcomeWrites (type : CmdType) (params : CmdParams) (outcome : Outcome) : Prop :=
  ∀ write ∈ outcome.pathWrites, namesPath type = true ∧
    WritesPath clientShareSize pathBufferSize (paramBuffer params 0) write

theorem outcomeWrites_fail {failure : NfsFailure} : OutcomeWrites type params (fail server failure) := by
  rintro _ ⟨⟩

theorem outcomeWrites_reply {cmpl : FsCmpl} : OutcomeWrites type params (reply server cmpl) := by
  unfold reply
  split
  · exact outcomeWrites_fail
  · rintro _ ⟨⟩

theorem outcomeWrites_withPath (names : namesPath type = true)
    (writes : ∀ server, OutcomeWrites type params (rest server)) :
    OutcomeWrites type params (withPath server id slot (paramBuffer params 0) rest) := by
  unfold withPath
  split
  · exact outcomeWrites_reply
  · rename_i path copies
    intro write member
    rcases mem_cons.mp member with rfl | later
    · obtain ⟨copied, length⟩ := copied_of_fsCopyClientPath copies
      exact ⟨names, copied, rfl, length⟩
    · exact writes _ write later

theorem outcomeWrites_withBuffer {least : Nat} {rest : UInt64T → Outcome}
    (writes : ∀ data, OutcomeWrites type params (rest data)) :
    OutcomeWrites type params (withBuffer server id buf least rest) := by
  unfold withBuffer
  split
  · exact outcomeWrites_reply
  · split
    · exact outcomeWrites_reply
    · exact writes _

theorem outcomeWrites_withOp {rest : UInt64T → NfsServer → Outcome}
    (writes : ∀ handle server, OutcomeWrites type params (rest handle server)) :
    OutcomeWrites type params (withOp kind server id fd rest) := by
  unfold withOp
  split
  · exact outcomeWrites_reply
  · exact writes _ _

theorem outcomeWrites_endOp (writes : ∀ server, OutcomeWrites type params (rest server)) :
    OutcomeWrites type params (endOp server fd rest) := by
  unfold endOp
  split
  · exact outcomeWrites_fail
  · exact writes _

theorem outcomeWrites_submitWith {call : NfsCall}
    {undo : NfsServer → (NfsServer → Outcome) → Outcome}
    (undoing : ∀ server rest, (∀ server, OutcomeWrites type params (rest server)) →
      OutcomeWrites type params (undo server rest)) :
    OutcomeWrites type params (submitWith server answer id data call undo) := by
  unfold submitWith withContinuation submit
  split
  · exact outcomeWrites_fail
  · split
    · rintro _ ⟨⟩
    · unfold freeContinuation
      dsimp only
      split
      · exact outcomeWrites_fail
      · exact undoing _ _ fun server => outcomeWrites_reply

theorem outcomeWrites_submitWith_nothing {call : NfsCall} :
    OutcomeWrites type params (submitWith server answer id data call nothing) :=
  outcomeWrites_submitWith fun server _ writes => writes server

theorem outcomeWrites_fileCall {call : UInt64T → NfsCall} :
    OutcomeWrites type params (fileCall server answer id fd data call) :=
  outcomeWrites_withOp fun _ _ => outcomeWrites_submitWith fun _ _ writes =>
    outcomeWrites_endOp writes

theorem outcomeWrites_openCall (names : namesPath type = true) :
    OutcomeWrites type params (openCall server answer id params call) := by
  refine outcomeWrites_withPath names fun server => ?_
  split
  · exact outcomeWrites_reply
  · exact outcomeWrites_submitWith fun _ _ writes => writes _

theorem outcomeWrites_pathCall (names : namesPath type = true) :
    OutcomeWrites type params (pathCall server answer id params call) :=
  outcomeWrites_withPath names fun _ => outcomeWrites_submitWith_nothing

theorem outcomeWrites_withUnset {rest : UInt64T → NfsServer → Outcome}
    (writes : ∀ handle server, OutcomeWrites type params (rest handle server)) :
    OutcomeWrites type params (withUnset server id kind fd rest) := by
  refine outcomeWrites_withOp fun handle server => outcomeWrites_endOp fun server => ?_
  split
  · exact outcomeWrites_reply
  · exact writes _ _

theorem outcomeWrites_dirCall {data : UInt64T} :
    OutcomeWrites type params (dirCall server id params data) :=
  outcomeWrites_withOp fun _ _ => outcomeWrites_endOp fun _ => outcomeWrites_reply

theorem outcomeWrites_cmdHandler (server : NfsServer) (answer : NfsAnswer) (id : UInt64T)
    (params : CmdParams) (type : CmdType) :
    OutcomeWrites type params (cmdHandler server answer id params type) := by
  cases type with
  | initialise =>
    simp only [cmdHandler, handleInitialise]
    split
    · exact outcomeWrites_reply
    · split
      · exact outcomeWrites_submitWith_nothing
      · exact outcomeWrites_reply
  | deinitialise => rintro _ ⟨⟩
  | fileOpen | dirOpen =>
    simp only [cmdHandler]
    exact outcomeWrites_openCall rfl
  | fileClose =>
    exact outcomeWrites_withUnset fun _ _ => outcomeWrites_submitWith fun _ _ writes => writes _
  | dirClose => exact outcomeWrites_withUnset fun _ _ => outcomeWrites_reply
  | stat =>
    exact outcomeWrites_withPath rfl fun _ => outcomeWrites_withBuffer fun _ =>
      outcomeWrites_submitWith_nothing
  | fileRead | fileWrite => exact outcomeWrites_withBuffer fun _ => outcomeWrites_fileCall
  | fileSize | fileSync | fileTruncate => exact outcomeWrites_fileCall
  | rename =>
    exact outcomeWrites_withPath rfl fun _ => outcomeWrites_withPath rfl fun _ =>
      outcomeWrites_submitWith_nothing
  | fileRemove | dirCreate | dirRemove => exact outcomeWrites_pathCall rfl
  | dirRead =>
    refine outcomeWrites_withBuffer fun buf => outcomeWrites_withOp fun _ server => ?_
    split
    · exact outcomeWrites_endOp fun server => outcomeWrites_reply
    · split
      · exact outcomeWrites_fail
      · exact outcomeWrites_endOp fun server => outcomeWrites_reply
  | dirSeek | dirTell | dirRewind => exact outcomeWrites_dirCall

theorem withPath_writes (copied : Copied clientShareSize buf) :
    { declared := pathBufferSize, written := buf.size.toNat + 1 } ∈
      (withPath server id slot buf rest).pathWrites := by
  obtain ⟨path, copies⟩ := fsCopyClientPath_of_copied copied server.share
  simp only [withPath, copies, ← (copied_of_fsCopyClientPath copies).2]
  exact mem_cons_self

theorem cmdHandler_writes (server : NfsServer) (answer : NfsAnswer) (id : UInt64T)
    (names : namesPath type = true) (copied : Copied clientShareSize (paramBuffer params 0)) :
    { declared := pathBufferSize, written := (paramBuffer params 0).size.toNat + 1 } ∈
      (cmdHandler server answer id params type).pathWrites := by
  cases type with
  | stat | fileOpen | rename | fileRemove | dirCreate | dirRemove | dirOpen =>
    exact withPath_writes copied
  | _ => cases names

/-- The NFS server writes outside the path buffer exactly where a path that is not refused is of more
than one byte. -/
theorem nfs_inside_iff (type : CmdType) (params : CmdParams) (server : NfsServer)
    (answer : NfsAnswer) (id : UInt64T) :
    (∀ write ∈ (cmdHandler server answer id params type).pathWrites, write.Inside) ↔
      (namesPath type = true → Copied clientShareSize (paramBuffer params 0) →
        (paramBuffer params 0).size.toNat ≤ 1) := by
  constructor
  · intro inside names copied
    exact Nat.le_of_succ_le_succ (inside _ (cmdHandler_writes server answer id names copied))
  · intro short write member
    obtain ⟨names, writes⟩ := outcomeWrites_cmdHandler server answer id params type write member
    exact writes.inside_iff.mpr (short names writes.copied)

end Nfs

/-! ### Both servers -/

/-- Every copy of a path that a handler makes stays in the array that the handler passes, exactly as
long as the FAT server opens no file with a path longer than a name, and the NFS server copies no
path longer than one byte. -/
theorem path_writes_inside_iff {fatfs : Fat.FatFs} (type : CmdType) (params : CmdParams)
    (files : Fat.FatFiles fatfs) (server : Nfs.NfsServer) (answer : Nfs.NfsAnswer) (id : UInt64T) :
    ((∀ write ∈ (Fat.operationFunctions type params files).pathWrites, write.Inside) ↔
      (type = .fileOpen → Copied Fat.fatFsDataRegionSize (paramBuffer params 0) →
        (paramBuffer params 0).size.toNat ≤ fsMaxNameLength)) ∧
    ((∀ write ∈ (Nfs.cmdHandler server answer id params type).pathWrites, write.Inside) ↔
      (namesPath type = true → Copied Nfs.clientShareSize (paramBuffer params 0) →
        (paramBuffer params 0).size.toNat ≤ 1)) :=
  ⟨fat_inside_iff type params files, nfs_inside_iff type params server answer id⟩

/-- A path of 256 bytes at the start of the share. -/
def longPathParams : CmdParams :=
  paramsOf [0, 256]

/-- To open a file with a path of 256 bytes, which may well be a valid path, writes outside the arrays
of both servers. -/
theorem long_path_written_outside :
    ¬ (∀ write ∈ (Fat.operationFunctions .fileOpen longPathParams
        (Fat.plainWorkers Unit).files).pathWrites, write.Inside) ∧
      ¬ ∀ write ∈ (Nfs.cmdHandler Nfs.NfsSystem.started.server Nfs.NfsSystem.accepting 0
        longPathParams .fileOpen).pathWrites, write.Inside := by
  have copied : Copied Fat.fatFsDataRegionSize (paramBuffer longPathParams 0) :=
    ⟨by decide, by decide⟩
  constructor
  · intro inside
    exact absurd (inside _ (fileOpen_writes _ copied)) (by decide)
  · intro inside
    exact absurd (inside _ (cmdHandler_writes _ _ _ rfl copied)) (by decide)

end LionsOS.Fs

/-
This file is about what FILE_READ does to files. The handler goes to the offset of
the command by the seek of FatFs, which extends a file that was opened for writing
where the offset is behind its end; so a read leaves all files as they are unless
it is of such a file and such an offset.
-/

import LionsOS.Fat.FatFsModel
import LionsOS.Fat.Handling

open Function

namespace LionsOS.Fat

open LionsOS.Fs

variable {fatfs : FatFs}

/-! ### The bytes of files -/

/-- `FA_WRITE` -/
def faWrite : UInt8T := 2

/-- The files of a volume, and what opening, seeking and reading does to them. -/
structure FileBytes (fatfs : FatFs) where
  File : Type
  fileOf : fatfs.Volume → Fin maxOpenFiles → File
  bytes : fatfs.Volume → File → List UInt8T
  writable : fatfs.Volume → Fin maxOpenFiles → Bool
  size : ∀ volume file, (fatfs.fSize volume file).toNat = (bytes volume (fileOf volume file)).length
  opens : ∀ {file path mode volume share reply volume' share'},
    fatfs.Acts (.fOpen file path mode) volume share reply volume' share' → reply.result = .ok →
      writable volume' file = decide (mode &&& faWrite ≠ 0)
  seeksInside : ∀ {file offset volume share reply volume' share'},
    fatfs.Acts (.fLseek file offset) volume share reply volume' share' →
      writable volume file = false ∨ offset ≤ fatfs.fSize volume file → bytes volume' = bytes volume
  seeksBehind : ∀ {file offset volume share reply volume' share'},
    fatfs.Acts (.fLseek file offset) volume share reply volume' share' → reply.result = .ok →
      writable volume file = true → fatfs.fSize volume file < offset →
        (bytes volume (fileOf volume file)).length < (bytes volume' (fileOf volume file)).length
  reads : ∀ {file buff btr volume share reply volume' share'},
    fatfs.Acts (.fRead file buff btr) volume share reply volume' share' →
      bytes volume' = bytes volume

/-- Others leave the files as they are, and what is open of them. -/
def FileBytes.LeftBy (observed : FileBytes fatfs)
    (between : FatFiles fatfs → FatFiles fatfs → Prop) : Prop :=
  ∀ files after, between files after → observed.bytes after.volume = observed.bytes files.volume ∧
      observed.fileOf after.volume = observed.fileOf files.volume ∧
      observed.writable after.volume = observed.writable files.volume

/-- The seeks of a handler have succeeded. -/
def SeeksSucceed (answers : List Answer) : Prop :=
  ∀ answer ∈ answers, ∀ file offset, answer.call = .fLseek file offset → answer.reply.result = .ok

/-- A read either is of no valid buffer, or of a file that is not writable, or goes nowhere behind
the end of the file. -/
def StaysInside (observed : FileBytes fatfs) (params : CmdParams) (files : FatFiles fatfs)
    (file : Fin maxOpenFiles) : Prop :=
  fsGetClientBuffer fatFsDataRegionSize (paramBuffer params 2) = none ∨
    observed.writable files.volume file = false ∨
    paramWord params 1 ≤ fatfs.fSize files.volume file

/-! ### Opening -/

/-! ### Reading -/

section Read

variable {observed : FileBytes fatfs} {between : FatFiles fatfs → FatFiles fatfs → Prop}
  {params : CmdParams} {files after : FatFiles fatfs} {answers : List Answer} {status : UInt64T}
  {result : Option UInt64T} {handle : UInt64T} {table : OfTable}

/-- The seek that a read begins with, before which and after which nothing else changes the
files. -/
structure Seeks (observed : FileBytes fatfs) (files : FatFiles fatfs) (file : Fin maxOpenFiles)
    (offset : UInt64T) (answers : List Answer) (after : FatFiles fatfs) : Prop where
  seek : ∃ (reply : FatFsReply) (before : FatFiles fatfs) (volume : fatfs.Volume)
    (share : Nat → UInt8T), ⟨.fLseek file offset, reply⟩ ∈ answers ∧
      fatfs.Acts (.fLseek file offset) before.volume before.share reply volume share ∧
      observed.bytes before.volume = observed.bytes files.volume ∧
      observed.fileOf before.volume = observed.fileOf files.volume ∧
      observed.writable before.volume = observed.writable files.volume ∧
      observed.bytes after.volume = observed.bytes volume

theorem seeks_of_handled (left : observed.LeftBy between)
    (opened : fdBeginOp .file files.table (paramWord params 0) = some (handle, table))
    {data : UInt64T}
    (checked : fsGetClientBuffer fatFsDataRegionSize (paramBuffer params 2) = some data)
    (handled : Handled between .fileRead params files answers status result after) :
    Seeks observed files (objectOf handle) (paramWord params 1) answers after := by
  obtain ⟨last, handles, finished, rfl⟩ := handled
  simp only [operationFunctions, handleFileRead, checked, withOp, opened] at handles
  obtain ⟨reply, before, middle, volume, share, rest, rfl, others, acts, othersAgain, handles⟩ :=
    handles.of_inCall rfl finished
  obtain ⟨sameBytes, sameFiles, sameModes⟩ := left _ _ others
  refine ⟨reply, before, volume, share, List.mem_cons_self, acts, sameBytes, sameFiles, sameModes,
    ?_⟩
  have unchanged : observed.bytes middle.volume = observed.bytes volume := (left _ _ othersAgain).1
  rw [← unchanged]
  simp only [resume] at handles
  split at handles
  · obtain ⟨_, before', later, volume', _, _, _, others', acts', othersAgain', handles⟩ :=
      handles.of_inCall rfl finished
    have read : observed.bytes later.volume = observed.bytes volume' := (left _ _ othersAgain').1
    rw [handles.volume_of_endOp finished, read, observed.reads acts']
    exact (left _ _ others').1
  · rw [handles.volume_of_endOp finished]

theorem bytes_of_invalid
    (invalid : fsGetClientBuffer fatFsDataRegionSize (paramBuffer params 2) = none)
    (handled : Handled between .fileRead params files answers status result after) :
    after = files := by
  obtain ⟨last, handles, finished, rfl⟩ := handled
  simp only [operationFunctions, handleFileRead, invalid] at handles
  obtain ⟨rfl, rfl⟩ := handles.of_finished rfl
  rfl

/-- The size of a file depends on its bytes alone. -/
theorem FileBytes.fSize_eq (observed : FileBytes fatfs) {before : FatFiles fatfs}
    (sameBytes : observed.bytes before.volume = observed.bytes files.volume)
    (sameFiles : observed.fileOf before.volume = observed.fileOf files.volume)
    (file : Fin maxOpenFiles) : fatfs.fSize before.volume file = fatfs.fSize files.volume file := by
  refine BitVec.eq_of_toNat_eq ?_
  rw [observed.size, observed.size, sameBytes, sameFiles]

/-- A read of an open file leaves all files as they are if its buffer is not valid, the file was not
opened for writing, or its offset is not behind the end of the file; and only then, if the seek of
FatFs does not fail. -/
theorem read_leaves_files_iff (left : observed.LeftBy between)
    (opened : fdBeginOp .file files.table (paramWord params 0) = some (handle, table))
    (handled : Handled between .fileRead params files answers status result after) :
    (StaysInside observed params files (objectOf handle) →
        observed.bytes after.volume = observed.bytes files.volume) ∧
      (SeeksSucceed answers → observed.bytes after.volume = observed.bytes files.volume →
        StaysInside observed params files (objectOf handle)) := by
  cases checked : fsGetClientBuffer fatFsDataRegionSize (paramBuffer params 2) with
  | none =>
    rw [bytes_of_invalid checked handled]
    exact ⟨fun _ => rfl, fun _ _ => Or.inl checked⟩
  | some data =>
    obtain ⟨reply, before, volume, share, member, acts, sameBytes, sameFiles, sameModes,
      unchanged⟩ := (seeks_of_handled left opened checked handled).seek
    have size := observed.fSize_eq sameBytes sameFiles (objectOf handle)
    constructor
    · rintro (invalid | inside)
      · rw [checked] at invalid
        cases invalid
      · rw [unchanged, ← sameBytes]
        refine observed.seeksInside acts ?_
        rwa [sameModes, size]
    · intro succeeded same
      by_contra outside
      simp only [StaysInside, not_or, Bool.not_eq_false, BitVec.not_le] at outside
      obtain ⟨_, writable, behind⟩ := outside
      have extended := observed.seeksBehind acts (succeeded _ member _ _ rfl)
        (by rw [sameModes, writable]) (by rwa [size])
      rw [← unchanged, same, sameBytes] at extended
      exact Nat.lt_irrefl _ extended

end Read

/-! ### A volume with one file -/

/-- The file of a volume, and in which modes and at which positions it is open. -/
structure FileVolume where
  size : UInt64T
  contents : Nat → UInt8T
  writable : Fin maxOpenFiles → Bool
  position : Fin maxOpenFiles → UInt64T

open FileVolume

namespace FileVolume

open PlainVolume (succeeded)

def seek (volume : FileVolume) (file : Fin maxOpenFiles) (offset : UInt64T) : FileVolume :=
  if volume.size < offset then
    if volume.writable file then
      { volume with size := offset, position := update volume.position file offset }
    else { volume with position := update volume.position file volume.size }
  else { volume with position := update volume.position file offset }

/-- How much is read at the position of an open file. -/
def readCount (volume : FileVolume) (file : Fin maxOpenFiles) (btr : UInt32T) : UInt32T :=
  if (volume.size - volume.position file).toNat < btr.toNat then
    (volume.size - volume.position file).setWidth 32
  else btr

def perform (call : FatFsCall) (volume : FileVolume) (share : Nat → UInt8T) :
    FatFsReply × FileVolume × (Nat → UInt8T) :=
  match call with
  | .fOpen file _ mode =>
    (succeeded 0,
      { volume with
        writable := update volume.writable file (decide (mode &&& faWrite ≠ 0))
        position := update volume.position file 0 },
      share)
  | .fLseek file offset => (succeeded 0, volume.seek file offset, share)
  | .fRead file buff btr =>
    let count := volume.readCount file btr
    (succeeded count,
      { volume with
        position := update volume.position file (volume.position file + count.setWidth 64) },
      Bytes.copy share ⟨buff.toNat, count.toNat⟩ volume.contents (volume.position file).toNat)
  | _ => (succeeded 0, volume, share)

end FileVolume

def fileFatFs : FatFs where
  Volume := FileVolume
  fSize volume _ := volume.size
  fTelldir _ _ := 0
  ssize _ := 512
  Acts call volume share reply volume' share' :=
    perform call volume share = (reply, volume', share')

def fileFatFsBytes : FileBytes fileFatFs where
  File := Unit
  fileOf _ _ := ()
  bytes volume _ := (List.range volume.size.toNat).map volume.contents
  writable := writable
  size volume file := by rw [List.length_map, List.length_range]; rfl
  opens := by
    rintro file path mode volume share reply _ _ ⟨⟩ succeeded
    exact update_self _ _ _
  seeksInside := by
    rintro file offset volume share reply _ _ ⟨⟩ inside
    unfold seek
    split
    · rename_i behind
      rcases inside with readOnly | inside
      · rw [readOnly]
        rfl
      · exact absurd behind (BitVec.not_lt.mpr inside)
    · rfl
  seeksBehind := by
    rintro file offset volume share reply _ _ ⟨⟩ succeeded writable behind
    have extended : (seek volume file offset).size = offset := by
      unfold seek
      exact (congrArg size ((if_pos behind).trans (if_pos writable)))
    rw [List.length_map, List.length_range, List.length_map, List.length_range, extended]
    exact behind
  reads := by
    rintro file buff btr volume share reply _ _ ⟨⟩
    rfl

/-- A server with a file of three bytes open, for writing or not. -/
def fileServer (writable : Bool) : FatFiles fileFatFs where
  fsInitialised := true
  fileUsed := fun file => decide (file = slotOf 0)
  dirUsed := fun _ => false
  table := fun slot =>
    { state := if slot = slotOf 0 then .opened .file else .free
      handle := 0
      busyCount := 0
      generation := 0 }
  volume :=
    { size := 3, contents := fun _ => 1, writable := fun _ => writable, position := fun _ => 0 }
  share := fun _ => 0

/-- To read four bytes from the fifth on. -/
def readBehindParams : CmdParams :=
  paramsOf [0, 5, 8, 4]

theorem fileFatFsBytes_leftBy_eq : fileFatFsBytes.LeftBy Eq := by
  rintro files _ rfl
  exact ⟨rfl, rfl, rfl⟩

/-- A read behind the end of a file that is not writable leaves it as it is. -/
theorem read_only_file_left : ∃ answers status result after,
    HandledAlone .fileRead readBehindParams (fileServer false) answers status result after ∧
      fileFatFsBytes.bytes after.volume = fileFatFsBytes.bytes (fileServer false).volume := by
  have handled : ∃ answers status result after,
      HandledAlone .fileRead readBehindParams (fileServer false) answers status result after :=
    ⟨_, _, _, _, handledAlone_of_follow (fun _ _ _ _ _ _ same => same)
      (rfl : follow perform 2 _ = some _) rfl⟩
  obtain ⟨answers, status, result, after, handled⟩ := handled
  exact ⟨answers, status, result, after, handled,
    (read_leaves_files_iff fileFatFsBytes_leftBy_eq rfl handled).1 (Or.inr (Or.inl rfl))⟩

/-- A read behind the end of a file that is writable extends it. -/
theorem writable_file_extended : ∃ answers status result after,
    HandledAlone .fileRead readBehindParams (fileServer true) answers status result after ∧
      SeeksSucceed answers ∧
      (fileFatFsBytes.bytes (fileServer true).volume ()).length = 3 ∧
      (fileFatFsBytes.bytes after.volume ()).length = 5 := by
  refine ⟨_, _, _, _, handledAlone_of_follow (fun _ _ _ _ _ _ same => same)
    (rfl : follow perform 2 _ = some _) rfl, ?_, by decide, by decide⟩
  intro answer member file offset _
  rcases List.mem_cons.mp member with rfl | member
  · rfl
  · rw [List.mem_singleton.mp member]
    rfl

end LionsOS.Fat

/-
This file embeds the command handlers of `op.c`. A handler runs in a worker
cothread, which may be switched away from whenever it calls FatFs and at no other
point; so a handler is its first segment, up to its first call of FatFs or its
end, and what it does with each reply, with the locals it still needs in between.
FatFs itself is a parameter. An open file or directory is represented by its index
in its array.
-/

import LionsOS.Fs.ClientShare
import LionsOS.Fs.Fd

open Function

namespace LionsOS.Fat

open LionsOS.Fs

variable {file dir : Fin maxOpenFiles} {fd : UInt64T}

/-! ### FatFs -/

inductive FResult where
  | ok
  | diskErr
  | intErr
  | notReady
  | noFile
  | noPath
  | invalidName
  | denied
  | exist
  | invalidObject
  | writeProtected
  | invalidDrive
  | notEnabled
  | noFilesystem
  | mkfsAborted
  | timeout
  | locked
  | notEnoughCore
  | tooManyOpenFiles
  | invalidParameter
  deriving DecidableEq

/-- What the handlers read of `FILINFO`. -/
structure FilInfo where
  fsize : UInt64T
  ftime : UInt16T
  fattrib : UInt8T
  fname : List UInt8T

/-- The calls of FatFs that may wait for the block device. -/
inductive FatFsCall where
  | fMount
  | fUnmount
  | fOpen (file : Fin maxOpenFiles) (path : List UInt8T) (mode : UInt8T)
  | fClose (file : Fin maxOpenFiles)
  | fLseek (file : Fin maxOpenFiles) (offset : UInt64T)
  | fRead (file : Fin maxOpenFiles) (buff : UInt64T) (btr : UInt32T)
  | fWrite (file : Fin maxOpenFiles) (buff : UInt64T) (btw : UInt32T)
  | fTruncate (file : Fin maxOpenFiles)
  | fSync (file : Fin maxOpenFiles)
  | fStat (path : List UInt8T)
  | fRename (oldPath newPath : List UInt8T)
  | fUnlink (path : List UInt8T)
  | fMkdir (path : List UInt8T)
  | fRmdir (path : List UInt8T)
  | fOpendir (dir : Fin maxOpenFiles) (path : List UInt8T)
  | fClosedir (dir : Fin maxOpenFiles)
  /-- Read the next entry, or with a null pointer for its information rewind. -/
  | fReaddir (dir : Fin maxOpenFiles) (rewind : Bool)

/-- What a call returns, with the counts and the information it stores where it was told to. -/
structure FatFsReply where
  result : FResult
  count : UInt32T
  info : FilInfo

/-- FatFs, as the handlers see it: the state of its volume and objects, the macros that read these,
and what a call may do to them and to the share. -/
structure FatFs where
  Volume : Type
  fSize : Volume → Fin maxOpenFiles → UInt64T
  fTelldir : Volume → Fin maxOpenFiles → UInt32T
  ssize : Volume → UInt16T
  Acts : FatFsCall → Volume → (Nat → UInt8T) → FatFsReply → Volume → (Nat → UInt8T) → Prop

/-- The bytes of the share that a call is given. -/
def FatFsCall.shareRanges : FatFsCall → List Bytes.Range
  | .fRead _ buff btr => [⟨buff.toNat, btr.toNat⟩]
  | .fWrite _ buff btw => [⟨buff.toNat, btw.toNat⟩]
  | _ => []

/-! ### State -/

/-- What the handlers share. -/
structure FatFiles (fatfs : FatFs) where
  fsInitialised : Bool
  fileUsed : Fin maxOpenFiles → Bool
  dirUsed : Fin maxOpenFiles → Bool
  table : OfTable
  volume : fatfs.Volume
  share : Nat → UInt8T

/-- Which call of FatFs a handler is in, with the locals it uses afterwards. -/
inductive HandlerStage where
  | mounting
  | unmounting
  | opening (file : Fin maxOpenFiles)
  | writeSeeking (fd : UInt64T) (file : Fin maxOpenFiles) (data btw : UInt64T)
  | writing (fd : UInt64T)
  | readSeeking (fd : UInt64T) (file : Fin maxOpenFiles) (data btr : UInt64T)
  | reading (fd : UInt64T)
  | closing (fd : UInt64T) (file : Fin maxOpenFiles)
  | statting (fileStat : UInt64T)
  | renamingPath
  | removing
  | truncateSeeking (fd : UInt64T) (file : Fin maxOpenFiles)
  | truncating (fd : UInt64T)
  | creatingDir
  | removingDir
  | openingDir (dir : Fin maxOpenFiles)
  | readingDir (fd : UInt64T) (name size : UInt64T)
  | rewinding (fd : UInt64T)
  | syncing (fd : UInt64T)
  | closingDir (fd : UInt64T) (dir : Fin maxOpenFiles)
  | seekingDir (fd : UInt64T) (dir : Fin maxOpenFiles) (loc passed : Int)

/-- What a handler is up to at the end of a segment. A result that it does not store stays what it
was. -/
inductive Progress where
  | inCall (call : FatFsCall) (stage : HandlerStage)
  | finished (status : UInt64T) (result : Option UInt64T)
  | failedAssertion

/-- What a handler does from one call of FatFs to the next, with the bytes of the share that it
accesses itself and the paths that it copies. -/
structure Segment (fatfs : FatFs) where
  accesses : List Bytes.Range
  pathWrites : List PathWrite := []
  files : FatFiles fatfs
  progress : Progress

variable {fatfs : FatFs}

variable {after : FatFiles fatfs}

/-! ### Pools of objects -/

def fatFsDataRegionSize : UInt64T := 0x4000000

def fileAlloc (files : FatFiles fatfs) : Option (Fin maxOpenFiles × FatFiles fatfs) :=
  ((List.finRange maxOpenFiles).find? fun file => !files.fileUsed file).map fun file =>
    (file, { files with fileUsed := update files.fileUsed file true })

/-- `none` when the assertion fails. -/
def fileFree (files : FatFiles fatfs) (file : Fin maxOpenFiles) : Option (FatFiles fatfs) :=
  if files.fileUsed file then
    some { files with fileUsed := update files.fileUsed file false }
  else none

def dirAlloc (files : FatFiles fatfs) : Option (Fin maxOpenFiles × FatFiles fatfs) :=
  ((List.finRange maxOpenFiles).find? fun dir => !files.dirUsed dir).map fun dir =>
    (dir, { files with dirUsed := update files.dirUsed dir true })

def dirFree (files : FatFiles fatfs) (dir : Fin maxOpenFiles) : Option (FatFiles fatfs) :=
  if files.dirUsed dir then
    some { files with dirUsed := update files.dirUsed dir false }
  else none

section

variable {files : FatFiles fatfs}

theorem fileAlloc_eq_some (allocated : fileAlloc files = some (file, after)) :
    files.fileUsed file = false ∧
      after = { files with fileUsed := update files.fileUsed file true } := by
  obtain ⟨_, found, same⟩ := Option.map_eq_some_iff.mp allocated
  cases same
  have unused := List.find?_some found
  exact ⟨by simpa using unused, rfl⟩

theorem dirAlloc_eq_some (allocated : dirAlloc files = some (dir, after)) :
    files.dirUsed dir = false ∧
      after = { files with dirUsed := update files.dirUsed dir true } := by
  obtain ⟨_, found, same⟩ := Option.map_eq_some_iff.mp allocated
  cases same
  have unused := List.find?_some found
  exact ⟨by simpa using unused, rfl⟩

theorem fileFree_eq_some (freed : fileFree files file = some after) :
    files.fileUsed file = true ∧
      after = { files with fileUsed := update files.fileUsed file false } := by
  obtain ⟨used, ⟨⟩⟩ := Option.ite_none_right_eq_some.mp freed
  exact ⟨used, rfl⟩

theorem dirFree_eq_some (freed : dirFree files dir = some after) :
    files.dirUsed dir = true ∧
      after = { files with dirUsed := update files.dirUsed dir false } := by
  obtain ⟨used, ⟨⟩⟩ := Option.ite_none_right_eq_some.mp freed
  exact ⟨used, rfl⟩

end

/-- The handle that the table keeps for an object. -/
def handleOf (object : Fin maxOpenFiles) : UInt64T :=
  BitVec.ofNat 64 object

theorem object_lt (handle : UInt64T) : handle.toNat % maxOpenFiles < maxOpenFiles :=
  Nat.mod_lt _ (by decide)

def objectOf (handle : UInt64T) : Fin maxOpenFiles :=
  ⟨handle.toNat % maxOpenFiles, object_lt handle⟩

theorem objectOf_handleOf (object : Fin maxOpenFiles) : objectOf (handleOf object) = object := by
  have small : object.val < 2 ^ 64 := object.isLt.trans (by decide)
  refine Fin.ext ?_
  show (BitVec.ofNat 64 object).toNat % maxOpenFiles = object
  rw [BitVec.toNat_ofNat, Nat.mod_eq_of_lt small, Nat.mod_eq_of_lt object.isLt]

/-! ### Parts of handlers -/

def finish (files : FatFiles fatfs) (status : UInt64T) (result : Option UInt64T) : Segment fatfs :=
  { accesses := [], files, progress := .finished status result }

def inCall (files : FatFiles fatfs) (call : FatFsCall) (stage : HandlerStage) : Segment fatfs :=
  { accesses := [], files, progress := .inCall call stage }

def failAssertion (files : FatFiles fatfs) : Segment fatfs :=
  { accesses := [], files, progress := .failedAssertion }

/-- What follows an assertion about a call that changes the state. -/
def asserting (files : FatFiles fatfs) (next : Option (FatFiles fatfs))
    (rest : FatFiles fatfs → Segment fatfs) : Segment fatfs :=
  match next with
  | none => failAssertion files
  | some files => rest files

/-- Go on with a path copied from the client to an array of a declared size, or finish with a
status. -/
def withPath (files : FatFiles fatfs) (declared : Nat) (buf : FsBuffer) (failed : UInt64T)
    (rest : List UInt8T → Segment fatfs) : Segment fatfs :=
  match fsCopyClientPath files.share fatFsDataRegionSize buf with
  | none => finish files failed none
  | some path =>
    { rest path with
      accesses := buf.range :: (rest path).accesses
      pathWrites := { declared, written := path.length } :: (rest path).pathWrites }

/-- Go on with an operation begun on a descriptor. -/
def withOp (kind : OfKind) (files : FatFiles fatfs) (fd : UInt64T)
    (rest : Fin maxOpenFiles → FatFiles fatfs → Segment fatfs) : Segment fatfs :=
  match fdBeginOp kind files.table fd with
  | none => finish files fsStatusInvalidFd none
  | some (handle, table) => rest (objectOf handle) { files with table }

/-- Go on after the end of an operation. -/
def endOp (files : FatFiles fatfs) (fd : UInt64T) (rest : FatFiles fatfs → Segment fatfs) :
    Segment fatfs :=
  asserting files ((fdEndOp files.table fd).map fun table => { files with table }) rest

/-- A new table, where the operation that computes it has not failed. -/
def FatFiles.setTable (files : FatFiles fatfs) (table : Option OfTable) : FatFiles fatfs :=
  { files with table := table.getD files.table }

/-- The status of a call that either succeeds or fails. -/
def statusOf (result : FResult) : UInt64T :=
  if result = .ok then fsStatusSuccess else fsStatusError

theorem statusOf_eq_success_iff {result : FResult} :
    statusOf result = fsStatusSuccess ↔ result = .ok := by
  unfold statusOf
  split
  · rename_i succeeded
    exact iff_of_true rfl succeeded
  · rename_i failed
    exact iff_of_false (by decide) failed

/-! ### Rules for the parts -/

section Rules

variable {Holds : Segment fatfs → Prop} {files : FatFiles fatfs}

theorem asserting_rule {next : Option (FatFiles fatfs)} {rest : FatFiles fatfs → Segment fatfs}
    (failed : next = none → Holds (failAssertion files))
    (passed : ∀ after, next = some after → Holds (rest after)) :
    Holds (asserting files next rest) := by
  unfold asserting
  split
  · exact failed rfl
  · exact passed _ rfl

theorem endOp_rule {fd : UInt64T} {rest : FatFiles fatfs → Segment fatfs}
    (failed : Holds (failAssertion files))
    (ended : ∀ table, fdEndOp files.table fd = some table → Holds (rest { files with table })) :
    Holds (endOp files fd rest) := by
  refine asserting_rule (fun _ => failed) fun after passed => ?_
  obtain ⟨table, done, rfl⟩ := Option.map_eq_some_iff.mp passed
  exact ended table done

theorem withOp_rule {kind : OfKind} {fd : UInt64T}
    {rest : Fin maxOpenFiles → FatFiles fatfs → Segment fatfs}
    (invalid : Holds (finish files fsStatusInvalidFd none))
    (begun : ∀ handle table, fdBeginOp kind files.table fd = some (handle, table) →
      Holds (rest (objectOf handle) { files with table })) :
    Holds (withOp kind files fd rest) := by
  unfold withOp
  split
  · exact invalid
  · rename_i begins
    exact begun _ _ begins

theorem withPath_rule {declared : Nat} {buf : FsBuffer} {failed : UInt64T}
    {rest : List UInt8T → Segment fatfs}
    (rejected : Holds (finish files failed none))
    (copied : ∀ path, fsCopyClientPath files.share fatFsDataRegionSize buf = some path → Holds
        { rest path with
          accesses := buf.range :: (rest path).accesses
          pathWrites := { declared, written := path.length } :: (rest path).pathWrites }) :
    Holds (withPath files declared buf failed rest) := by
  unfold withPath
  split
  · exact rejected
  · rename_i copies
    exact copied _ copies

end Rules

/-! ### Open flags -/

/-- `FA_READ` is 1, `FA_WRITE` is 2, `FA_OPEN_ALWAYS` is 16 and `FA_OPEN_EXISTING` is 0. -/
def mapFsFlagsToFatFlags (fsFlags : UInt64T) : UInt8T :=
  let access : UInt8T :=
    if fsFlags &&& 3 = 0 then 1 else if fsFlags &&& 3 = 1 then 2
    else if fsFlags &&& 3 = 2 then 3 else 0
  let create : UInt8T := if fsFlags &&& 4 = 0 then 0 else 16
  access ||| create

/-! ### What a client is told of a file -/

/-- `sizeof(fs_stat_t)`, which is of 17 words. -/
def fsStatSize : Nat := 136

/-- The permissions and the kind of a file with these attributes. -/
def statMode (fattrib : UInt8T) : UInt64T :=
  if fattrib &&& 0x10 = 0 then
    if fattrib &&& 0x01 = 0 then 0o777 ||| 0o100000 else 0o555 ||| 0o100000
  else 0o777 ||| 0o040000

/-- The words of `fs_stat_t`. -/
def statWords (info : FilInfo) (ssize : UInt16T) : List UInt64T :=
  [0, 0, statMode info.fattrib, 0, 0, 0, 0, info.fsize, ssize.setWidth 64, 0,
    info.ftime.setWidth 64, info.ftime.setWidth 64, info.ftime.setWidth 64, 0, 0, 0, 0]

/-- Write bytes to the share. -/
def FatFiles.writeShare (files : FatFiles fatfs) (start : Nat) (bytes : List UInt8T) :
    FatFiles fatfs :=
  { files with
    share := Bytes.copy files.share ⟨start, bytes.length⟩ (fun index => bytes[index]?.getD 0) 0 }

/-- The bytes of words, each from the least significant on. -/
def wordBytes (words : List UInt64T) : List UInt8T :=
  words.flatMap fun word => (List.range 8).map fun byte => word.extractLsb' (8 * byte) 8

/-! ### First segments -/

def handleInitialise (files : FatFiles fatfs) : Segment fatfs :=
  if files.fsInitialised then finish files fsStatusError none
  else inCall { files with fsInitialised := true } .fMount .mounting

def handleDeinitialise (files : FatFiles fatfs) : Segment fatfs :=
  if files.fsInitialised then inCall files .fUnmount .unmounting
  else finish files fsStatusError none

def handleFileOpen (params : CmdParams) (files : FatFiles fatfs) : Segment fatfs :=
  let openflag := paramWord params 2
  withPath files (fsMaxNameLength + 1) (paramBuffer params 0) fsStatusError fun filepath =>
    match fileAlloc files with
    | none => finish files fsStatusTooManyOpenFiles none
    | some (file, files) =>
      inCall files (.fOpen file filepath (mapFsFlagsToFatFlags openflag)) (.opening file)

def handleFileWrite (params : CmdParams) (files : FatFiles fatfs) : Segment fatfs :=
  let fd := paramWord params 0
  let offset := paramWord params 1
  let buffer := paramBuffer params 2
  match fsGetClientBuffer fatFsDataRegionSize buffer with
  | none => finish files fsStatusInvalidBuffer (some 0)
  | some data => withOp .file files fd fun file files =>
    inCall files (.fLseek file offset) (.writeSeeking fd file data buffer.size)

def handleFileRead (params : CmdParams) (files : FatFiles fatfs) : Segment fatfs :=
  let fd := paramWord params 0
  let offset := paramWord params 1
  let buffer := paramBuffer params 2
  match fsGetClientBuffer fatFsDataRegionSize buffer with
  | none => finish files fsStatusInvalidBuffer (some 0)
  | some data => withOp .file files fd fun file files =>
    inCall files (.fLseek file offset) (.readSeeking fd file data buffer.size)

/-- Begin to close what a descriptor refers to. -/
def handleClose (kind : OfKind) (params : CmdParams) (files : FatFiles fatfs)
    (call : UInt64T → Fin maxOpenFiles → FatFsCall × HandlerStage) : Segment fatfs :=
  let fd := paramWord params 0
  withOp kind files fd fun object files => endOp files fd fun files =>
    match fdUnset files.table fd with
    | none => finish files fsStatusOutstandingOperations none
    | some table => inCall { files with table } (call fd object).1 (call fd object).2

def handleFileClose (params : CmdParams) (files : FatFiles fatfs) : Segment fatfs :=
  handleClose .file params files fun fd file => (.fClose file, .closing fd file)

def handleStat (params : CmdParams) (files : FatFiles fatfs) : Segment fatfs :=
  let outputBuffer := paramBuffer params 2
  match fsGetClientBuffer fatFsDataRegionSize outputBuffer with
  | none => finish files fsStatusInvalidBuffer none
  | some fileStat =>
    if outputBuffer.size.toNat < fsStatSize then finish files fsStatusInvalidBuffer none
    else
      withPath files (fsMaxPathLength + 1) (paramBuffer params 0) fsStatusInvalidPath fun filepath =>
      inCall files (.fStat filepath) (.statting fileStat)

def handleFileSize (params : CmdParams) (files : FatFiles fatfs) : Segment fatfs :=
  let fd := paramWord params 0
  withOp .file files fd fun file files =>
    let size := fatfs.fSize files.volume file
    endOp files fd fun files => finish files fsStatusSuccess (some size)

def handleRename (params : CmdParams) (files : FatFiles fatfs) : Segment fatfs :=
  withPath files (fsMaxPathLength + 1) (paramBuffer params 0) fsStatusInvalidPath fun oldpath =>
    withPath files (fsMaxPathLength + 1) (paramBuffer params 2) fsStatusInvalidPath fun newpath =>
      inCall files (.fRename oldpath newpath) .renamingPath

def handleFileRemove (params : CmdParams) (files : FatFiles fatfs) : Segment fatfs :=
  withPath files (fsMaxPathLength + 1) (paramBuffer params 0) fsStatusInvalidPath fun dirpath =>
    inCall files (.fUnlink dirpath) .removing

def handleFileTruncate (params : CmdParams) (files : FatFiles fatfs) : Segment fatfs :=
  let fd := paramWord params 0
  let len := paramWord params 1
  withOp .file files fd fun file files =>
    inCall files (.fLseek file len) (.truncateSeeking fd file)

def handleDirCreate (params : CmdParams) (files : FatFiles fatfs) : Segment fatfs :=
  withPath files (fsMaxPathLength + 1) (paramBuffer params 0) fsStatusInvalidPath fun dirpath =>
    inCall files (.fMkdir dirpath) .creatingDir

def handleDirRemove (params : CmdParams) (files : FatFiles fatfs) : Segment fatfs :=
  withPath files (fsMaxPathLength + 1) (paramBuffer params 0) fsStatusInvalidPath fun dirpath =>
    inCall files (.fRmdir dirpath) .removingDir

def handleDirOpen (params : CmdParams) (files : FatFiles fatfs) : Segment fatfs :=
  withPath files (fsMaxPathLength + 1) (paramBuffer params 0) fsStatusInvalidPath fun dirpath =>
    match dirAlloc files with
    | none => finish files fsStatusTooManyOpenFiles none
    | some (dir, files) => inCall files (.fOpendir dir dirpath) (.openingDir dir)

def handleDirRead (params : CmdParams) (files : FatFiles fatfs) : Segment fatfs :=
  let fd := paramWord params 0
  let buffer := paramBuffer params 1
  match fsGetClientBuffer fatFsDataRegionSize buffer with
  | none => finish files fsStatusInvalidBuffer none
  | some name => withOp .dir files fd fun dir files =>
    inCall files (.fReaddir dir false) (.readingDir fd name buffer.size)

def handleDirTell (params : CmdParams) (files : FatFiles fatfs) : Segment fatfs :=
  let fd := paramWord params 0
  withOp .dir files fd fun dir files =>
    let offset := fatfs.fTelldir files.volume dir
    endOp files fd fun files => finish files fsStatusSuccess (some (offset.setWidth 64))

def handleDirRewind (params : CmdParams) (files : FatFiles fatfs) : Segment fatfs :=
  let fd := paramWord params 0
  withOp .dir files fd fun dir files => inCall files (.fReaddir dir true) (.rewinding fd)

def handleFileSync (params : CmdParams) (files : FatFiles fatfs) : Segment fatfs :=
  let fd := paramWord params 0
  withOp .file files fd fun file files => inCall files (.fSync file) (.syncing fd)

def handleDirClose (params : CmdParams) (files : FatFiles fatfs) : Segment fatfs :=
  handleClose .dir params files fun fd dir => (.fClosedir dir, .closingDir fd dir)

def handleDirSeek (params : CmdParams) (files : FatFiles fatfs) : Segment fatfs :=
  let fd := paramWord params 0
  let loc := (paramWord params 1).toInt
  withOp .dir files fd fun dir files =>
    inCall files (.fReaddir dir true) (.seekingDir fd dir loc 0)

/-- The table of handlers. -/
def operationFunctions (type : CmdType) (params : CmdParams) (files : FatFiles fatfs) :
    Segment fatfs :=
  match type with
  | .initialise => handleInitialise files
  | .deinitialise => handleDeinitialise files
  | .fileOpen => handleFileOpen params files
  | .fileClose => handleFileClose params files
  | .stat => handleStat params files
  | .fileRead => handleFileRead params files
  | .fileWrite => handleFileWrite params files
  | .fileSize => handleFileSize params files
  | .rename => handleRename params files
  | .fileRemove => handleFileRemove params files
  | .fileTruncate => handleFileTruncate params files
  | .dirCreate => handleDirCreate params files
  | .dirRemove => handleDirRemove params files
  | .dirOpen => handleDirOpen params files
  | .dirClose => handleDirClose params files
  | .fileSync => handleFileSync params files
  | .dirRead => handleDirRead params files
  | .dirSeek => handleDirSeek params files
  | .dirTell => handleDirTell params files
  | .dirRewind => handleDirRewind params files

/-! ### What follows a call of FatFs -/

/-- A new descriptor for an object that FatFs has opened. -/
def setNewFd (files : FatFiles fatfs) (set : OfTable → UInt64T → Option OfTable) : Segment fatfs :=
  match fdAlloc files.table with
  | none => failAssertion files
  | some (fd, table) =>
    finish { files with table := (set table fd).getD table } fsStatusSuccess (some fd)

/-- What a handler does when a call of FatFs has returned. -/
def resume (files : FatFiles fatfs) (reply : FatFsReply) : HandlerStage → Segment fatfs
  | .mounting =>
    finish { files with fsInitialised := decide (reply.result = .ok) && files.fsInitialised }
      (statusOf reply.result) none
  | .unmounting =>
    finish { files with fsInitialised := decide (reply.result ≠ .ok) && files.fsInitialised }
      (statusOf reply.result) none
  | .opening file =>
    if reply.result = .ok then setNewFd files fun table fd => fdSetFile table fd (handleOf file)
    else asserting files (fileFree files file) fun files =>
      finish files
        (if reply.result = .noFile then fsStatusNoFile
          else if reply.result = .invalidName then fsStatusInvalidName else fsStatusError) none
  | .writeSeeking fd file data btw =>
    if reply.result = .ok then
      inCall files (.fWrite file data (btw.setWidth 32)) (.writing fd)
    else endOp files fd fun files => finish files fsStatusError (some 0)
  | .writing fd => endOp files fd fun files =>
    finish files (statusOf reply.result) (some (reply.count.setWidth 64))
  | .readSeeking fd file data btr =>
    if reply.result = .ok then inCall files (.fRead file data (btr.setWidth 32)) (.reading fd)
    else endOp files fd fun files => finish files fsStatusError (some 0)
  | .reading fd => endOp files fd fun files =>
    finish files (statusOf reply.result) (some (reply.count.setWidth 64))
  | .closing fd file =>
    if reply.result = .ok then asserting files (fileFree files file) fun files =>
      finish (files.setTable (fdFree files.table fd)) fsStatusSuccess none
    else finish (files.setTable (fdSetFile files.table fd (handleOf file))) fsStatusError none
  | .statting fileStat =>
    if reply.result = .ok then
      let stat := wordBytes (statWords reply.info (fatfs.ssize files.volume))
      { finish (files.writeShare fileStat.toNat stat) fsStatusSuccess none with
        accesses := [⟨fileStat.toNat, fsStatSize⟩] }
    else finish files
      (if reply.result = .noFile then fsStatusNoFile
        else if reply.result = .invalidName then fsStatusInvalidName else fsStatusError) none
  | .renamingPath => finish files (statusOf reply.result) none
  | .removing =>
    finish files (if reply.result = .noFile then fsStatusNoFile else statusOf reply.result) none
  | .truncateSeeking fd file =>
    if reply.result = .ok then inCall files (.fTruncate file) (.truncating fd)
    else endOp files fd fun files => finish files fsStatusError none
  | .truncating fd => endOp files fd fun files => finish files (statusOf reply.result) none
  | .creatingDir =>
    finish files (if reply.result = .exist then fsStatusAlreadyExists else statusOf reply.result)
      none
  | .removingDir =>
    finish files (if reply.result = .denied then fsStatusNotEmpty else statusOf reply.result) none
  | .openingDir dir =>
    if reply.result = .ok then setNewFd files fun table fd => fdSetDir table fd (handleOf dir)
    else asserting files (dirFree files dir) fun files =>
      finish files
        (if reply.result = .noFile ∨ reply.result = .noPath then fsStatusNotDirectory
          else fsStatusError) none
  | .readingDir fd name size =>
    let len := reply.info.fname.length
    if reply.result = .ok ∧ len ≤ size.toNat then
      let segment := endOp (files.writeShare name.toNat reply.info.fname) fd fun files =>
        -- The status that means the end of a directory is not `FR_OK`, and so becomes an error.
        finish files (if reply.info.fname = [] then fsStatusError else fsStatusSuccess)
          (some (BitVec.ofNat 64 len))
      { segment with accesses := ⟨name.toNat, len⟩ :: segment.accesses }
    else endOp files fd fun files => finish files fsStatusError none
  | .rewinding fd => endOp files fd fun files => finish files (statusOf reply.result) none
  | .syncing fd => endOp files fd fun files => finish files (statusOf reply.result) none
  | .closingDir fd dir =>
    if reply.result = .ok then
      asserting files (dirFree (files.setTable (fdFree files.table fd)) dir) fun files =>
        finish files fsStatusSuccess none
    else finish files fsStatusError none
  | .seekingDir fd dir loc passed =>
    if passed < loc ∧ reply.result = .ok then
      inCall files (.fReaddir dir false) (.seekingDir fd dir loc (passed + 1))
    else endOp files fd fun files => finish files (statusOf reply.result) none

end LionsOS.Fat

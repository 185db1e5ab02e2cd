/-
This file embeds the command handlers and the callbacks of the NFS server, of its
`op.c`. A handler either replies before it returns or submits an asynchronous
call to libnfs, with a continuation that the callback of this call finds again.
The library itself is not part of the repository: what it returns at once comes
with each command, and what it passes to a callback comes with the callback. An
open file or directory is represented by the handle that libnfs gave it.
-/

import LionsOS.Fs.ClientShare
import LionsOS.Fs.Fd

namespace LionsOS.Nfs

open LionsOS.Fs

/-! ### The library -/

/-- The flags of `fcntl.h` that an open may ask for. -/
structure PosixFlags where
  wronly : Bool
  rdwr : Bool
  creat : Bool
  deriving DecidableEq

/-- The asynchronous calls, each with its callback fixed. -/
inductive NfsCall where
  | mount
  | stat (path : List UInt8T)
  | fstat (file : UInt64T)
  | open2 (path : List UInt8T) (flags : PosixFlags)
  | close (file : UInt64T)
  | pread (file buf count offset : UInt64T)
  | pwrite (file buf count offset : UInt64T)
  | rename (oldPath newPath : List UInt8T)
  | unlink (path : List UInt8T)
  | fsync (file : UInt64T)
  | ftruncate (file length : UInt64T)
  | mkdir (path : List UInt8T)
  | rmdir (path : List UInt8T)
  | opendir (path : List UInt8T)
  deriving DecidableEq

/-- The bytes of the share that a call is given. -/
def NfsCall.shareRanges : NfsCall → List Bytes.Range
  | .pread _ buf count _ | .pwrite _ buf count _ => [⟨buf.toNat, count.toNat⟩]
  | _ => []

/-- What libnfs returns while a command is handled. -/
structure NfsAnswer where
  /-- Whether `nfs_init_context` succeeds. -/
  context : Bool
  /-- Whether an asynchronous call is accepted. -/
  submitted : Bool
  /-- The name that `nfs_readdir` finds, unless it is at the end. -/
  dirent : Option (List UInt8T)
  /-- What `nfs_telldir` returns. -/
  location : UInt64T

/-- What libnfs passes to a callback: a status, and in its data a handle or the attributes of a
file. -/
structure NfsReply where
  status : Int
  handle : UInt64T
  size : UInt64T
  stat : Fin 136 → UInt8T

/-! ### State -/

def maxConcurrentOps : Nat := fsQueueCapacity

structure Continuation where
  requestId : UInt64T
  data : Fin 4 → UInt64T
  nextFree : Option (Fin maxConcurrentOps)

structure NfsServer where
  /-- Whether there is a context. -/
  nfs : Bool
  table : OfTable
  /-- The bytes of the array of both path buffers. -/
  pathBuffer : Nat → UInt8T
  continuationPool : Fin maxConcurrentOps → Continuation
  firstFreeCont : Option (Fin maxConcurrentOps)
  fsCommandQueue : FsQueue FsCmd
  fsCompletionQueue : FsQueue FsCmpl
  share : Nat → UInt8T

/-- The assertions that can fail, and the use of a null pointer. -/
inductive NfsFailure where
  | noContinuation
  | completionQueueFull
  | continuationNotTaken
  | noOperation
  | longName
  | nullContinuation
  deriving DecidableEq

/-- How a handler or a callback ends. -/
inductive NfsProgress where
  | submitted (call : NfsCall) (cont : Fin maxConcurrentOps)
  | replied (cmpl : FsCmpl)
  | silent
  | failed (failure : NfsFailure)

/-- What a handler or a callback does, with the bytes of the share that it accesses itself and the
paths that it copies. -/
structure Outcome where
  accesses : List Bytes.Range
  pathWrites : List PathWrite := []
  server : NfsServer
  progress : NfsProgress

/-- The bytes of the share that a handler or a callback accesses itself or gives to the call that it
submits. -/
def Outcome.ranges (outcome : Outcome) : List Bytes.Range :=
  match outcome.progress with
  | .submitted call _ => outcome.accesses ++ call.shareRanges
  | _ => outcome.accesses

/-! ### Continuations -/

/-- The first free continuation, taken from the list. -/
def continuationAlloc (server : NfsServer) : Option (Fin maxConcurrentOps × NfsServer) :=
  server.firstFreeCont.map fun cont =>
    (cont, { server with
      firstFreeCont := (server.continuationPool cont).nextFree
      continuationPool := Function.update server.continuationPool cont
        { server.continuationPool cont with nextFree := none } })

/-- `none` when the assertion that the continuation is not in the list fails. -/
def continuationFree (server : NfsServer) (cont : Fin maxConcurrentOps) : Option NfsServer :=
  if (server.continuationPool cont).nextFree = none then
    some { server with
      continuationPool := Function.update server.continuationPool cont
        { server.continuationPool cont with nextFree := server.firstFreeCont }
      firstFreeCont := some cont }
  else none

/-! ### Parts of handlers -/

def fail (server : NfsServer) (failure : NfsFailure) : Outcome :=
  { accesses := [], server, progress := .failed failure }

def reply (server : NfsServer) (cmpl : FsCmpl) : Outcome :=
  if (fsQueueLengthProducer server.fsCompletionQueue).toNat = fsQueueCapacity then
    fail server .completionQueueFull
  else
    { accesses := []
      server := { server with
        fsCompletionQueue := fsQueuePublishProduction
          (server.fsCompletionQueue.write (fsQueueIdxEmpty server.fsCompletionQueue 0) cmpl) 1 }
      progress := .replied cmpl }

/-- The completion of a command with this status and nothing else. -/
def cmplOf (id status : UInt64T) : FsCmpl :=
  { id, status, data := 0 }

def clientShareSize : UInt64T := 0x4000000

/-- Copy a path to one of the buffers. The array has two bytes to a row, so these overlap. -/
def NfsServer.writePath (server : NfsServer) (slot : Fin 2) (path : List UInt8T) : NfsServer :=
  { server with
    pathBuffer := Bytes.copy server.pathBuffer ⟨2 * slot, path.length⟩
      (fun index => path[index]?.getD 0) 0 }

/-- The path in a buffer, as libnfs reads it. -/
def NfsServer.pathIn (server : NfsServer) (slot : Fin 2) : List UInt8T :=
  (bytesAt server.pathBuffer ⟨2 * slot, 2 * (fsMaxPathLength + 1) - 2 * slot⟩).takeWhile (· ≠ 0)

/-- The declared size of each path buffer, which is a row of the array. -/
def pathBufferSize : Nat := 2

/-- Go on with a path copied from the client, or reply that it is invalid. -/
def withPath (server : NfsServer) (id : UInt64T) (slot : Fin 2) (buf : FsBuffer)
    (rest : NfsServer → Outcome) : Outcome :=
  match fsCopyClientPath server.share clientShareSize buf with
  | none => reply server (cmplOf id fsStatusInvalidPath)
  | some path =>
    let outcome := rest (server.writePath slot path)
    { outcome with
      accesses := buf.range :: outcome.accesses
      pathWrites := { declared := pathBufferSize, written := path.length } :: outcome.pathWrites }

/-- Go on with a checked buffer that is long enough, or reply that it is invalid. -/
def withBuffer (server : NfsServer) (id : UInt64T) (buf : FsBuffer) (least : Nat)
    (rest : UInt64T → Outcome) : Outcome :=
  match fsGetClientBuffer clientShareSize buf with
  | none => reply server (cmplOf id fsStatusInvalidBuffer)
  | some data =>
    if buf.size.toNat < least then reply server (cmplOf id fsStatusInvalidBuffer) else rest data

/-- Go on with an operation begun on a descriptor, or reply that it is invalid. -/
def withOp (kind : OfKind) (server : NfsServer) (id fd : UInt64T)
    (rest : UInt64T → NfsServer → Outcome) : Outcome :=
  match fdBeginOp kind server.table fd with
  | none => reply server (cmplOf id fsStatusInvalidFd)
  | some (handle, table) => rest handle { server with table }

/-- Go on after the end of an operation. -/
def endOp (server : NfsServer) (fd : UInt64T) (rest : NfsServer → Outcome) : Outcome :=
  match fdEndOp server.table fd with
  | none => fail server .noOperation
  | some table => rest { server with table }

/-- A new table, where the operation that computes it has not failed. -/
def NfsServer.setTable (server : NfsServer) (table : Option OfTable) : NfsServer :=
  { server with table := table.getD server.table }

/-- Go on with a continuation for a request, whose first data are stored in it. -/
def withContinuation (server : NfsServer) (id : UInt64T) (data : List UInt64T)
    (rest : Fin maxConcurrentOps → NfsServer → Outcome) : Outcome :=
  match continuationAlloc server with
  | none => fail server .noContinuation
  | some (cont, server) =>
    rest cont { server with
      continuationPool := Function.update server.continuationPool cont
        { server.continuationPool cont with
          requestId := id
          data := fun index => data[index]?.getD ((server.continuationPool cont).data index) } }

/-- Go on after a continuation has been put back. -/
def freeContinuation (server : NfsServer) (cont : Fin maxConcurrentOps)
    (rest : NfsServer → Outcome) : Outcome :=
  match continuationFree server cont with
  | none => fail server .continuationNotTaken
  | some server => rest server

/-- Submit a call, or put the continuation back and go on. -/
def submit (server : NfsServer) (answer : NfsAnswer) (cont : Fin maxConcurrentOps) (call : NfsCall)
    (rest : NfsServer → Outcome) : Outcome :=
  if answer.submitted then { accesses := [], server, progress := .submitted call cont }
  else freeContinuation server cont rest

/-- Submit a call with a continuation of its own; where it is refused, undo and reply. -/
def submitWith (server : NfsServer) (answer : NfsAnswer) (id : UInt64T) (data : List UInt64T)
    (call : NfsCall) (undo : NfsServer → (NfsServer → Outcome) → Outcome) : Outcome :=
  withContinuation server id data fun cont server => submit server answer cont call fun server =>
    undo server fun server => reply server (cmplOf id fsStatusError)

/-- Nothing needs to be undone. -/
def nothing (server : NfsServer) (rest : NfsServer → Outcome) : Outcome :=
  rest server

/-- The operation on a descriptor is ended. -/
def endingOp (fd : UInt64T) (server : NfsServer) (rest : NfsServer → Outcome) : Outcome :=
  endOp server fd rest

/-! ### Handlers -/

section Handlers

variable (server : NfsServer) (answer : NfsAnswer) (id : UInt64T) (params : CmdParams)

def handleInitialise : Outcome :=
  if server.nfs then reply server (cmplOf id fsStatusError)
  else if answer.context then
    submitWith { server with nfs := true } answer id [] .mount nothing
  else reply server (cmplOf id fsStatusError)

/-- The command is taken and nothing is done. -/
def handleDeinitialise : Outcome :=
  { accesses := [], server, progress := .silent }

def handleStat : Outcome :=
  let buf := paramBuffer params 2
  withPath server id 0 (paramBuffer params 0) fun server =>
    withBuffer server id buf 136 fun data =>
      submitWith server answer id [data] (.stat (server.pathIn 0)) nothing

/-- Submit a call on an open file, in an operation that the callback ends. -/
def fileCall (fd : UInt64T) (data : List UInt64T) (call : UInt64T → NfsCall) : Outcome :=
  withOp .file server id fd fun file server =>
    submitWith server answer id (fd :: data) (call file) (endingOp fd)

def handleFileSize : Outcome :=
  fileCall server answer id (paramWord params 0) [] .fstat

def handleFileSync : Outcome :=
  fileCall server answer id (paramWord params 0) [] .fsync

def handleFileTruncate : Outcome :=
  fileCall server answer id (paramWord params 0) [] fun file => .ftruncate file (paramWord params 1)

def handleFileRead : Outcome :=
  let buf := paramBuffer params 2
  withBuffer server id buf 0 fun data =>
    fileCall server answer id (paramWord params 0) [data] fun file =>
      .pread file data buf.size (paramWord params 1)

def handleFileWrite : Outcome :=
  let buf := paramBuffer params 2
  withBuffer server id buf 0 fun data =>
    fileCall server answer id (paramWord params 0) [] fun file =>
      .pwrite file data buf.size (paramWord params 1)

/-- Submit a call on a path, for an object that gets a new descriptor. -/
def openCall (call : List UInt8T → NfsCall) : Outcome :=
  withPath server id 0 (paramBuffer params 0) fun server =>
    match fdAlloc server.table with
    | none => reply server (cmplOf id fsStatusAllocationError)
    | some (fd, table) =>
      let server := { server with table }
      submitWith server answer id [fd] (call (server.pathIn 0)) fun server rest =>
        rest (server.setTable (fdFree server.table fd))

/-- The flags for libnfs; no bit stands for reading only. -/
def posixFlags (flags : UInt64T) : PosixFlags where
  wronly := flags &&& 1 ≠ 0
  rdwr := flags &&& 2 ≠ 0
  creat := flags &&& 4 ≠ 0

def handleFileOpen : Outcome :=
  openCall server answer id params fun path => .open2 path (posixFlags (paramWord params 2))

def handleDirOpen : Outcome :=
  openCall server answer id params .opendir

/-- Take what a descriptor refers to away from it, in order to close it. -/
def withUnset (kind : OfKind) (fd : UInt64T) (rest : UInt64T → NfsServer → Outcome) : Outcome :=
  withOp kind server id fd fun handle server => endOp server fd fun server =>
    match fdUnset server.table fd with
    | none => reply server (cmplOf id fsStatusOutstandingOperations)
    | some table => rest handle { server with table }

def handleFileClose : Outcome :=
  let fd := paramWord params 0
  withUnset server id .file fd fun file server =>
    submitWith server answer id [fd, file] (.close file) fun server rest =>
      rest (server.setTable (fdSetFile server.table fd file))

def handleDirClose : Outcome :=
  let fd := paramWord params 0
  withUnset server id .dir fd fun _ server =>
    reply (server.setTable (fdFree server.table fd)) (cmplOf id fsStatusSuccess)

/-- The source copies the old path to both buffers. -/
def handleRename : Outcome :=
  withPath server id 0 (paramBuffer params 0) fun server =>
    withPath server id 1 (paramBuffer params 0) fun server =>
      submitWith server answer id [] (.rename (server.pathIn 0) (server.pathIn 1)) nothing

/-- Submit a call on a path. -/
def pathCall (call : List UInt8T → NfsCall) : Outcome :=
  withPath server id 0 (paramBuffer params 0) fun server =>
    submitWith server answer id [] (call (server.pathIn 0)) nothing

def handleFileRemove : Outcome :=
  pathCall server answer id params .unlink

def handleDirCreate : Outcome :=
  pathCall server answer id params .mkdir

def handleDirRemove : Outcome :=
  pathCall server answer id params .rmdir

def handleDirRead : Outcome :=
  let fd := paramWord params 0
  withBuffer server id (paramBuffer params 1) fsMaxNameLength fun buf =>
    withOp .dir server id fd fun _ server =>
      match answer.dirent with
      | none => endOp server fd fun server => reply server (cmplOf id fsStatusEndOfDirectory)
      | some name =>
        if fsMaxNameLength < name.length then fail server .longName
        else
          let range : Bytes.Range := ⟨buf.toNat, name.length⟩
          let written := { server with
            share := Bytes.copy server.share range (fun index => name[index]?.getD 0) 0 }
          let outcome := endOp written fd fun server =>
            reply server { id, status := fsStatusSuccess, data := BitVec.ofNat 64 name.length }
          { outcome with accesses := range :: outcome.accesses }

/-- Have libnfs move or tell the position of a directory, which it does at once. -/
def dirCall (data : UInt64T) : Outcome :=
  let fd := paramWord params 0
  withOp .dir server id fd fun _ server => endOp server fd fun server =>
    reply server { id, status := fsStatusSuccess, data }

def handleDirSeek : Outcome :=
  dirCall server id params 0

def handleDirTell : Outcome :=
  dirCall server id params answer.location

def handleDirRewind : Outcome :=
  dirCall server id params 0

/-- The table of handlers. -/
def cmdHandler : CmdType → Outcome
  | .initialise => handleInitialise server answer id
  | .deinitialise => handleDeinitialise server
  | .fileOpen => handleFileOpen server answer id params
  | .fileClose => handleFileClose server answer id params
  | .stat => handleStat server answer id params
  | .fileRead => handleFileRead server answer id params
  | .fileWrite => handleFileWrite server answer id params
  | .fileSize => handleFileSize server answer id params
  | .rename => handleRename server answer id params
  | .fileRemove => handleFileRemove server answer id params
  | .fileTruncate => handleFileTruncate server answer id params
  | .dirCreate => handleDirCreate server answer id params
  | .dirRemove => handleDirRemove server answer id params
  | .dirOpen => handleDirOpen server answer id params
  | .dirClose => handleDirClose server id params
  | .fileSync => handleFileSync server answer id params
  | .dirRead => handleDirRead server answer id params
  | .dirSeek => handleDirSeek server id params
  | .dirTell => handleDirTell server answer id params
  | .dirRewind => handleDirRewind server id params

end Handlers

/-! ### Callbacks -/

section Callbacks

variable (server : NfsServer) (cont : Fin maxConcurrentOps) (answer : NfsReply)

/-- Put the continuation back and reply to its request. -/
def freeAndReply (status data : UInt64T) : Outcome :=
  let id := (server.continuationPool cont).requestId
  freeContinuation server cont fun server => reply server { id, status, data }

/-- The status where any other than zero is a failure. -/
def statusOf (answer : NfsReply) : UInt64T :=
  if answer.status = 0 then fsStatusSuccess else fsStatusError

/-- The callback of mounting, renaming, removing a file and creating a directory. -/
def plainCb : Outcome :=
  freeAndReply server cont (statusOf answer) 0

def statCb : Outcome :=
  let buf := (server.continuationPool cont).data 0
  if answer.status = 0 then
    let range : Bytes.Range := ⟨buf.toNat, 136⟩
    let written := { server with
      share := Bytes.copy server.share range
        (fun index => if inside : index < 136 then answer.stat ⟨index, inside⟩ else 0) 0 }
    let outcome := freeAndReply written cont fsStatusSuccess 0
    { outcome with accesses := range :: outcome.accesses }
  else freeAndReply server cont fsStatusError 0

/-- End the operation of a request and reply to it. -/
def endAndReply (status data : UInt64T) : Outcome :=
  endOp server ((server.continuationPool cont).data 0) fun server =>
    freeAndReply server cont status data

def fileSizeCb : Outcome :=
  endAndReply server cont (statusOf answer) (if answer.status = 0 then answer.size else 0)

/-- The callback of reading and writing, whose status is a length unless it is negative. -/
def transferCb : Outcome :=
  if 0 ≤ answer.status then
    endAndReply server cont fsStatusSuccess (BitVec.ofInt 64 answer.status)
  else endAndReply server cont fsStatusError 0

/-- The callback of synchronising and truncating. -/
def plainOpCb : Outcome :=
  endAndReply server cont (statusOf answer) 0

/-- The callback of opening: the new descriptor refers to the handle, or is freed. -/
def openCb (set : OfTable → UInt64T → UInt64T → Option OfTable) : Outcome :=
  let fd := (server.continuationPool cont).data 0
  if answer.status = 0 then
    freeAndReply (server.setTable (set server.table fd answer.handle)) cont fsStatusSuccess fd
  else freeAndReply (server.setTable (fdFree server.table fd)) cont fsStatusError 0

def fileCloseCb : Outcome :=
  let fd := (server.continuationPool cont).data 0
  let file := (server.continuationPool cont).data 1
  if answer.status = 0 then
    freeAndReply (server.setTable (fdFree server.table fd)) cont fsStatusSuccess 0
  else freeAndReply (server.setTable (fdSetFile server.table fd file)) cont fsStatusError 0

/-- The source takes another continuation instead of the one it is given. -/
def dirRemoveCb : Outcome :=
  match continuationAlloc server with
  | none => fail server .nullContinuation
  | some (cont, server) => freeAndReply server cont (statusOf answer) 0

/-- What libnfs calls when a call is done. -/
def callback : NfsCall → Outcome
  | .mount | .rename _ _ | .unlink _ | .mkdir _ => plainCb server cont answer
  | .stat _ => statCb server cont answer
  | .fstat _ => fileSizeCb server cont answer
  | .open2 _ _ => openCb server cont answer fdSetFile
  | .opendir _ => openCb server cont answer fdSetDir
  | .close _ => fileCloseCb server cont answer
  | .pread _ _ _ _ | .pwrite _ _ _ _ => transferCb server cont answer
  | .fsync _ | .ftruncate _ _ => plainOpCb server cont answer
  | .rmdir _ => dirRemoveCb server answer

end Callbacks

end LionsOS.Nfs

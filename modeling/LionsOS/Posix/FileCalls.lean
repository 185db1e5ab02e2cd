/-
This file embeds the calls of `file.c`: the functions that the entry of a file points
to, and the system calls on paths and positions, in the order in which they take
buffers and descriptors, ask the file server and give back what they have taken. An
assertion that fails has no outcome.
-/

import LionsOS.Posix.FileClient

open Function

namespace LionsOS.Posix

open Bytes FileErrno
open Fs (fsStatusSuccess)

/-- What the local variables of a call hold before anything is stored in them. -/
structure Locals where
  completion : Completion
  /-- The completions of the rounds of a loop. -/
  rounds : Nat → Completion
  /-- The completions of the calls of `fstat_int`. -/
  fstatInt : Nat → Completion
  statbuf : Nat → Stat

/-- What a part of a file that fits a buffer, or all of them, come to. -/
inductive Transfer (Server : Type) (maxFds : Nat) where
  | failed (result : Int) (client : FileClient Server maxFds)
  | moved (count : UInt64T) (client : FileClient Server maxFds)

/-- What the command that opens a file comes to, if it is tried. -/
inductive Opening (Server : Type) (maxFds : Nat) where
  | refused (result : Int) (client : FileClient Server maxFds)
  | asked (fd : Fin maxFds) (fullPath : List UInt8T) (completion : Completion)
      (client : FileClient Server maxFds)

namespace FileClient

variable {Server : Type} {maxFds : Nat} (env : FileEnv Server) (client : FileClient Server maxFds)
  {path : List UInt8T}

/-! ### Reading and writing -/

/-- A round of `file_write`. -/
def writeChunk (fd : Fin maxFds) (buffer : Nat) (completion : Completion) (written : UInt64T)
    (buf toWrite : Nat) : Transfer Server maxFds :=
  let issued := (client.fillBuffer buffer toWrite client.memory buf).fsCommandBlocking env completion
    (.fileWrite (client.serverFd fd) (client.filePtr fd + written) (bufferAt buffer toWrite))
  if issued.err then .failed enomem.result issued.client
  else if issued.completion.status ≠ fsStatusSuccess then
    .failed (env.statusLong issued.completion.status) issued.client
  else .moved issued.completion.data issued.client

/-- A round of `file_read`. -/
def readChunk (fd : Fin maxFds) (buffer : Nat) (completion : Completion) (totalRead : UInt64T)
    (buf toRead : Nat) : Transfer Server maxFds :=
  let issued := client.fsCommandBlocking env completion
    (.fileRead (client.serverFd fd) (client.filePtr fd + totalRead) (bufferAt buffer toRead))
  if issued.err then .failed enomem.result issued.client
  else if issued.completion.status ≠ fsStatusSuccess then
    .failed (env.statusLong issued.completion.status) issued.client
  else
    let currRead := issued.completion.data
    .moved currRead { issued.client with
      memory := copy issued.client.memory ⟨buf, currRead.toNat⟩ issued.client.buffers.share buffer }

/-- The loop of `file_write` and `file_read`: a round for each part that fits a buffer, until one
moves less than it should. -/
def chunkLoop (chunk : FileClient Server maxFds → Completion → UInt64T → Nat → Nat →
    Transfer Server maxFds) (rounds : Nat → Completion) (total : UInt64T) (buf len : Nat)
    (client : FileClient Server maxFds) : Transfer Server maxFds :=
  if len = 0 then .moved total client
  else
    let size := min len Fs.fsBufferSize
    match chunk client (rounds 0) total buf size with
    | .failed result next => .failed result next
    | .moved count next =>
      if count.toNat < size then .moved (total + count) next
      else chunkLoop chunk (fun round => rounds (round + 1)) (total + count) (buf + size)
        (len - size) next
termination_by len
decreasing_by simp only [Fs.fsBufferSize]; omega

/-- What `file_write` and `file_read` have in common. -/
def fileTransfer (chunk : FileClient Server maxFds → Fin maxFds → Nat → Completion → UInt64T →
    Nat → Nat → Transfer Server maxFds) (rounds : Nat → Completion) (buf len : Nat) (fd : Int) :
    Option (Int × FileClient Server maxFds) :=
  if len = 0 then some (0, client)
  else if buf = 0 then some (efault.result, client)
  else
    match client.fds.posixFdEntry fd with
    | none => some (ebadf.result, client)
    | some entry =>
      match client.fsBufferAllocate with
      | none => some (enomem.result, client)
      | some (buffer, allocated) =>
        match chunkLoop (fun client => chunk client entry buffer) rounds 0 buf len allocated with
        | .failed result next => (next.fsBufferFree buffer).map fun freed => (result, freed)
        | .moved total next =>
          (next.fsBufferFree buffer).map fun freed =>
            (total.toInt, freed.setFilePtr entry (freed.filePtr entry + total))

def fileWrite (locals : Locals) (buf len : Nat) (fd : Int) :
    Option (Int × FileClient Server maxFds) :=
  client.fileTransfer (fun client => client.writeChunk env) locals.rounds buf len fd

def fileRead (locals : Locals) (buf len : Nat) (fd : Int) :
    Option (Int × FileClient Server maxFds) :=
  client.fileTransfer (fun client => client.readChunk env) locals.rounds buf len fd

/-! ### Closing and information -/

def posixFdDeallocate (fd : Fin maxFds) : FileClient Server maxFds :=
  { client with fds := client.fds.posixFdDeallocate fd }

/-- The descriptor is released in any case. -/
def fileClose (locals : Locals) (fd : Int) : Int × FileClient Server maxFds :=
  match client.fds.posixFdEntry fd with
  | none => (ebadf.result, client)
  | some entry =>
    let issued := client.fsCommandBlocking env locals.completion
      (if (client.fds.fdTable entry).directory then .dirClose (client.serverFd entry)
        else .fileClose (client.serverFd entry))
    let released := { issued.client with
      fsServerFdMap := update issued.client.fsServerFdMap entry (-1)
      fdPath := update issued.client.fdPath entry [] }
    (env.statusInt issued.completion.status, released.posixFdDeallocate entry)

/-- `statbuf` and `completion` are as they are before the call. -/
def fstatInt (completion : Completion) (path : List UInt8T) (statbuf : Stat) :
    Option (Int × Stat × FileClient Server maxFds) :=
  if path = rootPath then some (0, .root, client)
  else
    match client.fsBufferAllocate with
    | none => some (enomem.result, statbuf, client)
    | some (pathBuffer, first) =>
      match first.fsBufferAllocate with
      | none => (first.fsBufferFree pathBuffer).map fun freed =>
        (enomem.result, statbuf, freed)
      | some (outputBuffer, second) =>
        let issued := (second.fillPath pathBuffer path).fsCommandBlocking env completion
          (.stat (bufferAt pathBuffer path.length) (bufferAt outputBuffer Fs.fsBufferSize))
        (issued.client.fsBufferFree pathBuffer).bind fun answered =>
          if issued.completion.status ≠ fsStatusSuccess then
            (answered.fsBufferFree outputBuffer).map fun freed =>
              (env.statusInt issued.completion.status, statbuf, freed)
          else
            (answered.fsBufferFree outputBuffer).map fun freed =>
              (0, Stat.read answered.buffers.share outputBuffer, freed)

/-- The information goes to the structure of the program. -/
def fstatTo (locals : Locals) (path : List UInt8T) : Option (Int × FileClient Server maxFds) :=
  (client.fstatInt env (locals.fstatInt 0) path client.statbuf).map fun (result, statbuf, next) =>
    (result, { next with statbuf })

def fileFstat (locals : Locals) (fd : Fin maxFds) : Option (Int × FileClient Server maxFds) :=
  client.fstatTo env locals (client.fdPath fd)

/-- `statbuf` is whether the pointer is not null. -/
def sysFstatat (locals : Locals) (dirfd : Int) (path : Option (List UInt8T)) (statbuf : Bool) :
    Option (Int × FileClient Server maxFds) :=
  if statbuf = false then some (efault.result, client)
  else
    match resolvePath client.fdPath dirfd path pathMax with
    | .error error => some (error.result, client)
    | .ok fullPath =>
      if fullPath = etcPath then some (0, { client with statbuf := .etc })
      else if fullPath = servicesPath then some (0, { client with statbuf := .services })
      else client.fstatTo env locals fullPath

/-! ### Opening -/

/-- The flags of the command that opens a file. -/
def fsFlags (flags : OpenFlags) : UInt64T :=
  (if flags.wronly then 1 else if flags.rdwr then 2 else 0) ||| if flags.creat then 4 else 0

/-- Whether a file exists that the call has to create. -/
def checkExists (locals : Locals) (flags : OpenFlags) (fullPath : List UInt8T) :
    Option (Bool × FileClient Server maxFds) :=
  if flags.creat ∧ flags.excl then
    (client.fstatInt env (locals.fstatInt 0) fullPath (locals.statbuf 0)).map
      fun (result, _, next) => (result = 0, next)
  else some (false, client)

/-- Whether the call is to write to a directory. -/
def checkDirectory (locals : Locals) (flags : OpenFlags) (fullPath : List UInt8T) :
    Option (Bool × FileClient Server maxFds) :=
  if flags.directory = false ∧ (flags.wronly ∨ flags.rdwr) then
    (client.fstatInt env (locals.fstatInt 1) fullPath (locals.statbuf 1)).map
      fun (result, statbuf, next) => (result = 0 && statbuf.isDir, next)
  else some (false, client)

/-- The descriptor and the buffer are given back. -/
def giveUp (fd : Fin maxFds) (pathBuffer : Nat) (error : FileErrno) :
    Option (Opening Server maxFds) :=
  ((client.posixFdDeallocate fd).fsBufferFree pathBuffer).map fun freed =>
    .refused error.result freed

/-- The middle of `sys_openat`: a descriptor and a buffer that holds the path are there. -/
def openChecked (locals : Locals) (flags : OpenFlags) (fullPath : List UInt8T) (fd : Fin maxFds)
    (pathBuffer : Nat) : Option (Opening Server maxFds) :=
  (client.checkExists env locals flags fullPath).bind fun (present, looked) =>
    if present then looked.giveUp fd pathBuffer .eexist
    else
      (looked.checkDirectory env locals flags fullPath).bind fun (directory, checked) =>
        if directory then checked.giveUp fd pathBuffer .eisdir
        else
          let path := bufferAt pathBuffer fullPath.length
          let issued := checked.fsCommandBlocking env locals.completion
            (if flags.directory then .dirOpen path else .fileOpen path (fsFlags flags))
          (issued.client.fsBufferFree pathBuffer).map fun freed =>
            .asked fd fullPath issued.completion freed

/-- `sys_openat`, up to the command that opens the file. -/
def askToOpen (locals : Locals) (dirfd : Int) (path : Option (List UInt8T)) (flags : OpenFlags) :
    Option (Opening Server maxFds) :=
  match resolvePath client.fdPath dirfd path pathMax with
  | .error error => some (.refused error.result client)
  | .ok fullPath =>
    if fullPath = etcPath then
      if flags.directory then some (.refused (etcFd maxFds) client)
      else some (.refused eisdir.result client)
    else if fullPath = servicesPath then some (.refused (servicesFd maxFds) client)
    else
      match client.fsBufferAllocate with
      | none => some (.refused enomem.result client)
      | some (pathBuffer, allocated) =>
        match allocated.fds.posixFdAllocate with
        | none => (allocated.fsBufferFree pathBuffer).map fun freed =>
          .refused emfile.result freed
        | some (fd, fds) =>
          if allocated.fsServerFdMap fd = -1 then
            ({ allocated with fds }.fillPath pathBuffer fullPath).openChecked env locals flags
              fullPath fd pathBuffer
          else none

/-- The descriptor becomes one of the file that the server has opened. -/
def enterFile (fd : Fin maxFds) (flags : OpenFlags) (fullPath : List UInt8T) (fsFd : UInt64T) :
    FileClient Server maxFds :=
  { client with
    fds := client.fds.setEntry fd
      { functions := .file, nonblock := flags.nonblock, directory := flags.directory, filePtr := 0 }
    fsServerFdMap := update client.fsServerFdMap fd (fsFd.setWidth 32)
    fdPath := update client.fdPath fd fullPath }

/-- The file of a descriptor of the server is emptied, where the flags say so. The completion stays
what it is where that is not tried. -/
def truncateOpened (flags : OpenFlags) (completion : Completion) : Issued Server maxFds :=
  if flags.directory = false ∧ flags.trunc then
    client.fsCommandBlocking env completion (.fileTruncate completion.data 0)
  else { err := false, completion, client }

/-- `sys_openat`, from the command that opens the file on. -/
def finishOpen (flags : OpenFlags) (fd : Fin maxFds) (fullPath : List UInt8T)
    (completion : Completion) : Option (Int × FileClient Server maxFds) :=
  if completion.status ≠ fsStatusSuccess then
    some (env.statusLong completion.status, client.posixFdDeallocate fd)
  else
    let truncated := client.truncateOpened env flags completion
    if flags.directory = false ∧ truncated.completion.status ≠ fsStatusSuccess then
      some (env.statusLong truncated.completion.status, truncated.client.posixFdDeallocate fd)
    else
      (truncated.client.fds.posixFdEntry fd).map fun entry =>
        ((fd.val : Int), truncated.client.enterFile entry flags fullPath completion.data)

def sysOpenat (locals : Locals) (dirfd : Int) (path : Option (List UInt8T)) (flags : OpenFlags) :
    Option (Int × FileClient Server maxFds) :=
  (client.askToOpen env locals dirfd path flags).bind fun
    | .refused result next => some (result, next)
    | .asked fd fullPath completion next => next.finishOpen env flags fd fullPath completion

/-! ### Positions -/

def longMax : UInt64T := 0x7fffffffffffffff

def seekSet : Int := 0
def seekCur : Int := 1
def seekEnd : Int := 2

/-- The end of `sys_lseek`. -/
def moveTo (fd : Fin maxFds) (newFp : UInt64T) : Int × FileClient Server maxFds :=
  (newFp.toInt, client.setFilePtr fd newFp)

/-- Positions and offsets are signed; sums and differences of them wrap around. -/
def sysLseek (locals : Locals) (fd : Int) (offset : UInt64T) (whence : Int) :
    Int × FileClient Server maxFds :=
  if fd = servicesFd maxFds ∨ fd = etcFd maxFds then (ebadf.result, client)
  else
    match client.fds.posixFdEntry fd with
    | none => (ebadf.result, client)
    | some entry =>
      let currFp := client.filePtr entry
      if whence = seekSet then
        if offset.slt 0 then (einval.result, client)
        else client.moveTo entry offset
      else if whence = seekCur then
        if (longMax - currFp).slt offset then (eoverflow.result, client)
        else if offset.slt 0 ∧ currFp < -offset then (einval.result, client)
        else client.moveTo entry (currFp + offset)
      else if whence = seekEnd then
        let issued := client.fsCommandBlocking env locals.completion
          (.fileSize (client.serverFd entry))
        if issued.err then (enomem.result, issued.client)
        else if issued.completion.status ≠ fsStatusSuccess then
          (env.statusLong issued.completion.status, issued.client)
        else if (longMax - issued.completion.data).slt offset then
          (eoverflow.result, issued.client)
        else issued.client.moveTo entry (issued.completion.data + offset)
      else (einval.result, client)

/-! ### Directories and removal -/

/-- A command on a path, with a buffer for it, as `sys_mkdirat` and `sys_unlinkat` end. -/
def pathCommand (locals : Locals) (fullPath : List UInt8T) (command : Fs.FsBuffer → FsCommand) :
    Option (Int × FileClient Server maxFds) :=
  if Fs.fsBufferSize ≤ fullPath.length then some (enametoolong.result, client)
  else
    match client.fsBufferAllocate with
    | none => some (enomem.result, client)
    | some (pathBuffer, allocated) =>
      let issued := (allocated.fillPath pathBuffer fullPath).fsCommandBlocking env locals.completion
        (command (bufferAt pathBuffer fullPath.length))
      (issued.client.fsBufferFree pathBuffer).map fun freed =>
        if issued.completion.status ≠ fsStatusSuccess then
          (env.statusLong issued.completion.status, freed)
        else (0, freed)

def sysMkdirat (locals : Locals) (dirfd : Int) (path : Option (List UInt8T)) :
    Option (Int × FileClient Server maxFds) :=
  match resolvePath client.fdPath dirfd path pathMax with
  | .error error => some (error.result, client)
  | .ok fullPath => client.pathCommand env locals fullPath .dirCreate

/-- The position of the last slash. -/
def lastSlash (path : List UInt8T) : Option Nat :=
  (List.range path.length).reverse.find? fun i => path[i]? = some 0x2f

theorem lastSlash_lt {i : Nat} (found : lastSlash path = some i) : i < path.length := by
  have member := List.mem_of_find?_eq_some found
  rwa [List.mem_reverse, List.mem_range] at member

theorem length_parent_lt {i : Nat} (found : lastSlash path = some i) :
    (path.take i).length < path.length := by
  rw [List.length_take]
  exact (Nat.min_le_left _ _).trans_lt (lastSlash_lt found)

/-- The walk of `sys_unlinkat` to the nearest parent that exists: whether that is no directory. -/
def parentsRefuse (completions : Nat → Completion) (statbuf : Stat) (parentPath : List UInt8T)
    (client : FileClient Server maxFds) : Option (Bool × FileClient Server maxFds) :=
  match _found : lastSlash parentPath with
  | none => some (false, client)
  | some 0 => some (false, client)
  | some (before + 1) =>
    (client.fstatInt env (completions 0) (parentPath.take (before + 1)) statbuf).bind
      fun (result, statbuf, next) =>
        if result = 0 then some (!statbuf.isDir, next)
        else
          parentsRefuse (fun later => completions (later + 1)) statbuf (parentPath.take (before + 1))
            next
termination_by parentPath.length
decreasing_by exact length_parent_lt _found

/-- The checks of `sys_unlinkat` before a file is removed: the error that it returns, if any. -/
def checkUnlink (locals : Locals) (fullPath : List UInt8T) :
    Option (Option FileErrno × FileClient Server maxFds) :=
  (client.fstatInt env (locals.fstatInt 0) fullPath (locals.statbuf 0)).bind
    fun (statErr, statbuf, next) =>
      if statErr = 0 ∧ statbuf.isDir then some (some .eisdir, next)
      else if statErr ≠ 0 then
        (parentsRefuse env (fun later => locals.fstatInt (later + 1)) statbuf fullPath next).map
          fun (refuse, walked) => (if refuse then some .enotdir else none, walked)
      else some (none, next)

/-- `removedir` is the flag `AT_REMOVEDIR`. -/
def sysUnlinkat (locals : Locals) (dirfd : Int) (path : Option (List UInt8T)) (removedir : Bool) :
    Option (Int × FileClient Server maxFds) :=
  match resolvePath client.fdPath dirfd path pathMax with
  | .error error => some (error.result, client)
  | .ok fullPath =>
    if fullPath = servicesPath then some (eperm.result, client)
    else if removedir then client.pathCommand env locals fullPath .dirRemove
    else
      (client.checkUnlink env locals fullPath).bind fun (refused, checked) =>
        match refused with
        | some error => some (error.result, checked)
        | none => checked.pathCommand env locals fullPath .fileRemove

/-! ### Calls that go by the entry of a descriptor -/

/-- A write to a file; there is no outcome where the entry is not that of a file. -/
def sysWrite (locals : Locals) (fd : Int) (buf count : Nat) :
    Option (Int × FileClient Server maxFds) :=
  if count = 0 then some (0, client)
  else if buf = 0 then some (efault.result, client)
  else if fd = servicesFd maxFds then some (ebadf.result, client)
  else
    match client.fds.posixFdEntry fd with
    | none => some (ebadf.result, client)
    | some entry =>
      if (client.fds.fdTable entry).functions = .file then client.fileWrite env locals buf count fd
      else none

/-- A read from a file; there is no outcome where the entry is not that of a file. -/
def sysRead (locals : Locals) (fd : Int) (buf count : Nat) :
    Option (Int × FileClient Server maxFds) :=
  if count = 0 then some (0, client)
  else if buf = 0 then some (efault.result, client)
  else if fd = servicesFd maxFds then some (0, client)
  else
    match client.fds.posixFdEntry fd with
    | none => some (ebadf.result, client)
    | some entry =>
      if (client.fds.fdTable entry).functions = .file then client.fileRead env locals buf count fd
      else none

/-- The close of a file; there is no outcome where the entry is not that of a file. -/
def sysClose (locals : Locals) (fd : Int) : Option (Int × FileClient Server maxFds) :=
  if fd = servicesFd maxFds ∨ fd = etcFd maxFds then some (0, client)
  else
    match client.fds.posixFdEntry fd with
    | none => some (ebadf.result, client)
    | some entry =>
      if (client.fds.fdTable entry).functions = .file then some (client.fileClose env locals fd)
      else none

/-- The information on a file; there is no outcome where the entry is not that of a file. -/
def sysFstat (locals : Locals) (fd : Int) (statbuf : Bool) :
    Option (Int × FileClient Server maxFds) :=
  if statbuf = false then some (efault.result, client)
  else if fd = servicesFd maxFds then some (0, { client with statbuf := .services })
  else if fd = etcFd maxFds then some (0, { client with statbuf := .etc })
  else
    match client.fds.posixFdEntry fd with
    | none => some (ebadf.result, client)
    | some entry =>
      if (client.fds.fdTable entry).functions = .file then client.fileFstat env locals entry
      else none

end FileClient

/-! ### The calls of a program -/

inductive FileCall where
  | openat (dirfd : Int) (path : Option (List UInt8T)) (flags : OpenFlags)
  | close (fd : Int)
  | read (fd : Int) (buf count : Nat)
  | write (fd : Int) (buf count : Nat)
  | lseek (fd : Int) (offset : UInt64T) (whence : Int)
  | fstat (fd : Int) (statbuf : Bool)
  | fstatat (dirfd : Int) (path : Option (List UInt8T)) (statbuf : Bool)
  | mkdirat (dirfd : Int) (path : Option (List UInt8T))
  | unlinkat (dirfd : Int) (path : Option (List UInt8T)) (removedir : Bool)

/-- What a call does, with what its local variables hold at first. -/
def FileClient.perform {Server : Type} {maxFds : Nat} (env : FileEnv Server)
    (client : FileClient Server maxFds) (locals : Locals) :
    FileCall → Option (Int × FileClient Server maxFds)
  | .openat dirfd path flags => client.sysOpenat env locals dirfd path flags
  | .close fd => client.sysClose env locals fd
  | .read fd buf count => client.sysRead env locals fd buf count
  | .write fd buf count => client.sysWrite env locals fd buf count
  | .lseek fd offset whence => some (client.sysLseek env locals fd offset whence)
  | .fstat fd statbuf => client.sysFstat env locals fd statbuf
  | .fstatat dirfd path statbuf => client.sysFstatat env locals dirfd path statbuf
  | .mkdirat dirfd path => client.sysMkdirat env locals dirfd path
  | .unlinkat dirfd path removedir => client.sysUnlinkat env locals dirfd path removedir

end LionsOS.Posix

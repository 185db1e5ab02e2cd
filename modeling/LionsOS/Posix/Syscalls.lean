/-
This file embeds the system calls of the C library that make and release file
descriptors: those of `io.c`, which go through the functions that an entry points
to, those of `sock.c` and those of `file.c`. What a descriptor stands for is kept
in tables of its own: the slot of a socket, and the descriptor of the file server
and the path of a file. The socket layer is asked with its events; of the file
server the model has which of its descriptors are open, and what it answers is
part of the call. A call through a null pointer, and an assertion that fails, have
no outcome.
-/

import LionsOS.Posix.FdTable
import LionsOS.Sock.Tcp

open Function

namespace LionsOS.Posix

open Sock

/-! ### State -/

inductive SysErrno where
  /-- What the socket layer answers. -/
  | socket (error : Errno)
  | ebadf
  | emfile
  | einval
  | enomem
  | eexist
  | eisdir
  | enametoolong
  | enotsock
  | eafnosupport
  | esocktnosupport
  /-- The error for a status of the file server. -/
  | fsStatus

inductive SysResult where
  | waits
  | fails (error : SysErrno)
  | returns (value : Nat)
  /-- The file server is asked what it knows of a path. -/
  | stat (path : List UInt8T)

def SysResult.ofOutcome : Outcome → SysResult
  | .waits => .waits
  | .fails error => .fails (.socket error)
  | .returns value => .returns value
  | .received bytes => .returns bytes.length

/-- A descriptor of the file server. Those of directories are other ones. -/
structure ServerFd where
  directory : Bool
  number : Nat
  deriving DecidableEq

/-- What a call of `openat` has opened. -/
structure OpenFile where
  opening : Nat
  serverFd : ServerFd
  path : List UInt8T

structure Libc (maxFds : Nat) where
  fds : FdTable maxFds
  fdSocket : Fin maxFds → Option (Fin maxSockets)
  layer : SocketLayer
  fsServerFdMap : Fin maxFds → Option Nat
  fdPath : Fin maxFds → List UInt8T
  /-- Which opening each descriptor of the file server belongs to, if it is open. -/
  served : ServerFd → Option Nat
  openings : Nat
  /-- What each descriptor was made for. No call looks at it. -/
  openFile : Fin maxFds → Option OpenFile

namespace Libc

variable {maxFds : Nat} (libc : Libc maxFds)

def initial : Libc maxFds where
  fds := .initial
  fdSocket _ := none
  layer := .zeroed
  fsServerFdMap _ := none
  fdPath _ := []
  served _ := none
  openings := 0
  openFile _ := none

/-- The socket layer is asked for something. -/
def ask (event : Event) : Option (Outcome × Libc maxFds) :=
  match libc.layer.perform event with
  | .ok (outcome, layer) =>
    some (outcome, { libc with layer := libc.layer.after (.ok (outcome, layer)) })
  | .error _ => none

/-! ### Sockets -/

def sockClose (fd : Fin maxFds) (result : CloseResult) : Option (SysResult × Libc maxFds) :=
  match libc.fdSocket fd with
  | none => none
  | some index =>
    let released := { libc with
      fds := libc.fds.posixFdDeallocate fd
      fdSocket := update libc.fdSocket fd none }
    (released.ask (.close index result)).map fun closed => (.ofOutcome closed.1, closed.2)

def sockDup3 (oldfd newfd : Fin maxFds) : Option (SysResult × Libc maxFds) :=
  match libc.fdSocket oldfd with
  | none => none
  | some index =>
    let mapped := { libc with fdSocket := update libc.fdSocket newfd (some index) }
    (mapped.ask (.dup index)).map fun duplicated => (.ofOutcome duplicated.1, duplicated.2)

/-- A descriptor gets the entry of a socket. -/
def enterSocket (fd : Fin maxFds) : Libc maxFds :=
  { libc with fds := libc.fds.setEntry fd .socket }

def sysSocket (inet stream : Bool) (memory : Option Nat) (result : CloseResult) :
    Option (SysResult × Libc maxFds) :=
  if inet = false then some (.fails .eafnosupport, libc)
  else if stream = false then some (.fails .esocktnosupport, libc)
  else
    match libc.fds.posixFdAllocate with
    | none => some (.fails .emfile, libc)
    | some (fd, fds) =>
      match ({ libc with fds }.enterSocket fd).ask (.socket memory result) with
      | none => none
      | some (.returns handle, opened) => some (.returns fd, { opened with
          fdSocket := update opened.fdSocket fd (some (Fin.ofNat maxSockets handle)) })
      | some (outcome, failed) =>
        some (.ofOutcome outcome, { failed with fds := failed.fds.posixFdDeallocate fd })

/-- The end of `sys_accept`, behind the call of `tcp_socket_accept`. -/
def acceptReturned (outcome : Outcome) (result : CloseResult) : Option (SysResult × Libc maxFds) :=
  match outcome with
  | .returns handle =>
    match libc.fds.posixFdAllocate with
    | none =>
      (libc.ask (.close (Fin.ofNat maxSockets handle) result)).map fun closed =>
        (.fails .emfile, closed.2)
    | some (fd, fds) =>
      let entered := { libc with fds }.enterSocket fd
      some (.returns fd, { entered with
        fdSocket := update entered.fdSocket fd (some (Fin.ofNat maxSockets handle)) })
  | outcome => some (.ofOutcome outcome, libc)

/-- The slot that a call on a socket is about. -/
def socketOf (fd : Int) : Except SysErrno (Fin maxFds × Fin maxSockets) :=
  match libc.fds.posixFdEntry fd with
  | none => .error .ebadf
  | some entry =>
    match libc.fdSocket entry with
    | none => .error .enotsock
    | some index => .ok (entry, index)

def sysAccept (sockfd : Int) (accepting closing : CloseResult) : Option (SysResult × Libc maxFds) :=
  match libc.socketOf sockfd with
  | .error error => some (.fails error, libc)
  | .ok (fd, index) =>
    match libc.ask (.accept index (libc.fds.fdTable fd).nonblock accepting) with
    | none => none
    | some (outcome, accepted) => accepted.acceptReturned outcome closing

/-- A call that was woken goes on. One of `accept` has to find a descriptor. -/
def resume (position : Nat) (answers : LwipAnswers) (closing : CloseResult) :
    Option (SysResult × Libc maxFds) :=
  match libc.ask (.resume position answers) with
  | none => none
  | some (outcome, resumed) =>
    match libc.layer.woken[position]? with
    | some (_, .accept) => resumed.acceptReturned outcome closing
    | _ => some (.ofOutcome outcome, resumed)

end Libc

/-- A call that is only for sockets. -/
inductive SocketCall where
  | bind (found : Bool) (answer : Option LwipErr)
  | connect (answer : Option LwipErr)
  | listen (memory : Bool)
  | sendto (len : Nat) (dontwait : Bool) (answers : LwipAnswers)
  | recvfrom (len : Nat) (dontwait : Bool)

/-- What the socket layer is asked by a call on one of its slots. -/
def SocketCall.event (index : Fin maxSockets) (nonblock : Bool) : SocketCall → Event
  | .bind found answer => .bind index found answer
  | .connect answer => .connect index answer nonblock
  | .listen memory => .listen index memory
  | .sendto len dontwait answers => .write index len (nonblock || dontwait) answers
  | .recvfrom len dontwait => .recv index len (nonblock || dontwait)

/-! ### Files -/

def pathMax : Nat := 4096
def fsBufferSize : Nat := 32768

/-- The text `/`. -/
def rootPath : List UInt8T := [0x2f]
/-- The text `.`. -/
def dotPath : List UInt8T := [0x2e]
/-- The text `/etc`. -/
def etcPath : List UInt8T := [0x2f, 0x65, 0x74, 0x63]
/-- The text `/etc/services`. -/
def servicesPath : List UInt8T :=
  etcPath ++ [0x2f, 0x73, 0x65, 0x72, 0x76, 0x69, 0x63, 0x65, 0x73]

/-- The flags of `openat`. -/
structure OpenFlags where
  directory : Bool
  creat : Bool
  excl : Bool
  wronly : Bool
  rdwr : Bool
  trunc : Bool
  nonblock : Bool

/-- What is answered while a file is opened: whether there is a buffer, what the file server knows
of a path (`some true` for a directory), the descriptor that it opens, and whether it truncates. -/
structure OpenAnswers where
  buffer : Bool
  stat : List UInt8T → Option Bool
  opened : Option Nat
  truncated : Bool

/-- The root is not asked for. -/
def OpenAnswers.fstatInt (answers : OpenAnswers) (path : List UInt8T) : Option Bool :=
  if path = rootPath then some true else answers.stat path

/-- The directory that a relative path starts from. -/
inductive DirFd where
  | cwd
  | etc
  | fd (number : Int)

/-- A directory's path, with a slash behind it. -/
def directoryBase (base : List UInt8T) : Except SysErrno (List UInt8T) :=
  if pathMax ≤ base.length + 1 then .error .enametoolong
  else if base ≠ [] ∧ base.getLast? ≠ some 0x2f then .ok (base ++ rootPath)
  else .ok base

/-- The loop of `file_read` and of `file_write`: a command for each part that fits a buffer, until
one moves less than it was asked to. -/
def transfer (answer : Nat → Option Nat) (position len done : Nat) : Option Nat :=
  if len = 0 then some done
  else
    match answer position with
    | none => none
    | some moved =>
      if moved < min len fsBufferSize then some (done + moved)
      else transfer answer (position + 1) (len - min len fsBufferSize) (done + moved)
termination_by len
decreasing_by unfold fsBufferSize; omega

namespace Libc

variable {maxFds : Nat} (libc : Libc maxFds)

def basePath : DirFd → Except SysErrno (List UInt8T)
  | .cwd => .ok rootPath
  | .etc => .ok (etcPath ++ rootPath)
  | .fd number =>
    if inside : 0 ≤ number ∧ number.toNat < maxFds then
      directoryBase (libc.fdPath ⟨number.toNat, FdTable.descriptor_lt inside⟩)
    else .error .ebadf

/-- The order of the checks is that of `resolve_path`. -/
def resolvePath (dirfd : DirFd) (path : List UInt8T) : Except SysErrno (List UInt8T) :=
  if pathMax ≤ path.length then .error .enametoolong
  else
    match dirfd, path.head? with
    | .fd number, some 0x2f =>
      if 0 ≤ number ∧ number.toNat < maxFds then .ok path else .error .ebadf
    | _, some 0x2f => .ok path
    | _, _ => do
      let base ← libc.basePath dirfd
      if path = dotPath then .ok base
      else if pathMax ≤ base.length + path.length then .error .enametoolong
      else .ok (base ++ path)

/-- The descriptor of the file server that the calls on a file use. -/
def serverFd (fd : Fin maxFds) : Option ServerFd :=
  (libc.fsServerFdMap fd).map fun number =>
    { directory := (libc.fds.fdTable fd).directory, number }

/-- The file server has the file of a descriptor open. -/
def isServed (fd : Fin maxFds) : Bool :=
  ((libc.serverFd fd).bind libc.served).isSome

/-- `file_read` and `file_write`. The file server only moves data of a file that is open. -/
def fileTransfer (fd : Fin maxFds) (len : Nat) (buffer : Bool) (answer : Nat → Option Nat) :
    SysResult × Libc maxFds :=
  if len = 0 then (.returns 0, libc)
  else if buffer = false then (.fails .enomem, libc)
  else
    match transfer (fun position => if libc.isServed fd then answer position else none) 0 len 0 with
    | none => (.fails .fsStatus, libc)
    | some moved =>
      let entry := libc.fds.fdTable fd
      (.returns moved, { libc with
        fds := libc.fds.setEntry fd { entry with filePtr := entry.filePtr + moved } })

/-- The file server closes the file, unless it answers that it does not; the descriptor is released
in any case. -/
def fileClose (fd : Fin maxFds) (closes : Bool) : SysResult × Libc maxFds :=
  let served :=
    match libc.serverFd fd with
    | some own => if closes then update libc.served own none else libc.served
    | none => libc.served
  let released := { libc with
    served
    fsServerFdMap := update libc.fsServerFdMap fd none
    fdPath := update libc.fdPath fd []
    fds := libc.fds.posixFdDeallocate fd
    openFile := update libc.openFile fd none }
  (if closes ∧ libc.isServed fd then .returns 0 else .fails .fsStatus, released)

def fileDup3 (oldfd newfd : Fin maxFds) : SysResult × Libc maxFds :=
  (.returns 0, { libc with
    fsServerFdMap := update libc.fsServerFdMap newfd (libc.fsServerFdMap oldfd)
    openFile := update libc.openFile newfd (libc.openFile oldfd) })

def fileFstat (fd : Fin maxFds) : SysResult :=
  .stat (libc.fdPath fd)

/-- The end of `sys_openat`, when a descriptor was found: `fds` is the table with it. -/
def openFound (fd : Fin maxFds) (fds : FdTable maxFds) (fullPath : List UInt8T) (flags : OpenFlags)
    (answers : OpenAnswers) : SysResult × Libc maxFds :=
  let released := { libc with fds := fds.posixFdDeallocate fd }
  if flags.creat ∧ flags.excl ∧ (answers.fstatInt fullPath).isSome then (.fails .eexist, released)
  else if flags.directory = false ∧ (flags.wronly ∨ flags.rdwr) ∧
      answers.fstatInt fullPath = some true then (.fails .eisdir, released)
  else
    match answers.opened with
    | none => (.fails .fsStatus, released)
    | some number =>
      let own : ServerFd := { directory := flags.directory, number }
      let served := update libc.served own (some libc.openings)
      if flags.directory = false ∧ flags.trunc ∧ answers.truncated = false then
        (.fails .fsStatus, { released with served, openings := libc.openings + 1 })
      else
        (.returns fd, { libc with
          fds := fds.setEntry fd
            { functions := .file, nonblock := flags.nonblock, directory := flags.directory,
              filePtr := 0 }
          fsServerFdMap := update libc.fsServerFdMap fd (some number)
          fdPath := update libc.fdPath fd fullPath
          served
          openings := libc.openings + 1
          openFile := update libc.openFile fd
            (some { opening := libc.openings, serverFd := own, path := fullPath }) })

/-- The descriptors of `/etc` and `/etc/services` are behind those of the table. -/
def sysOpenat (dirfd : DirFd) (path : List UInt8T) (flags : OpenFlags) (answers : OpenAnswers) :
    Option (SysResult × Libc maxFds) :=
  match libc.resolvePath dirfd path with
  | .error error => some (.fails error, libc)
  | .ok fullPath =>
    if fullPath = etcPath then
      if flags.directory then some (.returns (maxFds + 1), libc) else some (.fails .eisdir, libc)
    else if fullPath = servicesPath then some (.returns maxFds, libc)
    else if answers.buffer = false then some (.fails .enomem, libc)
    else
      match libc.fds.posixFdAllocate with
      | none => some (.fails .emfile, libc)
      | some (fd, fds) =>
        if libc.fsServerFdMap fd = none then some (libc.openFound fd fds fullPath flags answers)
        else none

/-! ### Calls on any descriptor -/

/-- What the `close` pointer of an entry does. -/
def closeEntry (fd : Fin maxFds) (result : CloseResult) (closes : Bool) :
    Option (SysResult × Libc maxFds) :=
  match (libc.fds.fdTable fd).functions with
  | .sock => libc.sockClose fd result
  | .file => some (libc.fileClose fd closes)
  | .none | .console => none

/-- What the `dup3` pointer of an entry does. -/
def dup3Entry (oldfd newfd : Fin maxFds) : Option (SysResult × Libc maxFds) :=
  match (libc.fds.fdTable newfd).functions with
  | .sock => libc.sockDup3 oldfd newfd
  | .file => some (libc.fileDup3 oldfd newfd)
  | .none | .console => none

def sysClose (fd : Int) (result : CloseResult) (closes : Bool) : Option (SysResult × Libc maxFds) :=
  if fd = maxFds ∨ fd = maxFds + 1 then some (.returns 0, libc)
  else
    match libc.fds.posixFdEntry fd with
    | none => some (.fails .ebadf, libc)
    | some entry => libc.closeEntry entry result closes

/-- What becomes of the new descriptor when the old one and the flags are valid: it is closed if it
is active, without a look at the answer, and gets the entry of the old one. -/
def dup3Valid (oldfd newfd : Fin maxFds) (result : CloseResult) (closes : Bool) :
    Option (SysResult × Libc maxFds) :=
  let closed :=
    if libc.fds.fdActive newfd then (libc.closeEntry newfd result closes).map Prod.snd
    else some libc
  match closed with
  | none => none
  | some closed =>
    match closed.fds.posixFdEntryAllocate newfd with
    | none => some (.fails .enomem, closed)
    | some fds =>
      let entered := { closed with fds := fds.setEntry newfd (fds.fdTable oldfd) }
      match entered.dup3Entry oldfd newfd with
      | none => none
      | some (.fails error, duplicated) => some (.fails error, duplicated)
      | some (_, duplicated) => some (.returns newfd, duplicated)

def sysDup3 (oldfd newfd : Int) (validFlags : Bool) (result : CloseResult) (closes : Bool) :
    Option (SysResult × Libc maxFds) :=
  if inside : 0 ≤ newfd ∧ newfd.toNat < maxFds then
    if validFlags = false then some (.fails .einval, libc)
    else
      match libc.fds.posixFdEntry oldfd with
      | none => some (.fails .ebadf, libc)
      | some old =>
        if oldfd = newfd then some (.fails .einval, libc)
        else libc.dup3Valid old ⟨newfd.toNat, FdTable.descriptor_lt inside⟩ result closes
  else some (.fails .ebadf, libc)

def sysFstat (fd : Int) : Option (SysResult × Libc maxFds) :=
  if fd = maxFds ∨ fd = maxFds + 1 then some (.returns 0, libc)
  else
    match libc.fds.posixFdEntry fd with
    | none => some (.fails .ebadf, libc)
    | some entry =>
      match (libc.fds.fdTable entry).functions with
      | .sock => some (.returns 0, libc)
      | .file => some (libc.fileFstat entry, libc)
      | .none | .console => none

/-- `F_SETFL` of `sys_fcntl`. -/
def sysFcntlSetfl (fd : Int) (nonblock : Bool) : SysResult × Libc maxFds :=
  if fd = maxFds then (.returns 0, libc)
  else
    match libc.fds.posixFdEntry fd with
    | none => (.fails .ebadf, libc)
    | some entry =>
      (.returns 0, { libc with
        fds := libc.fds.setEntry entry { libc.fds.fdTable entry with nonblock } })

/-- A call that is only for sockets. -/
def sysSocketCall (fd : Int) (call : SocketCall) : Option (SysResult × Libc maxFds) :=
  match libc.socketOf fd with
  | .error error => some (.fails error, libc)
  | .ok (entry, index) =>
    (libc.ask (call.event index (libc.fds.fdTable entry).nonblock)).map fun called =>
      (.ofOutcome called.1, called.2)

/-- `sys_read` of a socket or a file. -/
def sysRead (fd : Int) (len : Nat) (buffer : Bool) (answer : Nat → Option Nat) :
    Option (SysResult × Libc maxFds) :=
  if len = 0 ∨ fd = maxFds then some (.returns 0, libc)
  else
    match libc.fds.posixFdEntry fd with
    | none => some (.fails .ebadf, libc)
    | some entry =>
      match (libc.fds.fdTable entry).functions with
      | .sock => libc.sysSocketCall fd (.recvfrom len false)
      | .file => some (libc.fileTransfer entry len buffer answer)
      | .none | .console => none

/-- `sys_write` of a socket or a file. What goes to the console changes none of this. -/
def sysWrite (fd : Int) (len : Nat) (answers : LwipAnswers) (buffer : Bool)
    (answer : Nat → Option Nat) : Option (SysResult × Libc maxFds) :=
  if len = 0 then some (.returns 0, libc)
  else
    match libc.fds.posixFdEntry fd with
    | none => some (.fails .ebadf, libc)
    | some entry =>
      match (libc.fds.fdTable entry).functions with
      | .sock => libc.sysSocketCall fd (.sendto len false answers)
      | .file => some (libc.fileTransfer entry len buffer answer)
      | .console => some (.returns len, libc)
      | .none => none

end Libc

/-! ### Runs -/

inductive Syscall where
  | socket (inet stream : Bool) (memory : Option Nat) (result : CloseResult)
  | accept (sockfd : Int) (accepting closing : CloseResult)
  | socketCall (fd : Int) (call : SocketCall)
  | resume (position : Nat) (answers : LwipAnswers) (closing : CloseResult)
  | openat (dirfd : DirFd) (path : List UInt8T) (flags : OpenFlags) (answers : OpenAnswers)
  | read (fd : Int) (len : Nat) (buffer : Bool) (answer : Nat → Option Nat)
  | write (fd : Int) (len : Nat) (answers : LwipAnswers) (buffer : Bool)
    (answer : Nat → Option Nat)
  | fstat (fd : Int)
  | fcntlSetfl (fd : Int) (nonblock : Bool)
  | dup3 (oldfd newfd : Int) (validFlags : Bool) (result : CloseResult) (closes : Bool)
  | close (fd : Int) (result : CloseResult) (closes : Bool)
  /-- A callback of lwIP into the socket layer. -/
  | callback (event : Event)

/-- The events that come from lwIP. -/
def IsCallback : Event → Prop
  | .lwipConnected _ | .lwipErr _ _ | .lwipAccept _ _ _ | .lwipRecv _ _ | .lwipFin _ _
  | .lwipSent _ _ | .lwipFree _ => True
  | _ => False

instance (event : Event) : Decidable (IsCallback event) := by
  cases event <;> unfold IsCallback <;> infer_instance

namespace Libc

variable {maxFds : Nat} (libc : Libc maxFds)

/-- The file server only gives out descriptors that are not open. -/
def Enabled : Syscall → Prop
  | .resume position _ _ => position < libc.layer.woken.length
  | .openat _ _ flags answers => ∀ number, answers.opened = some number →
    libc.served { directory := flags.directory, number } = none
  | .callback event => IsCallback event ∧ libc.layer.Enabled event
  | _ => True

def perform : Syscall → Option (SysResult × Libc maxFds)
  | .socket inet stream memory result => libc.sysSocket inet stream memory result
  | .accept sockfd accepting closing => libc.sysAccept sockfd accepting closing
  | .socketCall fd call => libc.sysSocketCall fd call
  | .resume position answers closing => libc.resume position answers closing
  | .openat dirfd path flags answers => libc.sysOpenat dirfd path flags answers
  | .read fd len buffer answer => libc.sysRead fd len buffer answer
  | .write fd len answers buffer answer => libc.sysWrite fd len answers buffer answer
  | .fstat fd => libc.sysFstat fd
  | .fcntlSetfl fd nonblock => some (libc.sysFcntlSetfl fd nonblock)
  | .dup3 oldfd newfd validFlags result closes =>
    libc.sysDup3 oldfd newfd validFlags result closes
  | .close fd result closes => libc.sysClose fd result closes
  | .callback event =>
    (libc.ask event).map fun called => (.ofOutcome called.1, called.2)

end Libc

def SyscallStep {maxFds : Nat} (libc : Libc maxFds) (call : Syscall) (next : Libc maxFds) :
    Prop :=
  libc.Enabled call ∧ ∃ result, libc.perform call = some (result, next)

end LionsOS.Posix

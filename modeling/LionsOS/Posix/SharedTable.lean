/-
This file embeds the calls that use the functions of entries, as the cothreads of one
client make them on the table that they share. A call that waits for the file server
or for a socket leaves the table to the others, and goes on with what it finds there
afterwards: `openat` has taken its descriptor before it waits and enters the file
behind it, a file is released when its close comes back, `dup3` closes the new
descriptor before it copies the entry of the old one, and each buffer of a vector is a
call of its own. A call through a null pointer ends it all, and so does an assertion.
-/

import LionsOS.Posix.Vectors

open Function

namespace LionsOS.Posix

/-! ### Entries -/

inductive Operation where
  | write
  | read
  | close
  | dup3
  | fstat
  deriving DecidableEq

/-- The pointers that an entry has are those of its kind. -/
def FdFunctions.installs : FdFunctions → Operation → Bool
  | .none, _ => false
  | .console, operation => operation = .write
  | .sock, _ | .file, _ => true

/-! ### State -/

/-- What is left of a call that waits. -/
inductive BlockedCall (maxFds : Nat) where
  | openat (fd : Fin maxFds)
  | close (fd : Fin maxFds)
  | dup3 (oldfd newfd : Fin maxFds)
  /-- The call for a buffer of this length, in front of other buffers. -/
  | vector (operation : Operation) (fd : Fin maxFds) (iovLen : UInt64T) (rest : List IoVec)

inductive TableFault where
  /-- A pointer is called that is null. -/
  | nullCall
  | assertion
  deriving DecidableEq

structure SharedTable (maxFds : Nat) where
  fds : FdTable maxFds
  /-- An `int` each, -1 for none. -/
  fsServerFdMap : Fin maxFds → UInt32T
  /-- Taken by an `openat`, and no file was entered since. No call looks at it. -/
  reserved : Fin maxFds → Bool
  blocked : List (BlockedCall maxFds)
  fault : Option TableFault

/-- A call, or what one that waits goes on with. -/
inductive TableCall where
  | write (fd : Int) (buf count : Nat)
  | read (fd : Int) (buf count : Nat)
  | writev (fd : Int) (iov : Option (Nat → IoVec)) (iovcnt : Int)
  | readv (fd : Int) (iov : Option (Nat → IoVec)) (iovcnt : Int)
  | close (fd : Int)
  | dup3 (oldfd newfd : Int) (validFlags : Bool)
  | fstat (fd : Int) (statbuf : Nat)
  /-- An `openat` that gets as far as taking a descriptor. -/
  | openat
  /-- A `socket`, and whether the socket layer has a slot for it. -/
  | socket (created : Bool)
  /-- An `accept` that has got a connection. -/
  | accepted
  /-- A call that waits goes on: with the descriptor of the file server that it has opened, if it is
  an `openat`, and with what was moved, if it is for a buffer. -/
  | resume (position : Nat) (opened : Option UInt64T) (moved : UInt64T)

namespace SharedTable

variable {maxFds : Nat} (shared : SharedTable maxFds)

def initial : SharedTable maxFds where
  fds := .initial
  fsServerFdMap _ := -1
  reserved _ := false
  blocked := []
  fault := none

def block (call : BlockedCall maxFds) : SharedTable maxFds :=
  { shared with blocked := shared.blocked ++ [call] }

/-- A pointer of an entry is called. -/
def call (fd : Fin maxFds) (operation : Operation) : Except TableFault FdFunctions :=
  if (shared.fds.fdTable fd).functions.installs operation then
    .ok (shared.fds.fdTable fd).functions
  else .error .nullCall

/-- The descriptor is free again. -/
def release (fd : Fin maxFds) : SharedTable maxFds :=
  { shared with
    fds := shared.fds.posixFdDeallocate fd
    reserved := update shared.reserved fd false }

/-- The end of `file_close`, behind the wait. -/
def fileClosed (fd : Fin maxFds) : SharedTable maxFds :=
  { shared.release fd with fsServerFdMap := update shared.fsServerFdMap fd (-1) }

/-! ### Reading and writing -/

/-- `sys_read` and `sys_write`. What the function does to the position of the file is left out. -/
def sysTransfer (operation : Operation) (fd : Int) (buf count : Nat) :
    Except TableFault (SharedTable maxFds) :=
  if count = 0 ∨ buf = 0 then .ok shared
  else
    match shared.fds.posixFdEntry fd with
    | none => .ok shared
    | some entry => (shared.call entry operation).map fun _ => shared

/-- The loop of `sys_readv` and `sys_writev` goes on to the next buffer that is not empty. -/
def nextVector (operation : Operation) (fd : Fin maxFds) :
    List IoVec → Except TableFault (SharedTable maxFds)
  | [] => .ok shared
  | vector :: rest =>
    if vector.iovLen = 0 then nextVector operation fd rest
    else if vector.iovBase = 0 then .ok shared
    else
      (shared.call fd operation).map fun _ =>
        shared.block (.vector operation fd vector.iovLen rest)

/-- The buffers that the loop is for, none if the call returns before it. -/
def vectorsOf (operation : Operation) (iov : Option (Nat → IoVec)) (iovcnt : Int) : List IoVec :=
  match iov with
  | none => []
  | some iov =>
    if iovcnt ≤ 0 ∨ iovMax < iovcnt then []
    else
      let vectors := (List.range iovcnt.toNat).map iov
      match sumLengths 0 vectors with
      | none => []
      | some sum => if operation = .write ∧ sum = 0 then [] else vectors

def sysVector (operation : Operation) (fd : Int) (iov : Option (Nat → IoVec)) (iovcnt : Int) :
    Except TableFault (SharedTable maxFds) :=
  match shared.fds.posixFdEntry fd with
  | none => .ok shared
  | some entry => shared.nextVector operation entry (vectorsOf operation iov iovcnt)

/-! ### Opening -/

def sysOpenat : Except TableFault (SharedTable maxFds) :=
  match shared.fds.posixFdAllocate with
  | none => .ok shared
  | some (fd, fds) =>
    if shared.fsServerFdMap fd = -1 then
      .ok ({ shared with fds, reserved := update shared.reserved fd true }.block (.openat fd))
    else .error .assertion

/-- The end of `sys_openat`. -/
def fileOpened (fd : Fin maxFds) : Option UInt64T → Except TableFault (SharedTable maxFds)
  | none => .ok (shared.release fd)
  | some number =>
    if shared.fds.fdActive fd then
      .ok { shared with
        fds := shared.fds.setEntry fd { FdEntry.cleared with functions := .file }
        reserved := update shared.reserved fd false
        fsServerFdMap := update shared.fsServerFdMap fd (number.setWidth 32) }
    else .error .assertion

/-- A descriptor for a new socket, which is given back if there is none. -/
def enterSocket (created : Bool) : SharedTable maxFds :=
  match shared.fds.posixFdAllocate with
  | none => shared
  | some (fd, fds) =>
    let entered := { shared with fds := fds.setEntry fd .socket }
    if created then entered else entered.release fd

/-! ### Closing and duplicating -/

def sysClose (fd : Int) : Except TableFault (SharedTable maxFds) :=
  match shared.fds.posixFdEntry fd with
  | none => .ok shared
  | some entry => do
    match ← shared.call entry .close with
    | .sock => .ok (shared.release entry)
    | _ => .ok (shared.block (.close entry))

/-- The end of `sys_dup3`, when the new descriptor has been closed. -/
def dup3End (oldfd newfd : Fin maxFds) : Except TableFault (SharedTable maxFds) :=
  match shared.fds.posixFdEntryAllocate newfd with
  | none => .ok shared
  | some fds => do
    let entered := { shared with fds := fds.setEntry newfd (fds.fdTable oldfd) }
    match ← entered.call newfd .dup3 with
    | .file => .ok { entered with
        fsServerFdMap := update shared.fsServerFdMap newfd (shared.fsServerFdMap oldfd) }
    | _ => .ok entered

def sysDup3 (oldfd newfd : Int) (validFlags : Bool) : Except TableFault (SharedTable maxFds) :=
  if inside : 0 ≤ newfd ∧ newfd.toNat < maxFds then
    if validFlags = false then .ok shared
    else
      match shared.fds.posixFdEntry oldfd with
      | none => .ok shared
      | some old =>
        let new : Fin maxFds := ⟨newfd.toNat, FdTable.descriptor_lt inside⟩
        if old = new then .ok shared
        else if shared.fds.fdActive new then do
          match ← shared.call new .close with
          | .sock => (shared.release new).dup3End old new
          | _ => .ok (shared.block (.dup3 old new))
        else shared.dup3End old new
  else .ok shared

def sysFstat (fd : Int) (statbuf : Nat) : Except TableFault (SharedTable maxFds) :=
  if statbuf = 0 then .ok shared
  else
    match shared.fds.posixFdEntry fd with
    | none => .ok shared
    | some entry => (shared.call entry .fstat).map fun _ => shared

/-! ### Steps -/

/-- A call that waits goes on. -/
def goOn (opened : Option UInt64T) (moved : UInt64T) :
    BlockedCall maxFds → Except TableFault (SharedTable maxFds)
  | .openat fd => shared.fileOpened fd opened
  | .close fd => .ok (shared.fileClosed fd)
  | .dup3 oldfd newfd => (shared.fileClosed newfd).dup3End oldfd newfd
  | .vector operation fd iovLen rest =>
    if moved.slt 0 ∨ moved < iovLen then .ok shared else shared.nextVector operation fd rest

def perform : TableCall → Except TableFault (SharedTable maxFds)
  | .write fd buf count => shared.sysTransfer .write fd buf count
  | .read fd buf count => shared.sysTransfer .read fd buf count
  | .writev fd iov iovcnt => shared.sysVector .write fd iov iovcnt
  | .readv fd iov iovcnt => shared.sysVector .read fd iov iovcnt
  | .close fd => shared.sysClose fd
  | .dup3 oldfd newfd validFlags => shared.sysDup3 oldfd newfd validFlags
  | .fstat fd statbuf => shared.sysFstat fd statbuf
  | .openat => shared.sysOpenat
  | .socket created => .ok (shared.enterSocket created)
  | .accepted => .ok (shared.enterSocket true)
  | .resume position opened moved =>
    match shared.blocked[position]? with
    | none => .ok shared
    | some call =>
      { shared with blocked := shared.blocked.eraseIdx position }.goOn opened moved call

/-- Where a call leads. After a fault nothing happens any more. -/
def after : Except TableFault (SharedTable maxFds) → SharedTable maxFds
  | .ok next => { next with fault := none }
  | .error fault => { shared with fault := some fault }

end SharedTable

def TableStep {maxFds : Nat} (shared : SharedTable maxFds) (call : TableCall)
    (next : SharedTable maxFds) : Prop :=
  shared.fault = none ∧ next = shared.after (shared.perform call)

end LionsOS.Posix

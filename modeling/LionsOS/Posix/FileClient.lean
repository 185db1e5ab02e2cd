/-
This file embeds what the calls of `file.c` work on: the tables of file descriptors,
the buffers of the share, the commands that go to the file server and what it answers,
the errors that stand for its statuses, and `resolve_path`. What a local variable holds
before something is stored in it is an argument of the function that declares it; a
command that cannot be issued leaves it there.
-/

import LionsOS.Fs.BufferAllocator
import LionsOS.Fs.ClientShare
import LionsOS.Posix.Syscalls

namespace LionsOS.Posix

open Bytes
open Fs (FsBuffer ShareBuffers fsStatusSuccess)

/-! ### Errors -/

inductive FileErrno where
  | eperm
  | enoent
  | ebadf
  | enomem
  | eacces
  | efault
  | ebusy
  | eexist
  | enotdir
  | eisdir
  | einval
  | emfile
  | enospc
  | enametoolong
  | enotempty
  | eoverflow
  deriving DecidableEq

open FileErrno

namespace FileErrno

def number : FileErrno → Nat
  | eperm => 1
  | enoent => 2
  | ebadf => 9
  | enomem => 12
  | eacces => 13
  | efault => 14
  | ebusy => 16
  | eexist => 17
  | enotdir => 20
  | eisdir => 21
  | einval => 22
  | emfile => 24
  | enospc => 28
  | enametoolong => 36
  | enotempty => 39
  | eoverflow => 75

/-- What a call returns that fails so. -/
def result (error : FileErrno) : Int :=
  -(error.number : Int)

theorem result_neg (error : FileErrno) : error.result < 0 := by
  cases error <;> decide

end FileErrno

def fileErr : Nat := 1

def fsStatusNumStatuses : Nat := 19

/-- The table `fs_status_to_errno`. -/
def fsStatusToErrno : List Nat :=
  [0, fileErr, einval.number, enoent.number, ebadf.number,
    enomem.number, ebusy.number, einval.number,
    emfile.number, eperm.number, eacces.number,
    eacces.number, enospc.number, einval.number, fileErr,
    enoent.number, enotdir.number, eexist.number,
    enotempty.number]

/-! ### Commands -/

inductive FsCommand where
  | fileOpen (path : FsBuffer) (flags : UInt64T)
  | fileClose (fd : UInt64T)
  | stat (path buf : FsBuffer)
  | fileRead (fd offset : UInt64T) (buf : FsBuffer)
  | fileWrite (fd offset : UInt64T) (buf : FsBuffer)
  | fileSize (fd : UInt64T)
  | fileRemove (path : FsBuffer)
  | fileTruncate (fd length : UInt64T)
  | dirCreate (path : FsBuffer)
  | dirRemove (path : FsBuffer)
  | dirOpen (path : FsBuffer)
  | dirClose (fd : UInt64T)
  deriving DecidableEq

structure Completion where
  status : UInt64T
  data : UInt64T
  deriving DecidableEq

/-- A command that the file server has completed, with the share as it leaves it. -/
structure Answered (Server : Type) where
  completion : Completion
  share : Nat → UInt8T
  server : Server

/-- What the calls cannot see into: the file server, the table of request ids, and the memory behind
the table of errors. A completion has one of the statuses of the protocol. -/
structure FileEnv (Server : Type) where
  /-- Whether there is an id for a request. -/
  available : Server → Bool
  answer : FsCommand → (Nat → UInt8T) → Server → Answered Server
  behindErrnos : UInt64T → UInt64T
  protocol : ∀ command share server,
    (answer command share server).completion.status.toNat < fsStatusNumStatuses

namespace FileEnv

variable {Server : Type} (env : FileEnv Server)

def errnoOf (status : UInt64T) : UInt64T :=
  match fsStatusToErrno[status.toNat]? with
  | some error => BitVec.ofNat 64 error
  | none => env.behindErrnos status

/-- What a function returns for a status, if it returns a `long`. -/
def statusLong (status : UInt64T) : Int :=
  (-env.errnoOf status).toInt

/-- What a function returns for a status, if it returns an `int`. -/
def statusInt (status : UInt64T) : Int :=
  ((-env.errnoOf status).setWidth 32).toInt

variable {env} {status : UInt64T}

section

variable (inTable : status.toNat < fsStatusNumStatuses)
include inTable

theorem statusInt_eq : env.statusInt status = env.statusLong status := by
  unfold statusInt statusLong errnoOf
  have entries : ∀ i < fsStatusNumStatuses, ∃ error, fsStatusToErrno[i]? = some error ∧
      ((-BitVec.ofNat 64 error).setWidth 32).toInt = (-BitVec.ofNat 64 error).toInt := by
    decide
  obtain ⟨error, found, same⟩ := entries _ inTable
  rw [found]
  exact same

theorem statusLong_neg (failed : status ≠ fsStatusSuccess) : env.statusLong status < 0 := by
  unfold statusLong errnoOf
  have entries : ∀ i < fsStatusNumStatuses, i ≠ 0 → ∃ error, fsStatusToErrno[i]? = some error ∧
      (-BitVec.ofNat 64 error).toInt < 0 := by
    decide
  obtain ⟨error, found, negative⟩ := entries _ inTable fun zero =>
    failed (BitVec.eq_of_toNat_eq zero)
  rw [found]
  exact negative

theorem statusInt_neg (failed : status ≠ fsStatusSuccess) : env.statusInt status < 0 := by
  rw [statusInt_eq inTable]
  exact statusLong_neg inTable failed

end

end FileEnv

/-! ### File information -/

/-- What `fs_stat_t` and `struct stat` have in common. -/
structure Stat where
  dev : UInt64T
  ino : UInt64T
  mode : UInt32T
  nlink : UInt64T
  uid : UInt32T
  gid : UInt32T
  rdev : UInt64T
  size : UInt64T
  blksize : UInt64T
  blocks : UInt64T
  atime : UInt64T
  mtime : UInt64T
  ctime : UInt64T
  atimeNsec : UInt64T
  mtimeNsec : UInt64T
  ctimeNsec : UInt64T

namespace Stat

def zeroed : Stat where
  dev := 0
  ino := 0
  mode := 0
  nlink := 0
  uid := 0
  gid := 0
  rdev := 0
  size := 0
  blksize := 0
  blocks := 0
  atime := 0
  mtime := 0
  ctime := 0
  atimeNsec := 0
  mtimeNsec := 0
  ctimeNsec := 0

def sIfmt : UInt32T := 0o170000
def sIfdir : UInt32T := 0o040000
def sIfreg : UInt32T := 0o100000

/-- `S_ISDIR`. -/
def isDir (stat : Stat) : Bool :=
  stat.mode &&& sIfmt = sIfdir

/-- The information on the root. -/
def root : Stat :=
  { zeroed with mode := sIfdir ||| 0o755 }

/-- The information on `/etc`. -/
def etc : Stat :=
  { zeroed with mode := sIfdir ||| 0o555, nlink := 2 }

/-- The information on `/etc/services`. -/
def services : Stat :=
  { zeroed with mode := sIfreg ||| 0o444, nlink := 1, size := 0 }

/-- A word of a structure in the share. -/
def wordAt (share : Nat → UInt8T) (start field : Nat) : UInt64T :=
  (List.range 8).foldr
    (fun byte word => word <<< 8 ||| (share (start + 8 * field + byte)).setWidth 64) 0

/-- The information that the file server has left in a buffer. -/
def read (share : Nat → UInt8T) (start : Nat) : Stat where
  dev := wordAt share start 0
  ino := wordAt share start 1
  mode := (wordAt share start 2).setWidth 32
  nlink := wordAt share start 3
  uid := (wordAt share start 4).setWidth 32
  gid := (wordAt share start 5).setWidth 32
  rdev := wordAt share start 6
  size := wordAt share start 7
  blksize := wordAt share start 8
  blocks := wordAt share start 9
  atime := wordAt share start 10
  mtime := wordAt share start 11
  ctime := wordAt share start 12
  atimeNsec := wordAt share start 13
  mtimeNsec := wordAt share start 14
  ctimeNsec := wordAt share start 15

end Stat

/-! ### Paths -/

def atFdcwd : Int := -100

/-- The descriptor of `/etc/services`, behind those of the table. -/
def servicesFd (maxFds : Nat) : Int := maxFds

def etcFd (maxFds : Nat) : Int := maxFds + 1

section Paths

variable {maxFds : Nat} (fdPath : Fin maxFds → List UInt8T)

/-- The path that a relative one is appended to. -/
def basePath (dirfd : Int) (outSize : Nat) : Except FileErrno (List UInt8T) :=
  if dirfd = atFdcwd then .ok rootPath
  else if dirfd = etcFd maxFds then .ok ((etcPath ++ rootPath).take (outSize - 1))
  else if inside : 0 ≤ dirfd ∧ dirfd.toNat < maxFds then
    let base := fdPath ⟨dirfd.toNat, FdTable.descriptor_lt inside⟩
    if outSize ≤ base.length + 1 then .error .enametoolong
    else if base ≠ [] ∧ base.getLast? ≠ some 0x2f then .ok (base ++ rootPath)
    else .ok base
  else .error .ebadf

/-- The path that `resolve_path` leaves in its output, `path` being `none` for a null pointer. -/
def resolvePath (dirfd : Int) (path : Option (List UInt8T)) (outSize : Nat) :
    Except FileErrno (List UInt8T) :=
  match path with
  | none => .error .einval
  | some path =>
    if outSize ≤ path.length ∨ pathMax < outSize then .error .enametoolong
    else if dirfd ≠ atFdcwd ∧ dirfd ≠ etcFd maxFds ∧ ¬ (0 ≤ dirfd ∧ dirfd.toNat < maxFds) then
      .error .ebadf
    else if path.head? = some 0x2f then .ok path
    else
      match basePath fdPath dirfd outSize with
      | .error error => .error error
      | .ok base =>
        if path = dotPath then .ok base
        else if outSize ≤ base.length + path.length then .error .enametoolong
        else .ok (base ++ path)

end Paths

section ResolvedPaths

variable {maxFds : Nat} {fdPath : Fin maxFds → List UInt8T} {dirfd : Int} {outSize : Nat}

theorem basePath_length_lt {base : List UInt8T} (room : 1 < outSize)
    (found : basePath fdPath dirfd outSize = .ok base) : base.length < outSize := by
  unfold basePath at found
  split at found
  · cases found
    exact room
  · split at found
    · cases found
      rw [List.length_take]
      omega
    · split at found
      · dsimp only at found
        split at found
        · cases found
        · rename_i short
          split at found
          · cases found
            rw [List.length_append]
            exact Nat.lt_of_not_le short
          · cases found
            exact (Nat.lt_succ_self _).trans (Nat.lt_of_not_le short)
      · cases found

theorem resolvePath_length_lt {path : Option (List UInt8T)} {fullPath : List UInt8T}
    (resolved : resolvePath fdPath dirfd path outSize = .ok fullPath) :
    fullPath.length < outSize := by
  unfold resolvePath at resolved
  cases path with
  | none => cases resolved
  | some path =>
    dsimp only at resolved
    by_cases long : outSize ≤ path.length ∨ pathMax < outSize
    · rw [if_pos long] at resolved
      cases resolved
    rw [if_neg long] at resolved
    have fits := Nat.lt_of_not_le fun large => long (.inl large)
    split at resolved
    · cases resolved
    · split at resolved
      · cases resolved
        exact fits
      · split at resolved
        · cases resolved
        · rename_i base found
          split at resolved
          · rename_i dot
            cases resolved
            rw [dot] at fits
            exact basePath_length_lt fits found
          · split at resolved
            · cases resolved
            · rename_i short
              cases resolved
              rw [List.length_append]
              exact Nat.lt_of_not_le short

end ResolvedPaths

/-! ### The state of the calls -/

structure FileClient (Server : Type) (maxFds : Nat) where
  fds : FdTable maxFds
  fsServerFdMap : Fin maxFds → UInt32T
  fdPath : Fin maxFds → List UInt8T
  buffers : ShareBuffers
  /-- The memory of the program. -/
  memory : Nat → UInt8T
  /-- The structure that the program has for the information on a file. -/
  statbuf : Stat
  server : Server

namespace FileClient

variable {Server : Type} {maxFds : Nat} (client : FileClient Server maxFds)

/-- The tables after `libc_init_file`, with no buffer in use. -/
def initial (memory : Nat → UInt8T) (server : Server) : FileClient Server maxFds where
  fds := .initial
  fsServerFdMap _ := -1
  fdPath _ := []
  buffers := { used := fun _ => false, share := fun _ => 0 }
  memory
  statbuf := .zeroed
  server

/-- The descriptor of the file server, which is kept in an `int`. -/
def serverFd (fd : Fin maxFds) : UInt64T :=
  (client.fsServerFdMap fd).signExtend 64

def filePtr (fd : Fin maxFds) : UInt64T :=
  BitVec.ofNat 64 (client.fds.fdTable fd).filePtr

def setFilePtr (fd : Fin maxFds) (position : UInt64T) : FileClient Server maxFds :=
  { client with
    fds := client.fds.setEntry fd { client.fds.fdTable fd with filePtr := position.toNat } }

/-- The offset of the buffer that is taken, `none` where the call fails. -/
def fsBufferAllocate : Option (Nat × FileClient Server maxFds) :=
  client.buffers.fsBufferAllocate.map fun (buffer, buffers) => (buffer, { client with buffers })

/-- `none` when an assertion fires. -/
def fsBufferFree (buffer : Nat) : Option (FileClient Server maxFds) :=
  (client.buffers.fsBufferFree buffer).map fun buffers => { client with buffers }

/-- Bytes are copied to a buffer. -/
def fillBuffer (buffer length : Nat) (source : Nat → UInt8T) (start : Nat) :
    FileClient Server maxFds :=
  { client with buffers := { client.buffers with
      share := copy client.buffers.share ⟨buffer, length⟩ source start } }

/-- A path is copied to a buffer, without the zero behind it. -/
def fillPath (buffer : Nat) (path : List UInt8T) : FileClient Server maxFds :=
  client.fillBuffer buffer path.length (fun index => path[index]?.getD 0) 0

/-- What comes of `fs_command_blocking`: whether it failed, and what the completion holds then. -/
structure Issued (Server : Type) (maxFds : Nat) where
  err : Bool
  completion : Completion
  client : FileClient Server maxFds

/-- The completion is not touched when there is no id for the request. -/
def fsCommandBlocking (env : FileEnv Server) (completion : Completion) (command : FsCommand) :
    Issued Server maxFds :=
  if env.available client.server then
    let answered := env.answer command client.buffers.share client.server
    { err := false
      completion := answered.completion
      client := { client with
        buffers := { client.buffers with share := answered.share }
        server := answered.server } }
  else { err := true, completion, client }

end FileClient

/-- A buffer of the share, as commands name it. -/
def bufferAt (buffer size : Nat) : FsBuffer where
  offset := BitVec.ofNat 64 buffer
  size := BitVec.ofNat 64 size

/-! ### Buffers -/

namespace FileClient

variable {Server : Type} {maxFds : Nat} {client next : FileClient Server maxFds} {buffer : Nat}
  {env : FileEnv Server}

/-- A buffer that is allocated. -/
def holding (client : FileClient Server maxFds) (i : Nat) : FileClient Server maxFds :=
  { client with buffers := { client.buffers with
      used := Function.update client.buffers.used i true } }

/-- The buffer of an index is freed. -/
def freed (client : FileClient Server maxFds) (i : Nat) : FileClient Server maxFds :=
  { client with buffers := {
      used := Function.update client.buffers.used i false
      share := copy client.buffers.share ⟨i * Fs.fsBufferSize, Fs.fsBufferSize⟩ (fun _ => 0) 0 } }

theorem fsBufferAllocate_eq_some (allocated : client.fsBufferAllocate = some (buffer, next)) :
    ∃ i < Fs.numBuffers, client.buffers.used i = false ∧ buffer = i * Fs.fsBufferSize ∧
      next = client.holding i := by
  obtain ⟨⟨_, _⟩, searched, same⟩ := Option.map_eq_some_iff.mp allocated
  obtain ⟨i, found, taken⟩ := Option.map_eq_some_iff.mp searched
  cases taken
  cases same
  rw [LinearSearch.search_found] at found
  refine ⟨i, List.mem_range.mp (List.mem_of_find?_eq_some found), ?_, rfl, rfl⟩
  have unused := List.find?_some found
  rwa [Bool.not_eq_true'] at unused

theorem fsBufferAllocate_isSome {i : Nat} (small : i < Fs.numBuffers)
    (unused : client.buffers.used i = false) : client.fsBufferAllocate.isSome := by
  unfold fsBufferAllocate ShareBuffers.fsBufferAllocate
  rw [Option.isSome_map, Option.isSome_map, LinearSearch.search_found, List.find?_isSome]
  exact ⟨i, List.mem_range.mpr small, by rw [unused]; rfl⟩

theorem fsBufferFree_of_used {i : Nat} (small : i < Fs.numBuffers)
    (used : client.buffers.used i = true) :
    client.fsBufferFree (i * Fs.fsBufferSize) = some (client.freed i) := by
  unfold fsBufferFree ShareBuffers.fsBufferFree
  rw [Fs.BufferPool.index_of_buffer, if_pos ⟨small, used⟩]
  rfl

theorem fsCommandBlocking_of_available (available : env.available client.server = true)
    (completion : Completion) (command : FsCommand) :
    client.fsCommandBlocking env completion command =
      let answered := env.answer command client.buffers.share client.server
      { err := false
        completion := answered.completion
        client := { client with
          buffers := { client.buffers with share := answered.share }
          server := answered.server } } :=
  if_pos available

theorem fsCommandBlocking_of_unavailable (unavailable : env.available client.server = false)
    (completion : Completion) (command : FsCommand) :
    client.fsCommandBlocking env completion command =
      { err := true, completion, client } :=
  if_neg (Bool.eq_false_iff.mp unavailable)

end FileClient

end LionsOS.Posix

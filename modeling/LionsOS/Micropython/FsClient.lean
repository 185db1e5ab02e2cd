/-
This file embeds what MicroPython's calls on files work on: the buffers of the share,
the commands that go to the file server and how it answers. What a local variable holds
before something is stored in it is an argument of the function that declares it; a
command that cannot be issued leaves it there. While a call waits, others may take
buffers and give back their own.
-/

import LionsOS.Fs.BufferAllocator
import LionsOS.Fs.ClientShare

namespace LionsOS.Micropython

open Bytes
open Fs (FsBuffer ShareBuffers fsBufferSize fsStatusSuccess)

/-! ### Commands -/

inductive FsCommand where
  | fileOpen (path : FsBuffer) (flags : UInt64T)
  | fileClose (fd : UInt64T)
  | fileRead (fd offset : UInt64T) (buf : FsBuffer)
  | fileWrite (fd offset : UInt64T) (buf : FsBuffer)
  | fileSize (fd : UInt64T)
  | fileSync (fd : UInt64T)
  | fileTruncate (fd length : UInt64T)
  | rename (oldPath newPath : FsBuffer)
  deriving DecidableEq

/-- The buffers that a command names. -/
def FsCommand.buffers : FsCommand → List FsBuffer
  | .fileOpen path _ => [path]
  | .fileRead _ _ buf | .fileWrite _ _ buf => [buf]
  | .rename oldPath newPath => [oldPath, newPath]
  | _ => []

structure Completion where
  status : UInt64T
  data : UInt64T
  deriving DecidableEq

/-- A command that the file server has completed: the buffers when the call goes on, and the bytes
of the share that the server has accessed for it. -/
structure Answered (Server : Type) where
  completion : Completion
  buffers : ShareBuffers
  server : Server
  accessed : List Range

/-- The index of the metadata of a buffer. -/
def indexOf (buf : FsBuffer) : Nat :=
  buf.offset.toNat / fsBufferSize

/-- A buffer that a call has been given, with what it uses of it. -/
def bufferAt (buffer size : Nat) : FsBuffer where
  offset := BitVec.ofNat 64 buffer
  size := BitVec.ofNat 64 size

/-- The file server and the table of request ids, which the calls cannot see into. -/
structure FileServer (Server : Type) where
  clientShareSize : UInt64T
  /-- Whether there is an id for a request. -/
  available : Server → Bool
  answer : FsCommand → ShareBuffers → Server → Answered Server
  /-- The server only accesses the buffers that it was given, and only if they lie in the share. -/
  allowed : ∀ command buffers server, ∀ range ∈ (answer command buffers server).accessed,
    Fs.Allowed clientShareSize command.buffers range
  /-- What was read was put into the buffer. -/
  read : ∀ fd offset buf buffers server,
    (answer (.fileRead fd offset buf) buffers server).completion.status = fsStatusSuccess →
    (answer (.fileRead fd offset buf) buffers server).completion.data ≤ buf.size ∧
      (Fs.fsGetClientBuffer clientShareSize buf).isSome
  /-- The buffers of a call are not freed by others. -/
  kept : ∀ command buffers server, ∀ buf ∈ FsCommand.buffers command,
    buffers.used (indexOf buf) = true →
    (answer command buffers server).buffers.used (indexOf buf) = true

/-! ### State -/

/-- What a call has done so far. -/
structure Record where
  /-- The bytes of the share that the call, or the file server for it, has accessed. -/
  accessed : List Range
  /-- The buffers that the call has freed. -/
  freed : List Nat
  /-- The commands that were completed. -/
  exchanges : List (FsCommand × Completion)

def Record.empty : Record where
  accessed := []
  freed := []
  exchanges := []

structure FsClient (Server : Type) where
  buffers : ShareBuffers
  server : Server
  record : Record

/-- What comes of `fs_command_blocking`: whether it failed, and what the completion holds then. -/
structure Issued (Server : Type) where
  err : Bool
  completion : Completion
  client : FsClient Server

namespace FsClient

variable {Server : Type} (client : FsClient Server)

/-- A call begins. -/
def start : FsClient Server :=
  { client with record := .empty }

def access (range : Range) : FsClient Server :=
  { client with record := { client.record with accessed := client.record.accessed ++ [range] } }

/-- The offset of the buffer that is taken, `none` where the call fails. -/
def fsBufferAllocate : Option (Nat × FsClient Server) :=
  client.buffers.fsBufferAllocate.map fun (buffer, buffers) => (buffer, { client with buffers })

/-- `none` when an assertion fires. -/
def fsBufferFree (buffer : Nat) : Option (FsClient Server) :=
  (client.buffers.fsBufferFree buffer).map fun buffers =>
    { client with
      buffers
      record := { client.record with
        accessed := client.record.accessed ++ [⟨buffer, fsBufferSize⟩]
        freed := client.record.freed ++ [buffer] } }

/-- Bytes are copied to the share. -/
def copyTo (buffer : Nat) (bytes : List UInt8T) : FsClient Server :=
  FsClient.access
    { client with buffers := { client.buffers with
        share := copy client.buffers.share ⟨buffer, bytes.length⟩
          (fun index => bytes[index]?.getD 0) 0 } }
    ⟨buffer, bytes.length⟩

/-- Bytes are copied from the share. -/
def copyFrom (buffer length : Nat) : List UInt8T × FsClient Server :=
  (Fs.bytesAt client.buffers.share ⟨buffer, length⟩, client.access ⟨buffer, length⟩)

/-- A command that has an id is issued and waited for. -/
def exchange (env : FileServer Server) (command : FsCommand) : Completion × FsClient Server :=
  let answered := env.answer command client.buffers client.server
  (answered.completion,
    { buffers := answered.buffers
      server := answered.server
      record := { client.record with
        accessed := client.record.accessed ++ answered.accessed
        exchanges := client.record.exchanges ++ [(command, answered.completion)] } })

/-- A completion is left as it is by a command that cannot be issued. -/
def fsCommandBlocking (env : FileServer Server) (completion : Completion) (command : FsCommand) :
    Issued Server :=
  if env.available client.server then
    let awaited := client.exchange env command
    { err := false, completion := awaited.1, client := awaited.2 }
  else { err := true, completion, client }

end FsClient

/-! ### Buffers -/

namespace FsClient

variable {Server : Type} {client next : FsClient Server} {buffer i : Nat}

/-- A buffer that is allocated. -/
def holding (client : FsClient Server) (i : Nat) : FsClient Server :=
  { client with buffers := { client.buffers with
      used := Function.update client.buffers.used i true } }

theorem fsBufferAllocate_eq_some (allocated : client.fsBufferAllocate = some (buffer, next)) :
    ∃ i < Fs.numBuffers, buffer = i * fsBufferSize ∧ next = client.holding i := by
  obtain ⟨⟨_, _⟩, searched, same⟩ := Option.map_eq_some_iff.mp allocated
  obtain ⟨i, found, taken⟩ := Option.map_eq_some_iff.mp searched
  cases taken
  cases same
  rw [LinearSearch.search_found] at found
  exact ⟨i, List.mem_range.mp (List.mem_of_find?_eq_some found), rfl, rfl⟩

theorem fsBufferAllocate_isSome (small : i < Fs.numBuffers)
    (unused : client.buffers.used i = false) : client.fsBufferAllocate.isSome := by
  unfold fsBufferAllocate ShareBuffers.fsBufferAllocate
  rw [Option.isSome_map, Option.isSome_map, LinearSearch.search_found, List.find?_isSome]
  exact ⟨i, List.mem_range.mpr small, by rw [unused]; rfl⟩

theorem holding_used_self : (client.holding i).buffers.used i = true :=
  Function.update_self _ _ _

theorem fsBufferFree_of_used (small : i < Fs.numBuffers) (used : client.buffers.used i = true) :
    ∃ freed, client.fsBufferFree (i * fsBufferSize) = some freed := by
  unfold fsBufferFree ShareBuffers.fsBufferFree
  rw [Fs.BufferPool.index_of_buffer, if_pos ⟨small, used⟩]
  exact ⟨_, rfl⟩

theorem fsBufferFree_record (freed : client.fsBufferFree buffer = some next) :
    next.record = { client.record with
      accessed := client.record.accessed ++ [⟨buffer, fsBufferSize⟩]
      freed := client.record.freed ++ [buffer] } := by
  obtain ⟨_, _, rfl⟩ := Option.map_eq_some_iff.mp freed
  rfl

theorem fsBufferFree_server (freed : client.fsBufferFree buffer = some next) :
    next.server = client.server := by
  obtain ⟨_, _, rfl⟩ := Option.map_eq_some_iff.mp freed
  rfl

theorem toNat_bufferAt_offset (small : i < Fs.numBuffers) (size : Nat) :
    (bufferAt (i * fsBufferSize) size).offset.toNat = i * fsBufferSize := by
  have fits : i * fsBufferSize < Fs.numBuffers * fsBufferSize :=
    Nat.mul_lt_mul_of_pos_right small (by decide)
  exact (BitVec.toNat_ofNat _ _).trans (Nat.mod_eq_of_lt (fits.trans (by decide)))

theorem indexOf_bufferAt (small : i < Fs.numBuffers) (size : Nat) :
    indexOf (bufferAt (i * fsBufferSize) size) = i := by
  rw [indexOf, toNat_bufferAt_offset small, Fs.BufferPool.index_of_buffer]

/-! ### Commands -/

/-- A command that was completed. -/
structure Completed (env : FileServer Server) (client : FsClient Server) (command : FsCommand)
    (issued : Issued Server) : Prop where
  err : issued.err = false
  completion : issued.completion = (env.answer command client.buffers client.server).completion
  server : issued.client.server = (env.answer command client.buffers client.server).server
  exchanges : issued.client.record.exchanges =
    client.record.exchanges ++ [(command, issued.completion)]
  freed : issued.client.record.freed = client.record.freed
  accessed : issued.client.record.accessed = client.record.accessed ++
    (env.answer command client.buffers client.server).accessed
  kept : ∀ buf ∈ command.buffers, client.buffers.used (indexOf buf) = true →
    issued.client.buffers.used (indexOf buf) = true

theorem fsCommandBlocking_cases (client : FsClient Server) (env : FileServer Server)
    (completion : Completion) (command : FsCommand) :
    client.fsCommandBlocking env completion command = { err := true, completion, client } ∨
      Completed env client command (client.fsCommandBlocking env completion command) := by
  unfold fsCommandBlocking
  split_ifs
  · exact .inr ⟨rfl, rfl, rfl, rfl, rfl, rfl, env.kept command _ _⟩
  · exact .inl rfl

/-- The buffer that a command was given is still in use when it is completed. -/
theorem fsCommandBlocking_kept {env : FileServer Server} {completion : Completion}
    {command : FsCommand} {size : Nat} (small : i < Fs.numBuffers)
    (named : bufferAt (i * fsBufferSize) size ∈ command.buffers)
    (used : client.buffers.used i = true) :
    (client.fsCommandBlocking env completion command).client.buffers.used i = true := by
  rcases client.fsCommandBlocking_cases env completion command with failed | completed
  · rw [failed]
    exact used
  · have kept := completed.kept _ named
    rw [indexOf_bufferAt small] at kept
    exact kept used

end FsClient

/-- Nothing is in use, and no command has been issued. -/
def FsClient.unused : FsClient Unit where
  buffers := { used := fun _ => false, share := fun _ => 0 }
  server := ()
  record := .empty

/-- The text that a string has in C, which ends at its first zero. -/
def cString (text : List UInt8T) : List UInt8T :=
  text.takeWhile (· ≠ 0)

end LionsOS.Micropython

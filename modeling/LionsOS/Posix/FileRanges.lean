/-
This file is about reading and writing with a file server that does what `pread` and
`pwrite` do. However short its answers are, a call moves one range of the file, from
the position on, to or from one range of the memory, moves the position behind it and
leaves everything else as it was; and it stops at the first answer that is short.
-/

import LionsOS.Posix.FileTransfers

open Function

namespace LionsOS.Posix

open Bytes FileClient
open Fs (FsBuffer fsStatusSuccess)

/-! ### Stored files -/

/-- The largest position of a file. -/
def offTMax : Nat := 2 ^ 63 - 1

structure StoredFile where
  size : Nat
  bytes : Nat → UInt8T

/-- A file after a part of it was written. -/
def StoredFile.pwrite (file : StoredFile) (offset count : Nat) (source : Nat → UInt8T)
    (start : Nat) : StoredFile where
  size := if count = 0 then file.size else max file.size (offset + count)
  bytes := copy file.bytes ⟨offset, count⟩ source start

theorem StoredFile.pwrite_zero (file : StoredFile) (offset : Nat) (source : Nat → UInt8T)
    (start : Nat) : file.pwrite offset 0 source start = file := by
  unfold pwrite
  rw [if_pos rfl, copy_zero]

/-- Two parts that are written, one behind the other, are one. -/
theorem StoredFile.pwrite_pwrite_next (file : StoredFile) (offset first second : Nat)
    (source : Nat → UInt8T) (start : Nat) :
    (file.pwrite offset first source start).pwrite (offset + first) second source (start + first) =
      file.pwrite offset (first + second) source start := by
  unfold pwrite
  simp only [copy_copy_next, StoredFile.mk.injEq, and_true]
  split_ifs <;> omega

theorem StoredFile.pwrite_congr {file : StoredFile} {offset count start otherStart : Nat}
    {source other : Nat → UInt8T}
    (same : ∀ i < count, source (start + i) = other (otherStart + i)) :
    file.pwrite offset count source start = file.pwrite offset count other otherStart := by
  unfold pwrite
  rw [copy_congr other otherStart same]

/-- The files of a server, and which of them its descriptors stand for. -/
structure Storage (Server Inode : Type) where
  opened : Server → UInt64T → Option Inode
  file : Server → Inode → StoredFile

/-- The buffer is a part of the share. -/
def InShare (buf : FsBuffer) : Prop :=
  0 < buf.size.toNat ∧ buf.offset.toNat + buf.size.toNat ≤ Fs.fsShareSize

section Servers

variable {Server Inode : Type} [DecidableEq Inode]

/-- The command has succeeded with at most as many bytes as there is room for, none of them beyond
the last position of a file, and only that part of the share has changed that the buffer is. -/
structure Moves (env : FileEnv Server) (storage : Storage Server Inode) (offset : Nat)
    (buf : FsBuffer) (share : Nat → UInt8T) (server : Server) (answered : Answered Server) :
    Prop where
  success : answered.completion.status = fsStatusSuccess
  atMost : answered.completion.data.toNat ≤ buf.size.toNat
  small : offset + answered.completion.data.toNat ≤ offTMax
  elsewhere : ∀ address, address ∉ buf.range → answered.share address = share address
  opened : storage.opened answered.server = storage.opened server
  available : env.available answered.server = true

/-- The server reads and writes as `pread` and `pwrite` do, and does not fail. -/
structure PositionedIo (env : FileEnv Server) (storage : Storage Server Inode) : Prop where
  pread : ∀ {fd offset buf server inode} (share : Nat → UInt8T), env.available server = true →
    storage.opened server fd = some inode → offset.toNat ≤ offTMax → InShare buf →
    let answered := env.answer (.fileRead fd offset buf) share server
    let count := answered.completion.data.toNat
    Moves env storage offset.toNat buf share server answered ∧
      storage.file answered.server = storage.file server ∧
      (count ≠ 0 → offset.toNat + count ≤ (storage.file server inode).size) ∧
      ∀ i < count, answered.share (buf.offset.toNat + i) =
        (storage.file server inode).bytes (offset.toNat + i)
  pwrite : ∀ {fd offset buf server inode} (share : Nat → UInt8T), env.available server = true →
    storage.opened server fd = some inode → offset.toNat ≤ offTMax → InShare buf →
    let answered := env.answer (.fileWrite fd offset buf) share server
    Moves env storage offset.toNat buf share server answered ∧
      storage.file answered.server = update (storage.file server) inode
        ((storage.file server inode).pwrite offset.toNat answered.completion.data.toNat share
          buf.offset.toNat)

end Servers

/-! ### Reading and writing -/

inductive Direction where
  | read
  | write

open Direction

namespace Direction

variable {Inode : Type} [DecidableEq Inode]

def command (direction : Direction) (fd offset : UInt64T) (buf : FsBuffer) : FsCommand :=
  match direction with
  | read => .fileRead fd offset buf
  | write => .fileWrite fd offset buf

/-- The memory of the program after so many bytes were moved. -/
def memoryAfter (direction : Direction) (file : StoredFile) (position : Nat) (memory : Nat → UInt8T)
    (buf total : Nat) : Nat → UInt8T :=
  match direction with
  | read => copy memory ⟨buf, total⟩ file.bytes position
  | write => memory

/-- The files after so many bytes were moved. -/
def filesAfter (direction : Direction) (files : Inode → StoredFile) (inode : Inode) (position : Nat)
    (memory : Nat → UInt8T) (buf total : Nat) : Inode → StoredFile :=
  match direction with
  | read => files
  | write => update files inode ((files inode).pwrite position total memory buf)

variable {Server : Type} {maxFds : Nat}

/-- `file_read` and `file_write`. -/
def call (direction : Direction) (env : FileEnv Server) (client : FileClient Server maxFds)
    (locals : Locals) (buf len : Nat) (fd : Int) : Option (Int × FileClient Server maxFds) :=
  match direction with
  | read => client.fileRead env locals buf len fd
  | write => client.fileWrite env locals buf len fd

def chunk (direction : Direction) (env : FileEnv Server) (client : FileClient Server maxFds)
    (entry : Fin maxFds) (buffer : Nat) : Completion → UInt64T → Nat → Nat →
      Transfer Server maxFds :=
  match direction with
  | read => client.readChunk env entry buffer
  | write => client.writeChunk env entry buffer

theorem call_eq (direction : Direction) (env : FileEnv Server) (client : FileClient Server maxFds)
    (locals : Locals) (buf len : Nat) (fd : Int) :
    direction.call env client locals buf len fd =
      client.fileTransfer (direction.chunk env) locals.rounds buf len fd := by
  cases direction <;> rfl

end Direction

/-- What the server is asked in a round, and what it answers. -/
def Round.exchange (round : Round) (direction : Direction) (fd : UInt64T) (position buffer : Nat) :
    Exchange where
  command := direction.command fd (BitVec.ofNat 64 (position + round.start))
    (bufferAt buffer round.size)
  completion := { status := fsStatusSuccess, data := BitVec.ofNat 64 round.count }

/-- So many bytes were moved, in these rounds, from or to the position of a descriptor, and nothing
else has happened. -/
structure Moved {Server Inode : Type} [DecidableEq Inode] {maxFds : Nat}
    (storage : Storage Server Inode) (direction : Direction) (entry : Fin maxFds) (inode : Inode)
    (buffer buf : Nat) (start : FileClient (Server × List Exchange) maxFds) (rounds : List Round)
    (next : FileClient (Server × List Exchange) maxFds) : Prop where
  rest : next = { start with
    memory := next.memory
    buffers := { used := start.buffers.used, share := next.buffers.share }
    server := next.server }
  share : ∀ address, address ∉ (⟨buffer, Fs.fsBufferSize⟩ : Range) →
    next.buffers.share address = start.buffers.share address
  memory : next.memory = direction.memoryAfter (storage.file start.server.1 inode)
    (start.filePtr entry).toNat start.memory buf (movedBy rounds)
  files : storage.file next.server.1 = direction.filesAfter (storage.file start.server.1) inode
    (start.filePtr entry).toNat start.memory buf (movedBy rounds)
  record : next.server.2 = start.server.2 ++ rounds.map fun round =>
    round.exchange direction (start.serverFd entry) (start.filePtr entry).toNat buffer
  inFile : direction = .read → movedBy rounds ≠ 0 →
    (start.filePtr entry).toNat + movedBy rounds ≤ (storage.file start.server.1 inode).size
  small : (start.filePtr entry).toNat + movedBy rounds ≤ offTMax

section Ranges

variable {Server Inode : Type} [DecidableEq Inode] {maxFds : Nat} {env : FileEnv Server}
  {storage : Storage Server Inode} {direction : Direction} {entry : Fin maxFds} {inode : Inode}
  {buf len i : Nat} {start client : FileClient (Server × List Exchange) maxFds}
  {rounds : List Round} {buffer : Nat} {size : Nat} {answered : Answered Server}

/-- What stays true between two rounds. -/
structure Moving (env : FileEnv Server) (storage : Storage Server Inode) (direction : Direction)
    (entry : Fin maxFds) (inode : Inode) (buffer buf : Nat)
    (start : FileClient (Server × List Exchange) maxFds) (rounds : List Round)
    (next : FileClient (Server × List Exchange) maxFds) : Prop
    extends Moved storage direction entry inode buffer buf start rounds next where
  available : env.available next.server.1 = true
  opened : storage.opened next.server.1 (start.serverFd entry) = some inode

theorem bufferAt_inShare (small : i < Fs.numBuffers) (positive : 0 < size)
    (fits : size ≤ Fs.fsBufferSize) : InShare (bufferAt (i * Fs.fsBufferSize) size) ∧
      (bufferAt (i * Fs.fsBufferSize) size).range = ⟨i * Fs.fsBufferSize, size⟩ := by
  have numbers : Fs.numBuffers = 2044 := rfl
  unfold Fs.fsBufferSize at fits
  have offset : (BitVec.ofNat 64 (i * Fs.fsBufferSize)).toNat = i * Fs.fsBufferSize := by
    rw [BitVec.toNat_ofNat, Nat.mod_eq_of_lt (by unfold Fs.fsBufferSize; omega)]
  have length : (BitVec.ofNat 64 size).toNat = size := by
    rw [BitVec.toNat_ofNat, Nat.mod_eq_of_lt (by omega)]
  refine ⟨⟨?_, ?_⟩, ?_⟩
  · rwa [bufferAt, length]
  · rw [bufferAt, length, offset]
    unfold Fs.fsBufferSize Fs.fsShareSize
    omega
  · rw [bufferAt, FsBuffer.range, length, offset]

/-- The offset of the next round. -/
theorem Moving.offset
    (moving : Moving env storage direction entry inode buffer buf start rounds client) :
    client.serverFd entry = start.serverFd entry ∧
      client.filePtr entry + BitVec.ofNat 64 (movedBy rounds) =
        BitVec.ofNat 64 ((start.filePtr entry).toNat + movedBy rounds) ∧
      (client.filePtr entry + BitVec.ofNat 64 (movedBy rounds)).toNat =
        (start.filePtr entry).toNat + movedBy rounds := by
  have position : client.filePtr entry = start.filePtr entry := by rw [moving.rest]; rfl
  have small := moving.small
  have sum : client.filePtr entry + BitVec.ofNat 64 (movedBy rounds) =
      BitVec.ofNat 64 ((start.filePtr entry).toNat + movedBy rounds) := by
    rw [position, BitVec.ofNat_add, BitVec.ofNat_toNat, BitVec.setWidth_eq]
  refine ⟨by rw [moving.rest]; rfl, sum, ?_⟩
  rw [sum, BitVec.toNat_ofNat]
  unfold offTMax at small
  omega

/-- What a round leaves behind that has moved the next part. -/
theorem Moving.next {earlier : List Round} {memory : Nat → UInt8T}
    (moving : Moving env storage direction entry inode (i * Fs.fsBufferSize) buf start earlier
      client) (success : answered.completion.status = fsStatusSuccess)
    (elsewhere : ∀ address, address ∉ (⟨i * Fs.fsBufferSize, Fs.fsBufferSize⟩ : Range) →
      answered.share address = client.buffers.share address) (total : Nat)
    (moved : total = movedBy earlier + answered.completion.data.toNat)
    (sameMemory : memory = direction.memoryAfter (storage.file start.server.1 inode)
      (start.filePtr entry).toNat start.memory buf total)
    (files : storage.file answered.server = direction.filesAfter (storage.file start.server.1) inode
      (start.filePtr entry).toNat start.memory buf total)
    (inFile : direction = .read → total ≠ 0 →
      (start.filePtr entry).toNat + total ≤ (storage.file start.server.1 inode).size)
    (small : (start.filePtr entry).toNat + total ≤ offTMax)
    (available : env.available answered.server = true)
    (opened : storage.opened answered.server = storage.opened client.server.1) :
    Moving env storage direction entry inode (i * Fs.fsBufferSize) buf start
      (earlier ++ [⟨movedBy earlier, size, answered.completion.data.toNat⟩])
      { client with
        memory
        buffers := { client.buffers with share := answered.share }
        server := (answered.server, client.server.2 ++
          [⟨direction.command (client.serverFd entry)
            (client.filePtr entry + BitVec.ofNat 64 (movedBy earlier))
            (bufferAt (i * Fs.fsBufferSize) size), answered.completion⟩]) } := by
  obtain ⟨fd, sum, _⟩ := moving.offset
  have same : movedBy (earlier ++ [⟨movedBy earlier, size, answered.completion.data.toNat⟩]) =
      total := (movedBy_snoc _ _).trans moved.symm
  refine ⟨⟨?_, ?_, ?_, ?_, ?_, ?_, ?_⟩, available, ?_⟩
  · rw [moving.rest]
  · exact fun address outside => (elsewhere address outside).trans (moving.share address outside)
  · rwa [same]
  · rwa [same]
  · have data : BitVec.ofNat 64 answered.completion.data.toNat = answered.completion.data := by
      rw [BitVec.ofNat_toNat, BitVec.setWidth_eq]
    rw [List.map_append, ← List.append_assoc, ← moving.record, fd, sum, List.map_singleton,
      Round.exchange, ← success, data]
  · rwa [same]
  · rwa [same]
  · rw [opened]
    exact moving.opened

section

variable {client : FileClient Server maxFds}

/-- What `readChunk` does when the command succeeds. -/
theorem FileClient.readChunk_of_success {toRead : Nat} {totalRead : UInt64T}
    (completion : Completion) (buf : Nat) (available : env.available client.server = true)
    (answer : env.answer (.fileRead (client.serverFd entry) (client.filePtr entry + totalRead)
      (bufferAt buffer toRead)) client.buffers.share client.server = answered)
    (success : answered.completion.status = fsStatusSuccess) :
    client.readChunk env entry buffer completion totalRead buf toRead =
      .moved answered.completion.data { client with
        memory := copy client.memory ⟨buf, answered.completion.data.toNat⟩ answered.share buffer
        buffers := { client.buffers with share := answered.share }
        server := answered.server } := by
  unfold readChunk
  rw [fsCommandBlocking_of_available available, answer]
  exact (if_neg Bool.false_ne_true).trans (if_neg (not_not_intro success))

theorem FileClient.writeChunk_of_success {toWrite : Nat} {written : UInt64T}
    (completion : Completion) (available : env.available client.server = true)
    (answer : env.answer (.fileWrite (client.serverFd entry) (client.filePtr entry + written)
      (bufferAt buffer toWrite)) (copy client.buffers.share ⟨buffer, toWrite⟩ client.memory buf)
      client.server = answered) (success : answered.completion.status = fsStatusSuccess) :
    client.writeChunk env entry buffer completion written buf toWrite =
      .moved answered.completion.data { client with
        buffers := { client.buffers with share := answered.share }
        server := answered.server } := by
  unfold writeChunk
  rw [fsCommandBlocking_of_available (by exact available)]
  dsimp only [fillBuffer]
  rw [answer]
  exact (if_neg Bool.false_ne_true).trans (if_neg (not_not_intro success))

end

section

variable (laws : PositionedIo env storage) (small : i < Fs.numBuffers)
include laws small

theorem readChunk_step :
    FileClient.RoundStep
      (fun client => read.chunk env.recording client entry (i * Fs.fsBufferSize))
      (Moving env storage .read entry inode (i * Fs.fsBufferSize) buf start)
      (fun _ _ _ => False) buf len := by
  intro earlier client completion moving _ more
  obtain ⟨fd, sum, offset⟩ := moving.offset
  have size := roundSize_le_fsBufferSize (len - movedBy earlier)
  obtain ⟨inShare, range⟩ := bufferAt_inShare small
    (roundSize_pos (Nat.sub_ne_zero_of_lt more)) size
  obtain ⟨moves, files, inFile, bytes⟩ := laws.pread client.buffers.share
    moving.available moving.opened (offset ▸ moving.small) inShare
  have sameFile : storage.file client.server.1 = storage.file start.server.1 := moving.files
  rw [← fd] at moves files inFile bytes
  have available : env.recording.available client.server = true := moving.available
  dsimp only [chunk]
  rw [readChunk_of_success completion (buf + movedBy earlier) available rfl
    (by exact moves.success)]
  obtain ⟨answered, answer⟩ : ∃ answered, env.answer (.fileRead (client.serverFd entry)
      (client.filePtr entry + BitVec.ofNat 64 (movedBy earlier))
      (bufferAt (i * Fs.fsBufferSize) (roundSize (len - movedBy earlier)))) client.buffers.share
      client.server.1 = answered := ⟨_, rfl⟩
  dsimp only [FileEnv.recording]
  rw [answer] at moves files inFile bytes ⊢
  rw [offset, sameFile] at inFile bytes
  rw [offset] at moves
  have atMost : answered.completion.data.toNat ≤ roundSize (len - movedBy earlier) :=
    moves.atMost.trans_eq (congrArg Range.length range)
  refine ⟨atMost, moving.next moves.success (fun address outside => ?_) _ rfl ?_
    (files.trans sameFile) ?_ ?_ moves.available moves.opened⟩
  · refine moves.elsewhere address fun inside => outside ?_
    rw [range] at inside
    exact ⟨inside.1, inside.2.trans_le (Nat.add_le_add_left size _)⟩
  · rw [moving.memory]
    dsimp only [memoryAfter]
    rw [copy_congr (storage.file start.server.1 inode).bytes
      ((start.filePtr entry).toNat + movedBy earlier), copy_copy_next]
    intro index inside
    rw [← bytes index inside]
    exact congrArg (fun start => answered.share (start + index)) (congrArg Range.start range).symm
  · intro _ some_moved
    by_cases none : answered.completion.data.toNat = 0
    · rw [none] at some_moved ⊢
      exact moving.inFile rfl some_moved
    · rw [← Nat.add_assoc]
      exact inFile none
  · rw [← Nat.add_assoc]
    exact moves.small

theorem writeChunk_step :
    FileClient.RoundStep
      (fun client => write.chunk env.recording client entry (i * Fs.fsBufferSize))
      (Moving env storage .write entry inode (i * Fs.fsBufferSize) buf start)
      (fun _ _ _ => False) buf len := by
  intro earlier client completion moving _ more
  obtain ⟨fd, sum, offset⟩ := moving.offset
  have size := roundSize_le_fsBufferSize (len - movedBy earlier)
  obtain ⟨inShare, range⟩ := bufferAt_inShare small
    (roundSize_pos (Nat.sub_ne_zero_of_lt more)) size
  obtain ⟨moves, files⟩ := laws.pwrite (copy client.buffers.share
      ⟨i * Fs.fsBufferSize, roundSize (len - movedBy earlier)⟩ client.memory
      (buf + movedBy earlier)) moving.available moving.opened (offset ▸ moving.small) inShare
  rw [← fd] at moves files
  have available : env.recording.available client.server = true := moving.available
  dsimp only [chunk]
  rw [writeChunk_of_success completion available rfl (by exact moves.success)]
  obtain ⟨answered, answer⟩ : ∃ answered, env.answer (.fileWrite (client.serverFd entry)
      (client.filePtr entry + BitVec.ofNat 64 (movedBy earlier))
      (bufferAt (i * Fs.fsBufferSize) (roundSize (len - movedBy earlier))))
      (copy client.buffers.share ⟨i * Fs.fsBufferSize, roundSize (len - movedBy earlier)⟩
        client.memory (buf + movedBy earlier)) client.server.1 = answered := ⟨_, rfl⟩
  dsimp only [FileEnv.recording]
  rw [answer] at moves files ⊢
  rw [offset] at moves files
  have start_eq := congrArg Range.start range
  have atMost : answered.completion.data.toNat ≤ roundSize (len - movedBy earlier) :=
    moves.atMost.trans_eq (congrArg Range.length range)
  have sameMemory : client.memory = start.memory := moving.memory
  have outsideOf : ∀ address, address ∉ (⟨i * Fs.fsBufferSize, Fs.fsBufferSize⟩ : Range) →
      address ∉ (⟨i * Fs.fsBufferSize, roundSize (len - movedBy earlier)⟩ : Range) :=
    fun address outside inside =>
      outside ⟨inside.1, inside.2.trans_le (Nat.add_le_add_left size _)⟩
  refine ⟨atMost, moving.next moves.success (fun address outside => ?_) _ rfl sameMemory ?_
    (nomatch ·) ?_ moves.available moves.opened⟩
  · rw [moves.elsewhere address (range ▸ outsideOf address outside)]
    exact copy_of_not_mem (outsideOf address outside)
  · rw [files, moving.files]
    dsimp only [filesAfter]
    rw [update_self, update_idem]
    congr 1
    rw [← StoredFile.pwrite_pwrite_next]
    refine StoredFile.pwrite_congr fun index inside => ?_
    rw [show (bufferAt (i * Fs.fsBufferSize) (roundSize (len - movedBy earlier))).offset.toNat =
      i * Fs.fsBufferSize from start_eq, copy_of_mem ⟨Nat.le_add_right _ _,
        Nat.add_lt_add_left (inside.trans_le atMost) _⟩, Nat.add_sub_cancel_left, sameMemory]
  · rw [← Nat.add_assoc]
    exact moves.small

theorem chunk_step :
    FileClient.RoundStep
      (fun client => direction.chunk env.recording client entry (i * Fs.fsBufferSize))
      (Moving env storage direction entry inode (i * Fs.fsBufferSize) buf start)
      (fun _ _ _ => False) buf len := by
  cases direction with
  | read => exact readChunk_step laws small
  | write => exact writeChunk_step laws small

end

theorem Moved.refl (position : (client.filePtr entry).toNat ≤ offTMax) :
    Moved storage direction entry inode buffer buf client [] client := by
  refine ⟨rfl, fun _ _ => rfl, ?_, ?_, ?_, fun _ none => (none rfl).elim, position⟩
  · cases direction with
    | read => exact (copy_zero _ _ _ _).symm
    | write => rfl
  · cases direction with
    | read => rfl
    | write =>
      dsimp only [filesAfter, movedBy_nil]
      rw [StoredFile.pwrite_zero, update_eq_self]
  · rw [List.map_nil, List.append_nil]

/-- What was moved stays so when the buffer is given back. -/
theorem Moved.freed {rounds : List Round} (unused : start.buffers.used i = false)
    (moved : Moved storage direction entry inode (i * Fs.fsBufferSize) buf (start.holding i) rounds
      client) :
    Moved storage direction entry inode (i * Fs.fsBufferSize) buf start rounds (client.freed i) := by
  refine ⟨?_, ?_, moved.memory, moved.files, moved.record, moved.inFile, moved.small⟩
  · have used : update client.buffers.used i false = start.buffers.used := by
      rw [moved.rest]
      dsimp only [FileClient.holding]
      rw [update_idem, ← unused, update_eq_self]
    unfold FileClient.freed
    rw [used, moved.rest]
    rfl
  · intro address outside
    have kept : (client.freed i).buffers.share address = client.buffers.share address := by
      dsimp only [FileClient.freed]
      exact copy_of_not_mem outside
    exact kept.trans (moved.share address outside)

theorem filePtr_toNat {client : FileClient Server maxFds}
    (position : (client.fds.fdTable entry).filePtr ≤ offTMax) :
    (client.filePtr entry).toNat = (client.fds.fdTable entry).filePtr := by
  rw [filePtr, BitVec.toNat_ofNat]
  unfold offTMax at position
  omega

theorem FileClient.outcomeOf_moved {next : FileClient Server maxFds} {total : Nat}
    (small : (next.fds.fdTable entry).filePtr + total ≤ offTMax) :
    outcomeOf entry i (.moved (BitVec.ofNat 64 total) next) = ((total : Int), { next.freed i with
      fds := next.fds.setEntry entry { next.fds.fdTable entry with
        filePtr := (next.fds.fdTable entry).filePtr + total } }) := by
  unfold offTMax at small
  have value : (BitVec.ofNat 64 total).toNat = total := by
    rw [BitVec.toNat_ofNat, Nat.mod_eq_of_lt (by omega)]
  have result : (BitVec.ofNat 64 total).toInt = (total : Int) := by
    rw [BitVec.toInt_eq_toNat_of_lt (by omega), value]
  have position : (next.filePtr entry + BitVec.ofNat 64 total).toNat =
      (next.fds.fdTable entry).filePtr + total := by
    rw [filePtr, ← BitVec.ofNat_add, BitVec.toNat_ofNat, Nat.mod_eq_of_lt (by omega)]
  dsimp only [outcomeOf, setFilePtr]
  rw [result, position]
  rfl

/-- Reading and writing go through the range of the file from the position on, as far as the server
moves it, and stop behind the first part that is short. The position moves as far, and apart from
the memory or the file, and a buffer that was free, nothing changes. -/
theorem file_transfer_moves_range (laws : PositionedIo env storage) (direction : Direction)
    (locals : Locals) (len : Nat) {fd : Int} (found : client.fds.posixFdEntry fd = some entry)
    (notNull : buf ≠ 0) (room : client.fsBufferAllocate.isSome)
    (available : env.available client.server.1 = true)
    (opened : storage.opened client.server.1 (client.serverFd entry) = some inode)
    (position : (client.fds.fdTable entry).filePtr ≤ offTMax) :
    ∃ i rounds next, client.buffers.used i = false ∧ Rounds 0 len rounds ∧
      Moved storage direction entry inode (i * Fs.fsBufferSize) buf client rounds next ∧
      direction.call env.recording client locals buf len fd =
        some ((movedBy rounds : Int), { next with
          fds := next.fds.setEntry entry { next.fds.fdTable entry with
            filePtr := (client.fds.fdTable entry).filePtr + movedBy rounds } }) := by
  have position' : (client.filePtr entry).toNat ≤ offTMax := (filePtr_toNat position).trans_le position
  by_cases none : len = 0
  · obtain ⟨⟨buffer, allocated⟩, taken⟩ := Option.isSome_iff_exists.mp room
    obtain ⟨i, _, unused, _⟩ := fsBufferAllocate_eq_some taken
    refine ⟨i, [], client, unused, by rw [none]; exact .done, Moved.refl position', ?_⟩
    rw [call_eq, fileTransfer, if_pos none]
    dsimp only [movedBy_nil, FdTable.setEntry]
    rw [Nat.add_zero, update_eq_self]
    rfl
  · obtain ⟨i, small, unused, called⟩ := fileTransfer_eq
      (direction.chunk env.recording) locals.rounds notNull none found room
    have start : Moving env storage direction entry inode (i * Fs.fsBufferSize) buf
        (client.holding i) [] (client.holding i) := ⟨Moved.refl position', available, opened⟩
    have ended := chunkLoop_end (chunk_step laws small) start (Nat.zero_le len)
      (fun _ => List.forall_mem_nil _) locals.rounds
    rw [movedBy_nil, Nat.sub_zero, Nat.add_zero] at ended
    obtain ⟨transfer, looped⟩ : ∃ transfer, chunkLoop (fun client =>
        direction.chunk env.recording client entry (i * Fs.fsBufferSize)) locals.rounds 0 buf len
          (client.holding i) = transfer := ⟨_, rfl⟩
    rw [show (0#64) = 0 from rfl, looped] at ended
    cases transfer with
    | failed result next => exact ended.choose_spec.elim
    | moved total next =>
      obtain ⟨rounds, valid, sum, moving⟩ := ended
      have used : next.buffers.used i = true := by
        rw [moving.rest]
        exact update_self _ _ _
      have sameTable : next.fds = client.fds := by rw [moving.rest]; rfl
      have held : ((client.holding i).filePtr entry).toNat = (client.fds.fdTable entry).filePtr :=
        filePtr_toNat position
      have small := moving.small
      rw [held, ← sameTable] at small
      refine ⟨i, rounds, next.freed i, unused, valid, Moved.freed unused moving.toMoved, ?_⟩
      rw [call_eq, called _ looped used, sum, outcomeOf_moved small, ← sameTable]
      rfl

end Ranges

/-! ### A server with one file -/

/-- What a server with one file answers: it reads and writes as much as it can. -/
def answerOneFile (command : FsCommand) (share : Nat → UInt8T) (file : StoredFile) :
    Answered StoredFile :=
  match command with
  | .fileRead _ offset buf =>
    let count := min buf.size.toNat (min file.size offTMax - offset.toNat)
    { completion := { status := fsStatusSuccess, data := BitVec.ofNat 64 count }
      share := copy share ⟨buf.offset.toNat, count⟩ file.bytes offset.toNat
      server := file }
  | .fileWrite _ offset buf =>
    let count := min buf.size.toNat (offTMax - offset.toNat)
    { completion := { status := fsStatusSuccess, data := BitVec.ofNat 64 count }
      share
      server := file.pwrite offset.toNat count share buf.offset.toNat }
  | _ => { completion := { status := Fs.fsStatusError, data := 0 }, share, server := file }

def oneFile : FileEnv StoredFile where
  available _ := true
  answer := answerOneFile
  behindErrnos _ := 0
  protocol command share file := by
    cases command <;> exact of_decide_eq_true rfl

def oneFileStorage : Storage StoredFile Unit where
  opened _ _ := some ()
  file file _ := file

theorem toNat_ofNat_min (size : UInt64T) (bound : Nat) :
    (BitVec.ofNat 64 (min size.toNat bound)).toNat = min size.toNat bound := by
  rw [BitVec.toNat_ofNat, Nat.mod_eq_of_lt]
  exact (Nat.min_le_left _ _).trans_lt size.isLt

theorem oneFile_positionedIo : PositionedIo oneFile oneFileStorage where
  pread {fd offset buf server inode} share _ _ position _ := by
    have data := toNat_ofNat_min buf.size (min server.size offTMax - offset.toNat)
    dsimp only [oneFile, answerOneFile, oneFileStorage]
    rw [data]
    refine ⟨⟨rfl, ?_, ?_, fun address outside => ?_, rfl, rfl⟩, rfl, fun some_moved => ?_,
      fun index inside => ?_⟩
    · rw [data]
      exact Nat.min_le_left _ _
    · rw [data]
      omega
    · refine copy_of_not_mem fun inside => outside ⟨inside.1, inside.2.trans_le ?_⟩
      exact Nat.add_le_add_left (Nat.min_le_left _ _) _
    · omega
    · rw [copy_of_mem ⟨Nat.le_add_right _ _, Nat.add_lt_add_left inside _⟩,
        Nat.add_sub_cancel_left]
  pwrite {fd offset buf server inode} share _ _ position _ := by
    have data := toNat_ofNat_min buf.size (offTMax - offset.toNat)
    dsimp only [oneFile, answerOneFile, oneFileStorage]
    rw [data]
    refine ⟨⟨rfl, ?_, ?_, fun _ _ => rfl, rfl, rfl⟩, ?_⟩
    · rw [data]
      exact Nat.min_le_left _ _
    · rw [data]
      omega
    · funext other
      rw [update_apply, if_pos (Subsingleton.elim _ _)]

/-- The flags of a file that is opened for reading and writing. -/
def readWriteFlags : OpenFlags where
  directory := false
  creat := false
  excl := false
  wronly := false
  rdwr := true
  trunc := false
  nonblock := false

/-- The file `/a` is open with the descriptor 3. -/
def openedFile {Server : Type} (server : Server) : FileClient Server 128 :=
  ({ initial (fun _ => 0) server with
      fds := { FdTable.initial with fdActive := update FdTable.initial.fdActive 3 true }
    }).enterFile 3 readWriteFlags [0x2f, 0x61] 0

/-- Variables of a call that hold zeroes. -/
def zeroedLocals : Locals where
  completion := ⟨0, 0⟩
  rounds _ := ⟨0, 0⟩
  fstatInt _ := ⟨0, 0⟩
  statbuf _ := .zeroed

/-- Two buffers and a half are written to the one file, which is empty. -/
theorem oneFile_written : ∃ i rounds next,
    (openedFile ((⟨0, fun _ => 0⟩ : StoredFile), ([] : List Exchange))).buffers.used i = false ∧
      Rounds 0 81920 rounds ∧
      Moved oneFileStorage .write 3 () (i * Fs.fsBufferSize) 1
        (openedFile (⟨0, fun _ => 0⟩, [])) rounds next ∧
      call .write oneFile.recording (openedFile (⟨0, fun _ => 0⟩, [])) zeroedLocals 1 81920
          3 = some ((movedBy rounds : Int), { next with
        fds := next.fds.setEntry 3 { next.fds.fdTable 3 with filePtr := 0 + movedBy rounds } }) :=
  file_transfer_moves_range oneFile_positionedIo .write zeroedLocals 81920 rfl (by decide)
    (fsBufferAllocate_isSome (show 0 < Fs.numBuffers by decide) rfl) rfl rfl (by decide)

end LionsOS.Posix

/-
This file embeds what both file system servers do with the parameters of a
command and the memory they share with the client: the fields of the parameters,
the buffers that a command names, and the checks of `memory.c` on these. Addresses
are relative to the start of the share. A checked buffer lies in the share
whatever its offset and size are, since the check never adds them.
-/

import LionsOS.Fs.Protocol
import LionsOS.Lib.Bytes

namespace LionsOS.Fs

variable {clientShareSize : UInt64T} {share : Nat → UInt8T} {path : List UInt8T} {data : UInt64T}

/-! ### Constants of the protocol -/

def fsMaxNameLength : Nat := 255
def fsMaxPathLength : Nat := 4095

def fsStatusSuccess : UInt64T := 0
def fsStatusError : UInt64T := 1
def fsStatusInvalidBuffer : UInt64T := 2
def fsStatusInvalidPath : UInt64T := 3
def fsStatusInvalidFd : UInt64T := 4
def fsStatusAllocationError : UInt64T := 5
def fsStatusOutstandingOperations : UInt64T := 6
def fsStatusInvalidName : UInt64T := 7
def fsStatusTooManyOpenFiles : UInt64T := 8
def fsStatusInvalidCommand : UInt64T := 13
def fsStatusEndOfDirectory : UInt64T := 14
def fsStatusNoFile : UInt64T := 15
def fsStatusNotDirectory : UInt64T := 16
def fsStatusAlreadyExists : UInt64T := 17
def fsStatusNotEmpty : UInt64T := 18

/-- The types of commands, in the order of their numbers. -/
inductive CmdType where
  | initialise
  | deinitialise
  | fileOpen
  | fileClose
  | stat
  | fileRead
  | fileWrite
  | fileSize
  | rename
  | fileRemove
  | fileTruncate
  | dirCreate
  | dirRemove
  | dirOpen
  | dirClose
  | fileSync
  | dirRead
  | dirSeek
  | dirTell
  | dirRewind
  deriving DecidableEq

namespace CmdType

def all : List CmdType :=
  [initialise, deinitialise, fileOpen, fileClose, stat, fileRead, fileWrite, fileSize, rename,
    fileRemove, fileTruncate, dirCreate, dirRemove, dirOpen, dirClose, fileSync, dirRead, dirSeek,
    dirTell, dirRewind]

/-- The command of a type number, which indexes the table of handlers. -/
def ofNumber (number : UInt64T) : Option CmdType :=
  all[number.toNat]?

end CmdType

/-! ### Parameters -/

abbrev CmdParams := Fin 48 → UInt8T

/-- A 64-bit field of the parameters; its bytes lie from the least significant on. -/
def paramWord (params : CmdParams) (field : Fin 6) : UInt64T :=
  (List.finRange 8).foldr (fun (byte : Fin 8) word =>
    word <<< 8 ||| (params ⟨8 * field + byte, by omega⟩).setWidth 64) 0

/-- The parameters with these fields, as a client puts them together. -/
def paramsOf (words : List UInt64T) : CmdParams := fun byte =>
  ((words[byte.val / 8]?.getD 0) >>> (8 * (byte.val % 8))).setWidth 8

@[ext]
structure FsBuffer where
  offset : UInt64T
  size : UInt64T
  deriving DecidableEq

variable {buf : FsBuffer}

/-- A buffer whose two words begin at a field. -/
def paramBuffer (params : CmdParams) (field : Fin 5) : FsBuffer where
  offset := paramWord params field.castSucc
  size := paramWord params field.succ

/-- The buffers that a command names. -/
def CmdType.buffers (type : CmdType) (params : CmdParams) : List FsBuffer :=
  match type with
  | .fileOpen | .fileRemove | .dirCreate | .dirRemove | .dirOpen => [paramBuffer params 0]
  | .stat | .rename => [paramBuffer params 0, paramBuffer params 2]
  | .fileRead | .fileWrite => [paramBuffer params 2]
  | .dirRead => [paramBuffer params 1]
  | _ => []

/-! ### Checked buffers -/

namespace FsBuffer

/-- The bytes of the buffer, which may lie beyond the share. -/
def range (buf : FsBuffer) : Bytes.Range where
  start := buf.offset.toNat
  length := buf.size.toNat

end FsBuffer

/-- Where a buffer starts in the share, if all of it lies there and it is not empty. -/
def fsGetClientBuffer (clientShareSize : UInt64T) (buf : FsBuffer) : Option UInt64T :=
  if clientShareSize ≤ buf.offset ∨ clientShareSize - buf.offset < buf.size ∨ buf.size = 0 then none
  else some buf.offset

theorem fsGetClientBuffer_eq_some :
    fsGetClientBuffer clientShareSize buf = some data ↔ data = buf.offset ∧ 0 < buf.size.toNat ∧
        buf.offset.toNat + buf.size.toNat ≤ clientShareSize.toNat := by
  unfold fsGetClientBuffer
  split
  case isTrue rejected =>
    refine iff_of_false (by simp) fun ⟨_, notEmpty, inside⟩ => ?_
    rcases rejected with beyond | tooLong | empty
    · have beyond := BitVec.le_def.mp beyond
      omega
    · have behind : buf.offset ≤ clientShareSize := BitVec.le_def.mpr (by omega)
      have tooLong := BitVec.lt_def.mp tooLong
      rw [BitVec.toNat_sub_of_le behind] at tooLong
      omega
    · rw [empty] at notEmpty
      exact absurd notEmpty (Nat.lt_irrefl 0)
  case isFalse accepted =>
    rw [not_or, not_or] at accepted
    obtain ⟨before, fits, notEmpty⟩ := accepted
    have before := BitVec.lt_def.mp (BitVec.not_le.mp before)
    have fits := BitVec.le_def.mp (BitVec.not_lt.mp fits)
    rw [BitVec.toNat_sub_of_le (BitVec.le_def.mpr before.le)] at fits
    have positive : 0 < buf.size.toNat :=
      Nat.pos_of_ne_zero fun zero => notEmpty (BitVec.eq_of_toNat_eq zero)
    rw [Option.some.injEq]
    exact ⟨fun same => ⟨same.symm, positive, by omega⟩, fun same => same.1.symm⟩

/-- The bytes of a range of a memory. -/
def bytesAt (memory : Nat → UInt8T) (range : Bytes.Range) : List UInt8T :=
  (List.range range.length).map fun index => memory (range.start + index)

theorem bytesAt_copy (memory : Nat → UInt8T) (start : Nat) (bytes : List UInt8T) :
    bytesAt (Bytes.copy memory ⟨start, bytes.length⟩ (fun index => bytes[index]?.getD 0) 0)
      ⟨start, bytes.length⟩ = bytes := by
  refine List.ext_getElem (by rw [bytesAt, List.length_map, List.length_range]) ?_
  intro index _ inside
  have within : start + index ∈ (⟨start, bytes.length⟩ : Bytes.Range) :=
    ⟨Nat.le_add_right _ _, Nat.add_lt_add_left inside _⟩
  simp only [bytesAt, List.getElem_map, List.getElem_range]
  rw [Bytes.copy_of_mem within, Nat.zero_add, Nat.add_sub_cancel_left,
    List.getElem?_eq_getElem inside, Option.getD_some]

/-- What is written to the destination: the bytes of a path and a zero. -/
def fsCopyClientPath (share : Nat → UInt8T) (clientShareSize : UInt64T) (buf : FsBuffer) :
    Option (List UInt8T) :=
  match fsGetClientBuffer clientShareSize buf with
  | none => none
  | some _ =>
    if fsMaxPathLength < buf.size.toNat then none
    else some (bytesAt share buf.range ++ [0])

/-- What a copy of a path writes, from the start of a destination of a declared size on. -/
structure PathWrite where
  declared : Nat
  written : Nat

/-- The copy stays in its destination. -/
def PathWrite.Inside (write : PathWrite) : Prop :=
  write.written ≤ write.declared

instance (write : PathWrite) : Decidable write.Inside :=
  inferInstanceAs (Decidable (_ ≤ _))

theorem fsGetClientBuffer_of_fsCopyClientPath
    (copied : fsCopyClientPath share clientShareSize buf = some path) :
    fsGetClientBuffer clientShareSize buf = some buf.offset := by
  unfold fsCopyClientPath at copied
  split at copied
  case h_1 => cases copied
  case h_2 data checked =>
    rw [checked, (fsGetClientBuffer_eq_some.mp checked).1]

/-! ### Accesses -/

/-- An access to the share, with the command it is made for. -/
structure ShareAccess where
  type : CmdType
  params : CmdParams
  range : Bytes.Range

/-- Whether an access stays in the share and in one of the buffers that the command names. -/
def Allowed (clientShareSize : UInt64T) (buffers : List FsBuffer) (access : Bytes.Range) : Prop :=
  ∃ buf ∈ buffers, (fsGetClientBuffer clientShareSize buf).isSome ∧ access ⊆ buf.range

theorem Allowed.lt {buffers : List FsBuffer} {access : Bytes.Range}
    (allowed : Allowed clientShareSize buffers access) {address : Nat} (touched : address ∈ access) :
    address < clientShareSize.toNat := by
  obtain ⟨buf, _, checked, inside⟩ := allowed
  obtain ⟨data, checked⟩ := Option.isSome_iff_exists.mp checked
  exact (inside address touched).2.trans_le (fsGetClientBuffer_eq_some.mp checked).2.2

theorem allowed_of_checked {buffers : List FsBuffer} (named : buf ∈ buffers)
    (checked : fsGetClientBuffer clientShareSize buf = some data) {length : Nat}
    (fits : length ≤ buf.size.toNat) : Allowed clientShareSize buffers ⟨data.toNat, length⟩ := by
  refine ⟨buf, named, by rw [checked, Option.isSome_some], ?_⟩
  rw [(fsGetClientBuffer_eq_some.mp checked).1]
  rintro address ⟨after, before⟩
  exact ⟨after, before.trans_le (Nat.add_le_add_left fits _)⟩

theorem Allowed.shorten {buffers : List FsBuffer} {start length shorter : Nat}
    (allowed : Allowed clientShareSize buffers ⟨start, length⟩) (less : shorter ≤ length) :
    Allowed clientShareSize buffers ⟨start, shorter⟩ := by
  obtain ⟨buf, named, checked, inside⟩ := allowed
  refine ⟨buf, named, checked, fun address touched => inside address ?_⟩
  exact ⟨touched.1, touched.2.trans_le (Nat.add_le_add_left less start)⟩

theorem allowed_of_copied {buffers : List FsBuffer} (named : buf ∈ buffers)
    (copied : fsCopyClientPath share clientShareSize buf = some path) :
    Allowed clientShareSize buffers buf.range :=
  allowed_of_checked named (fsGetClientBuffer_of_fsCopyClientPath copied) le_rfl

end LionsOS.Fs

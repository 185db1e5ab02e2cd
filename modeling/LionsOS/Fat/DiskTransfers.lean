/-
This file is about `disk_read` and `disk_write` run alone, for all the sector sizes
that `disk_initialize` lets through and for as many sectors as a word can count.
The assertion that the blocks fit in the slice of the worker is about whole blocks,
so it fails for sectors that would fit but touch one block more than they fill.
Where the sector size divides a block and the bytes are fewer than 2 ^ 32, the
blocks are the fewest that hold the sectors, and just the sectors are transferred.
-/

import LionsOS.Fat.BlockIo
import LionsOS.Lib.BlockCovers
import Mathlib.Tactic.IntervalCases

namespace LionsOS.Fat

open Bytes BitVec

/-! ### Sector sizes -/

def isPowerOf2 (x : UInt32T) : Bool :=
  x ≠ 0 && x &&& (x - 1) = 0

/-- What `disk_initialize` asserts of the sector size. A size of zero would fail in the division. -/
def CheckedSectorSize (sectorSize : UInt16T) : Prop :=
  sectorSize.setWidth 32 % 512 = 0 ∧ sectorSize.setWidth 32 ≤ blkTransferSize ∧
    isPowerOf2 (blkTransferSize / sectorSize.setWidth 32) = true

instance (sectorSize : UInt16T) : Decidable (CheckedSectorSize sectorSize) :=
  inferInstanceAs (Decidable (_ ∧ _ ∧ _))

/-- How many sectors it takes at least to fill blocks. -/
def sectorsPerBlock (sectorSize : UInt16T) : Nat :=
  4096 / Nat.gcd 4096 sectorSize.toNat

section

variable {sectorSize : UInt16T} (checked : CheckedSectorSize sectorSize)
include checked

theorem CheckedSectorSize.sizes :
    sectorSize = 512 ∨ sectorSize = 1024 ∨ sectorSize = 1536 ∨ sectorSize = 2048 ∨
      sectorSize = 2560 ∨ sectorSize = 3072 ∨ sectorSize = 3584 ∨ sectorSize = 4096 := by
  obtain ⟨multiple, most, power⟩ := checked
  have multiple : sectorSize.toNat % 512 = 0 := by
    have multiple := congrArg BitVec.toNat multiple
    rwa [BitVec.toNat_umod] at multiple
  have most : sectorSize.toNat ≤ 4096 := by
    rwa [BitVec.le_def] at most
  have times : ∃ times : Nat, times ≤ 8 ∧ sectorSize = BitVec.ofNat 16 (512 * times) := by
    refine ⟨sectorSize.toNat / 512, by omega, BitVec.eq_of_toNat_eq ?_⟩
    rw [BitVec.toNat_ofNat]
    omega
  obtain ⟨times, few, rfl⟩ := times
  interval_cases times
  · exact absurd power (by decide)
  all_goals decide

theorem CheckedSectorSize.perTransfer :
    ∃ shift, PerTransfer sectorSize shift ∧ 2 ^ shift = sectorsPerBlock sectorSize := by
  rcases checked.sizes with rfl | rfl | rfl | rfl | rfl | rfl | rfl | rfl
  · exact ⟨3, ⟨by decide, by decide +kernel, by decide +kernel⟩, by decide⟩
  · exact ⟨2, ⟨by decide, by decide +kernel, by decide +kernel⟩, by decide⟩
  · exact ⟨3, ⟨by decide, by decide +kernel, by decide +kernel⟩, by decide⟩
  · exact ⟨1, ⟨by decide, by decide +kernel, by decide +kernel⟩, by decide⟩
  · exact ⟨3, ⟨by decide, by decide +kernel, by decide +kernel⟩, by decide⟩
  · exact ⟨2, ⟨by decide, by decide +kernel, by decide +kernel⟩, by decide⟩
  · exact ⟨3, ⟨by decide, by decide +kernel, by decide +kernel⟩, by decide⟩
  · exact ⟨0, ⟨by decide, by decide +kernel, by decide +kernel⟩, by decide⟩

theorem CheckedSectorSize.mountable_iff : Mountable sectorSize ↔ sectorSize.toNat ∣ 4096 := by
  rcases checked.sizes with rfl | rfl | rfl | rfl | rfl | rfl | rfl | rfl
  all_goals decide

end

/-! ### The assertion -/

/-- The sectors of a call of `disk_read` or `disk_write`, and what the call is limited by. -/
structure DiskTransfer where
  sectorSize : UInt16T
  maxClusterSize : UInt64T
  /-- Where the slice of the worker starts in the data region. -/
  dataOffset : Nat
  sector : UInt32T
  count : UInt32T

namespace DiskTransfer

/-- The assertion of `disk_read`, which compares a signed number with an unsigned one. -/
def ReadAsserts (transfer : DiskTransfer) : Prop :=
  (mulPowerOf2 (sddfCount transfer.sectorSize transfer.sector transfer.count)
    blkTransferSize).signExtend 64 ≤ transfer.maxClusterSize

/-- The assertion of `disk_write`. -/
def WriteAsserts (transfer : DiskTransfer) : Prop :=
  if transfer.sectorSize.setWidth 32 = blkTransferSize then
    (mulPowerOf2 transfer.count blkTransferSize).setWidth 64 ≤ transfer.maxClusterSize
  else transfer.ReadAsserts

instance (transfer : DiskTransfer) : Decidable transfer.ReadAsserts :=
  inferInstanceAs (Decidable (_ ≤ _))

instance (transfer : DiskTransfer) : Decidable transfer.WriteAsserts :=
  inferInstanceAs (Decidable (if transfer.sectorSize.setWidth 32 = blkTransferSize then
    (mulPowerOf2 transfer.count blkTransferSize).setWidth 64 ≤ transfer.maxClusterSize
  else transfer.ReadAsserts))

/-- The bytes of the sectors. -/
def sectorBytes (transfer : DiskTransfer) : Nat :=
  transfer.sectorSize.toNat * transfer.count.toNat

/-- The bytes of the blocks that hold the sectors. -/
def blockBytes (transfer : DiskTransfer) : Nat :=
  let perBlock := sectorsPerBlock transfer.sectorSize
  4096 * ((transfer.sector.toNat + transfer.count.toNat + (perBlock - 1)) / perBlock -
    transfer.sector.toNat / perBlock)

/-- The bytes of the blocks, as the signed number of 32 bits that the assertion extends to 64 bits,
are at most those of a cluster. -/
def BlocksFit (transfer : DiskTransfer) : Prop :=
  if transfer.blockBytes % 2 ^ 32 < 2 ^ 31 then
    transfer.blockBytes % 2 ^ 32 ≤ transfer.maxClusterSize.toNat
  else 2 ^ 64 - 2 ^ 32 + transfer.blockBytes % 2 ^ 32 ≤ transfer.maxClusterSize.toNat

instance (transfer : DiskTransfer) : Decidable transfer.BlocksFit :=
  inferInstanceAs (Decidable (if transfer.blockBytes % 2 ^ 32 < 2 ^ 31 then
    transfer.blockBytes % 2 ^ 32 ≤ transfer.maxClusterSize.toNat
  else 2 ^ 64 - 2 ^ 32 + transfer.blockBytes % 2 ^ 32 ≤ transfer.maxClusterSize.toNat))

variable {transfer : DiskTransfer} {status : BlkRespStatus}

theorem mulPowerOf2_toNat (number : UInt32T) :
    (mulPowerOf2 number blkTransferSize).toNat = number.toNat * 4096 % 2 ^ 32 := by
  have zeros : blkTransferSize.ctz.toNat = 12 := by decide +kernel
  rw [mulPowerOf2, shiftLeft_eq', toNat_shiftLeft, zeros, Nat.shiftLeft_eq]

theorem computed_toNat (checked : CheckedSectorSize transfer.sectorSize) :
    (mulPowerOf2 (sddfCount transfer.sectorSize transfer.sector transfer.count)
      blkTransferSize).toNat = transfer.blockBytes % 2 ^ 32 := by
  obtain ⟨shift, per, perBlock⟩ := checked.perTransfer
  obtain ⟨wraps, isBit, _, computed⟩ := per.sddfCount transfer.sector transfer.count
  rw [mulPowerOf2_toNat, blockBytes, ← perBlock]
  unfold coveringBlocks at computed
  have small := per.small
  obtain rfl | rfl | rfl | rfl : shift = 0 ∨ shift = 1 ∨ shift = 2 ∨ shift = 3 := by omega
  all_goals omega

theorem readAsserts_iff (checked : CheckedSectorSize transfer.sectorSize) :
    transfer.ReadAsserts ↔ transfer.BlocksFit := by
  have computed := computed_toNat checked
  rw [ReadAsserts, le_def, toNat_signExtend, toNat_setWidth_of_le (by decide),
    BlocksFit, ← computed]
  generalize mulPowerOf2 (sddfCount transfer.sectorSize transfer.sector transfer.count)
    blkTransferSize = bytes
  by_cases negative : bytes.msb
  · have large := msb_eq_true_iff_two_mul_ge.mp negative
    rw [if_pos negative, if_neg (by omega), Nat.add_comm]
  · have few := msb_eq_false_iff_two_mul_lt.mp (eq_false_of_ne_true negative)
    rw [if_neg negative, if_pos (by omega), Nat.add_zero]

theorem writeAsserts_of_blocks (whole : transfer.sectorSize.setWidth 32 = blkTransferSize)
    (fits : transfer.sectorBytes ≤ transfer.maxClusterSize.toNat) : transfer.WriteAsserts := by
  have size : transfer.sectorSize.toNat = 4096 := by
    have same := congrArg BitVec.toNat whole
    rwa [BitVec.toNat_setWidth_of_le (by decide)] at same
  rw [sectorBytes, size] at fits
  rw [WriteAsserts, if_pos whole, BitVec.le_def, BitVec.toNat_setWidth_of_le (by decide),
    mulPowerOf2_toNat]
  omega

/-- Of sectors that fit in the bytes of a cluster, the assertion that their blocks fit in a slice
holds in `disk_read` and in `disk_write` exactly if their blocks have no more bytes than that. -/
theorem slice_holds_blocks_iff (transfer : DiskTransfer)
    (checked : CheckedSectorSize transfer.sectorSize)
    (fits : transfer.sectorBytes ≤ transfer.maxClusterSize.toNat) :
    transfer.ReadAsserts ∧ transfer.WriteAsserts ↔ transfer.BlocksFit := by
  rw [← readAsserts_iff checked]
  refine and_iff_left_of_imp fun reads => ?_
  by_cases whole : transfer.sectorSize.setWidth 32 = blkTransferSize
  · exact writeAsserts_of_blocks whole fits
  · rw [WriteAsserts, if_neg whole]
    exact reads

/-- A cluster of 128 KiB in four slices of that size. The first partition starts at sector 63. -/
def wholeCluster : DiskTransfer where
  sectorSize := 512
  maxClusterSize := 131072
  dataOffset := 0
  sector := 63
  count := 256

theorem whole_cluster_fails :
    CheckedSectorSize wholeCluster.sectorSize ∧
      wholeCluster.sectorBytes ≤ wholeCluster.maxClusterSize.toNat ∧
      ¬wholeCluster.ReadAsserts ∧ ¬wholeCluster.WriteAsserts := by
  refine ⟨by decide, by decide, by decide +kernel, by decide +kernel⟩

/-- The same sectors where the partition starts with a block. -/
theorem aligned_cluster_fits :
    ReadAsserts { wholeCluster with sector := 64 } ∧
      WriteAsserts { wholeCluster with sector := 64 } :=
  (slice_holds_blocks_iff { wholeCluster with sector := 64 } (by decide) (by decide)).mpr
    (by decide)

/-! ### Calls that run alone -/

/-- What a call has requested, what it leaves behind and what it returns. -/
structure Run where
  requests : List BlkReq
  io : BlkIo
  res : BlkRespStatus

/-- How many bytes `memcpy` copies. -/
def copied (transfer : DiskTransfer) : Nat :=
  (transfer.sectorSize.setWidth 32 * transfer.count).toNat

/-- Where the sectors start in their blocks. -/
def placeInBlocks (transfer : DiskTransfer) : Nat :=
  (transfer.sectorSize.setWidth 32 *
    modPowerOf2 transfer.sector (sectorPerTransfer transfer.sectorSize)).toNat

/-- The bytes to write are copied to a place in the slice. -/
def fill (transfer : DiskTransfer) (io : BlkIo) (place : Nat) (buff : Nat → UInt8T) : BlkIo :=
  { io with
    blkData := copy io.blkData ⟨transfer.dataOffset + place, transfer.copied⟩ buff 0 }

/-- The device has answered a request. -/
def answered (io : BlkIo) (request : BlkReq) (status : BlkRespStatus) : BlkIo :=
  if status = .ok then io.serve request else io

section Queue

-- What the queue to the block virtualiser, whose code is not here, keeps of a count.
variable (queued : UInt32T → UInt32T) (transfer : DiskTransfer)

/-- The request for the blocks. -/
def request (code : BlkReqCode) : BlkReq where
  code := code
  offset := transfer.dataOffset
  block := sddfSector transfer.sectorSize transfer.sector
  count := queued (sddfCount transfer.sectorSize transfer.sector transfer.count)

/-- `disk_read`, also with what is in the buffer afterwards. `none` when its assertion fails. -/
def diskRead (io : BlkIo) (status : BlkRespStatus) (buff : Nat → UInt8T) :
    Option (Run × (Nat → UInt8T)) :=
  if transfer.ReadAsserts then
    let request := transfer.request queued .read
    let io := answered io request status
    some ({ requests := [request], io, res := status },
      copy buff ⟨0, transfer.copied⟩ io.blkData (transfer.dataOffset + transfer.placeInBlocks))
  else none

/-- `disk_write`, given what the device answers to each request. -/
def diskWrite (io : BlkIo) (readStatus writeStatus : BlkRespStatus) (buff : Nat → UInt8T) :
    Option Run :=
  if transfer.WriteAsserts then
    if transfer.sectorSize.setWidth 32 = blkTransferSize then
      let request : BlkReq :=
        { code := .write
          offset := transfer.dataOffset
          block := transfer.sector
          count := queued transfer.count }
      some { requests := [request]
             io := answered (transfer.fill io 0 buff) request writeStatus
             res := writeStatus }
    else if unalignedHeadSector transfer.sectorSize transfer.sector = 0 ∧
        unalignedTailSector transfer.sectorSize transfer.sector transfer.count = 0 then
      let request := transfer.request queued .write
      some { requests := [request]
             io := answered (transfer.fill io 0 buff) request writeStatus
             res := writeStatus }
    else
      let readRequest := transfer.request queued .read
      let io := answered io readRequest readStatus
      if readStatus = .ok then
        let writeRequest := transfer.request queued .write
        some { requests := [readRequest, writeRequest]
               io := answered (transfer.fill io transfer.placeInBlocks buff) writeRequest
                 writeStatus
               res := writeStatus }
      else some { requests := [readRequest], io, res := readStatus }
  else none

end Queue

/-- The transfer of a worker among others. -/
def ofSectors (config : BlkConfig) (maxClusterSize : UInt64T) (handle : Fin fatThreadNum)
    (sectors : Sectors) : DiskTransfer where
  sectorSize := config.sectorSize
  maxClusterSize := maxClusterSize
  dataOffset := threadBlkAddr config handle
  sector := sectors.sector
  count := sectors.count

section Workers

variable {config : BlkConfig} {maxClusterSize : UInt64T} {handle : Fin fatThreadNum}

end Workers

/-! ### Exact transfers -/

/-- The bytes of the sectors on the disk. -/
def sectorRange (transfer : DiskTransfer) : Range where
  start := transfer.sectorSize.toNat * transfer.sector.toNat
  length := transfer.sectorBytes

/-- A request for the fewest blocks that hold the sectors. -/
def Requests (transfer : DiskTransfer) (request : BlkReq) : Prop :=
  LeastCover 4096 transfer.sectorRange request.block.toNat request.count.toNat

/-- How the sectors lie in the blocks that are computed. -/
structure Placed (transfer : DiskTransfer) (block count : UInt32T) (place : Nat) : Prop where
  cover : LeastCover 4096 transfer.sectorRange block.toNat count.toNat
  start : 4096 * block.toNat + place = transfer.sectorRange.start

theorem copied_eq (few : transfer.sectorBytes < 2 ^ 32) :
    transfer.copied = transfer.sectorBytes := by
  exact Nat.mod_eq_of_lt few

section

variable {shift : Nat} (fills : Fills transfer.sectorSize shift)
include fills

theorem short_of_few (few : transfer.sectorBytes < 2 ^ 32) : transfer.count.toNat < 2 ^ 31 := by
  unfold sectorBytes at few
  rcases fills.sizes with ⟨_, size⟩ | ⟨_, size⟩ | ⟨_, size⟩ | ⟨_, size⟩
  all_goals rw [size] at few; omega

theorem placeInBlocks_eq :
    transfer.placeInBlocks = transfer.sectorSize.toNat * (transfer.sector.toNat % 2 ^ shift) := by
  rw [placeInBlocks, toNat_mul, toNat_setWidth_of_le (by decide),
    modPowerOf2_toNat transfer.sector fills.perTransfer]
  rcases fills.sizes with ⟨rfl, size⟩ | ⟨rfl, size⟩ | ⟨rfl, size⟩ | ⟨rfl, size⟩
  all_goals rw [size]; omega

theorem placed (some : 1 ≤ transfer.count.toNat) (few : transfer.sectorBytes < 2 ^ 32) :
    transfer.Placed (sddfSector transfer.sectorSize transfer.sector)
      (sddfCount transfer.sectorSize transfer.sector transfer.count) transfer.placeInBlocks := by
  have block := fills.sddfSector transfer.sector
  have count := fills.arithmetic.sddfCount_of_short transfer.sector (short_of_few fills few)
  have length : 0 < transfer.sectorRange.length := by
    refine Nat.mul_pos ?_ some
    rcases fills.sizes with ⟨_, size⟩ | ⟨_, size⟩ | ⟨_, size⟩ | ⟨_, size⟩
    all_goals omega
  refine ⟨(leastCover_iff (by decide) length).mpr ?_, ?_⟩
  · rw [count, coveringBlocks]
    simp only [sectorRange, sectorBytes]
    rcases fills.sizes with ⟨rfl, size⟩ | ⟨rfl, size⟩ | ⟨rfl, size⟩ | ⟨rfl, size⟩
    all_goals rw [size]; omega
  · rw [placeInBlocks_eq fills]
    simp only [sectorRange]
    rcases fills.sizes with ⟨rfl, size⟩ | ⟨rfl, size⟩ | ⟨rfl, size⟩ | ⟨rfl, size⟩
    all_goals rw [size]; omega

/-- Sectors of the size of a block are blocks. -/
theorem whole_blocks (few : transfer.sectorBytes < 2 ^ 32)
    (whole : transfer.sectorSize.setWidth 32 = blkTransferSize) :
    sddfSector transfer.sectorSize transfer.sector = transfer.sector ∧
      sddfCount transfer.sectorSize transfer.sector transfer.count = transfer.count ∧
      unalignedHeadSector transfer.sectorSize transfer.sector = 0 ∧
      unalignedTailSector transfer.sectorSize transfer.sector transfer.count = 0 := by
  have size : transfer.sectorSize.toNat = 4096 := by
    have same := congrArg BitVec.toNat whole
    rwa [BitVec.toNat_setWidth_of_le (by decide)] at same
  have block := fills.sddfSector transfer.sector
  have count := fills.arithmetic.sddfCount_of_short transfer.sector (short_of_few fills few)
  have head := fills.unalignedHeadSector transfer.sector
  have tail := fills.arithmetic.unalignedTailSector transfer.sector transfer.count
  unfold coveringBlocks at count
  rcases fills.sizes with ⟨rfl, _⟩ | ⟨_, other⟩ | ⟨_, other⟩ | ⟨_, other⟩
  · have zero : (0 : UInt32T).toNat = 0 := rfl
    refine ⟨BitVec.eq_of_toNat_eq ?_, BitVec.eq_of_toNat_eq ?_, BitVec.eq_of_toNat_eq ?_,
      BitVec.eq_of_toNat_eq ?_⟩
    all_goals omega
  all_goals omega

/-- Sectors that start and end with a block fill their blocks. -/
theorem filled_of_aligned (few : transfer.sectorBytes < 2 ^ 32)
    (head : unalignedHeadSector transfer.sectorSize transfer.sector = 0)
    (tail : unalignedTailSector transfer.sectorSize transfer.sector transfer.count = 0) :
    transfer.placeInBlocks = 0 ∧
      4096 * (sddfCount transfer.sectorSize transfer.sector transfer.count).toNat =
        transfer.sectorBytes := by
  have headNone := fills.unalignedHeadSector transfer.sector
  have tailNone := fills.arithmetic.unalignedTailSector transfer.sector transfer.count
  have zero : (0 : UInt32T).toNat = 0 := rfl
  rw [head] at headNone
  rw [tail] at tailNone
  rw [placeInBlocks_eq fills,
    fills.arithmetic.sddfCount_of_short transfer.sector (short_of_few fills few), coveringBlocks,
    sectorBytes]
  rcases fills.sizes with ⟨rfl, size⟩ | ⟨rfl, size⟩ | ⟨rfl, size⟩ | ⟨rfl, size⟩
  all_goals rw [size]; omega

end

/-! ### What is transferred -/

/-- On the disk just the sectors have changed, to the bytes of the buffer. -/
def ChangesSectors (transfer : DiskTransfer) (before after : Nat → UInt8T)
    (buff : Nat → UInt8T) : Prop :=
  (∀ index < transfer.sectorBytes, after (transfer.sectorRange.start + index) = buff index) ∧
    ∀ address, address ∉ transfer.sectorRange → after address = before address

section

variable {io : BlkIo} {block count : UInt32T} {place : Nat}
  (placed : transfer.Placed block count place) (few : transfer.sectorBytes < 2 ^ 32)
include placed few

/-- The slice has the bytes of the blocks but for the sectors; they are filled in and written. -/
theorem changesSectors_of_fill
    (held : ∀ address ∈ Range.mk (4096 * block.toNat) (4096 * count.toNat),
      address ∉ transfer.sectorRange →
      io.blkData (transfer.dataOffset + (address - 4096 * block.toNat)) = io.disk address)
    (buff : Nat → UInt8T) :
    transfer.ChangesSectors io.disk ((transfer.fill io place buff).serve
      { code := .write, offset := transfer.dataOffset, block, count }).disk buff := by
  obtain ⟨notBefore, notAfter⟩ := placed.cover.covers
  have start := placed.start
  have length : transfer.sectorRange.length = transfer.sectorBytes := rfl
  have blockSize : blkTransferSize.toNat = 4096 := rfl
  simp only [BlkIo.serve, fill, copied_eq few, blockSize]
  refine ⟨fun index inside => ?_, fun address outside => ?_⟩
  · have inBlocks : transfer.sectorRange.start + index ∈
        Range.mk (4096 * block.toNat) (4096 * count.toNat) :=
      Range.mem_def.mpr ⟨by dsimp only; omega, by dsimp only; omega⟩
    have filled : transfer.dataOffset + (transfer.sectorRange.start + index - 4096 * block.toNat) ∈
          Range.mk (transfer.dataOffset + place) transfer.sectorBytes :=
      Range.mem_def.mpr ⟨by dsimp only; omega, by dsimp only; omega⟩
    rw [copy_of_mem inBlocks, copy_of_mem filled]
    refine congrArg buff ?_
    dsimp only
    omega
  · by_cases inBlocks : address ∈ Range.mk (4096 * block.toNat) (4096 * count.toNat)
    · rw [copy_of_mem inBlocks, copy_of_not_mem]
      · exact held address inBlocks outside
      · rintro ⟨after, before⟩
        obtain ⟨inStart, inEnd⟩ := inBlocks
        refine outside ⟨?_, ?_⟩
        · dsimp only at after inStart
          omega
        · dsimp only at before inStart
          omega
    · exact copy_of_not_mem inBlocks

theorem read_of_blocks (buff : Nat → UInt8T) {index : Nat} (inside : index < transfer.sectorBytes) :
    copy buff ⟨0, transfer.copied⟩ (io.serve
        { code := .read, offset := transfer.dataOffset, block, count }).blkData
          (transfer.dataOffset + place) index =
      io.disk (transfer.sectorRange.start + index) := by
  obtain ⟨notBefore, notAfter⟩ := placed.cover.covers
  have start := placed.start
  have length : transfer.sectorRange.length = transfer.sectorBytes := rfl
  have blockSize : blkTransferSize.toNat = 4096 := rfl
  have inBuffer : index ∈ Range.mk 0 transfer.sectorBytes :=
    Range.mem_def.mpr ⟨Nat.zero_le _, by dsimp only; omega⟩
  have inSlice : transfer.dataOffset + place + index ∈
      Range.mk transfer.dataOffset (4096 * count.toNat) :=
    Range.mem_def.mpr ⟨by dsimp only; omega, by dsimp only; omega⟩
  simp only [BlkIo.serve, copied_eq few, blockSize]
  rw [copy_of_mem inBuffer, Nat.sub_zero, copy_of_mem inSlice]
  refine congrArg io.disk ?_
  dsimp only
  omega

end

theorem answered_disk_of_read (io : BlkIo) {request : BlkReq} (reads : request.code = .read)
    (status : BlkRespStatus) : (answered io request status).disk = io.disk := by
  unfold answered
  split
  · rw [BlkIo.serve, reads]
  · rfl

/-- What a call does that makes the right requests. -/
structure ExactRun (transfer : DiskTransfer) (io : BlkIo) (run : Run) : Prop where
  requests : run.requests ≠ [] ∧ ∀ request ∈ run.requests, transfer.Requests request
  others : ∀ address, address ∉ transfer.sectorRange → run.io.disk address = io.disk address

/-- The answer to a write that changes just the sectors. -/
theorem exactRun_of_write {io filled : BlkIo} {buff : Nat → UInt8T} {requests : List BlkReq}
    {request : BlkReq} (disk : filled.disk = io.disk)
    (made : requests ≠ [] ∧ ∀ request ∈ requests, transfer.Requests request)
    (changes : transfer.ChangesSectors io.disk (filled.serve request).disk buff) :
    transfer.ExactRun io { requests, io := answered filled request status, res := status } ∧
      (status = .ok → ∀ index < transfer.sectorBytes,
        (answered filled request status).disk (transfer.sectorRange.start + index) =
          buff index) := by
  unfold answered
  by_cases ok : status = .ok
  · rw [if_pos ok]
    exact ⟨⟨made, changes.2⟩, fun _ => changes.1⟩
  · rw [if_neg ok]
    exact ⟨⟨made, fun address _ => congrFun disk address⟩, fun done => absurd done ok⟩

section Exact

variable {queued : UInt32T → UInt32T} {io : BlkIo} {buff : Nat → UInt8T} {shift : Nat}
  (fills : Fills transfer.sectorSize shift)
  (kept : queued (sddfCount transfer.sectorSize transfer.sector transfer.count) =
    sddfCount transfer.sectorSize transfer.sector transfer.count)
  (some : 1 ≤ transfer.count.toNat) (few : transfer.sectorBytes < 2 ^ 32)

include fills kept some few

theorem requests_request (code : BlkReqCode) :
    transfer.Requests (transfer.request queued code) := by
  unfold Requests request
  rw [kept]
  exact (placed fills some few).cover

theorem diskRead_exact {run : Run} {result : Nat → UInt8T}
    (reads : transfer.diskRead queued io status buff = Option.some (run, result)) :
    transfer.ExactRun io run ∧ run.io.disk = io.disk ∧ (run.res = .ok →
      ∀ index < transfer.sectorBytes, result index =
        io.disk (transfer.sectorRange.start + index)) := by
  obtain ⟨_, same⟩ := Option.ite_none_right_eq_some.mp reads
  cases same
  have disk := @answered_disk_of_read io (transfer.request queued .read) rfl status
  refine ⟨⟨⟨by simp, ?_⟩, fun address _ => congrFun disk address⟩, disk, ?_⟩
  · intro request member
    rw [List.mem_singleton.mp member]
    exact requests_request fills kept some few _
  · rintro rfl index inside
    rw [request, kept]
    exact read_of_blocks (placed fills some few) few buff inside

/-- Sectors that fill their blocks are written without the blocks being read. -/
theorem changesSectors_of_aligned
    (head : unalignedHeadSector transfer.sectorSize transfer.sector = 0)
    (tail : unalignedTailSector transfer.sectorSize transfer.sector transfer.count = 0) :
    transfer.ChangesSectors io.disk
      ((transfer.fill io 0 buff).serve (transfer.request queued .write)).disk buff := by
  obtain ⟨none, full⟩ := filled_of_aligned fills few head tail
  have placed := none ▸ placed fills some few
  rw [request, kept]
  refine changesSectors_of_fill placed few (fun address inside outside => absurd ?_ outside) buff
  have start := placed.start
  obtain ⟨notBefore, notAfter⟩ := inside
  refine Range.mem_def.mpr ⟨by dsimp only at notBefore; omega, ?_⟩
  have length : transfer.sectorRange.length = transfer.sectorBytes := rfl
  dsimp only at notAfter
  omega

theorem changesSectors_of_readBack :
    transfer.ChangesSectors io.disk ((transfer.fill (io.serve (transfer.request queued .read))
      transfer.placeInBlocks buff).serve (transfer.request queued .write)).disk buff := by
  have blockSize : blkTransferSize.toNat = 4096 := rfl
  have disk : (io.serve (transfer.request queued .read)).disk = io.disk := rfl
  unfold request at disk ⊢
  rw [kept] at disk ⊢
  refine changesSectors_of_fill (placed fills some few) few (fun address inside _ => ?_) buff
  obtain ⟨notBefore, notAfter⟩ := inside
  dsimp only at notBefore notAfter
  simp only [BlkIo.serve, blockSize]
  rw [copy_of_mem (Range.mem_def.mpr ⟨Nat.le_add_right _ _, by dsimp only; omega⟩)]
  refine congrArg io.disk ?_
  omega

theorem diskWrite_exact {readStatus writeStatus : BlkRespStatus} {run : Run}
    (writes : transfer.diskWrite queued io readStatus writeStatus buff = Option.some run) :
    transfer.ExactRun io run ∧ (run.res = .ok → ∀ index < transfer.sectorBytes,
        run.io.disk (transfer.sectorRange.start + index) = buff index) := by
  obtain ⟨_, writes⟩ := Option.ite_none_right_eq_some.mp writes
  have asked := requests_request fills kept some few
  split_ifs at writes with whole aligned answers
  · obtain ⟨block, count, head, tail⟩ := whole_blocks fills few whole
    have changes := @changesSectors_of_aligned _ _ io buff _ fills kept some few head tail
    have same : transfer.request queued .write =
        { code := .write
          offset := transfer.dataOffset
          block := transfer.sector
          count := queued transfer.count } := by
      rw [request, block, count]
    cases writes
    rw [← same]
    exact exactRun_of_write rfl (by simpa using asked _) changes
  · have changes := @changesSectors_of_aligned _ _ io buff _ fills kept some few aligned.1 aligned.2
    cases writes
    exact exactRun_of_write rfl (by simpa using asked _) changes
  · have changes := @changesSectors_of_readBack _ _ io buff _ fills kept some few
    subst answers
    cases writes
    refine exactRun_of_write rfl ?_ changes
    simpa using ⟨asked .read, asked .write⟩
  · cases writes
    have disk := @answered_disk_of_read io (transfer.request queued .read) rfl readStatus
    refine ⟨⟨⟨by simp, by simpa using asked _⟩, fun address _ => congrFun disk address⟩, ?_⟩
    exact fun ok => absurd ok answers

end Exact

/-- Where the sector size divides a block, the bytes are fewer than 2 ^ 32 and the queue keeps the
number of the blocks, the requests are for the fewest blocks that hold the sectors, a read returns
the bytes of the sectors and a write changes just these. -/
theorem disk_transfers_exact {queued : UInt32T → UInt32T} {most : Nat}
    (keeps : ∀ count : UInt32T, count.toNat < most → queued count = count)
    (transfer : DiskTransfer) (checked : CheckedSectorSize transfer.sectorSize)
    (divides : transfer.sectorSize.toNat ∣ 4096) (some : 1 ≤ transfer.count.toNat)
    (few : transfer.sectorBytes < 2 ^ 32) (fewBlocks : transfer.blockBytes < 4096 * most)
    (io : BlkIo) (buff : Nat → UInt8T) :
    (∀ status run result, transfer.diskRead queued io status buff = Option.some (run, result) →
      transfer.ExactRun io run ∧ run.io.disk = io.disk ∧ (run.res = .ok →
        ∀ index < transfer.sectorBytes,
          result index = io.disk (transfer.sectorRange.start + index))) ∧
    ∀ readStatus writeStatus run,
      transfer.diskWrite queued io readStatus writeStatus buff = Option.some run →
      transfer.ExactRun io run ∧ (run.res = .ok → ∀ index < transfer.sectorBytes,
          run.io.disk (transfer.sectorRange.start + index) = buff index) := by
  obtain ⟨shift, fills⟩ := (checked.mountable_iff.mpr divides).fills
  obtain ⟨other, per, perBlock⟩ := checked.perTransfer
  have kept : queued (sddfCount transfer.sectorSize transfer.sector transfer.count) =
      sddfCount transfer.sectorSize transfer.sector transfer.count := by
    refine keeps _ ?_
    rw [per.sddfCount_of_short transfer.sector (short_of_few fills few)]
    rw [blockBytes, ← perBlock] at fewBlocks
    exact Nat.lt_of_mul_lt_mul_left fewBlocks
  exact ⟨fun status run result => diskRead_exact fills kept some few,
    fun readStatus writeStatus run => diskWrite_exact fills kept some few⟩

/-- A disk and a data region of zeros. -/
def zeroed : BlkIo where
  disk := fun _ => 0
  blkData := fun _ => 0
  calls := fun _ => none

/-- Two sectors of 512 bytes on both sides of the end of a block, with a queue that keeps 16 bits of
a count. -/
theorem transfer_exact_over_two_blocks :
    ∃ run, diskWrite (fun count => (count.setWidth 16).setWidth 32)
        { wholeCluster with sector := 7, count := 2 } zeroed .ok .ok (fun _ => 1) =
          Option.some run ∧
      run.requests.map BlkReq.code = [.read, .write] ∧
      ∀ index < 1024, run.io.disk (3584 + index) = 1 := by
  have keeps : ∀ count : UInt32T, count.toNat < 2 ^ 16 →
      (count.setWidth 16).setWidth 32 = count := by
    intro count few
    refine BitVec.eq_of_toNat_eq ?_
    rw [BitVec.toNat_setWidth, BitVec.toNat_setWidth]
    omega
  have written := (disk_transfers_exact keeps { wholeCluster with sector := 7, count := 2 }
    (by decide) (by decide) (by decide) (by decide) (by decide) zeroed fun _ => 1).2 .ok .ok
  have writes : ∃ run, diskWrite (fun count => (count.setWidth 16).setWidth 32)
      { wholeCluster with sector := 7, count := 2 } zeroed .ok .ok (fun _ => 1) =
        Option.some run ∧ run.requests.map BlkReq.code = [.read, .write] ∧ run.res = .ok := by
    rw [diskWrite, if_pos (by decide +kernel), if_neg (by decide), if_neg (by decide +kernel)]
    exact ⟨_, if_pos rfl, rfl, rfl⟩
  obtain ⟨run, writes, codes, ok⟩ := writes
  exact ⟨run, writes, codes, (written run writes).2 ok⟩

/-- A sector of 1536 bytes, a size that passes the checks. -/
def oddSector : DiskTransfer :=
  { wholeCluster with sectorSize := 1536, sector := 2, count := 1 }

/-- As many blocks as have 2 ^ 32 bytes. -/
def manyBlocks : DiskTransfer :=
  { wholeCluster with sectorSize := 4096, sector := 0, count := 0x100000 }

/-- A sector of 1536 bytes that lies in two blocks is read from one. And the number of bytes of many
blocks is computed as zero, so that the assertion holds and nothing reaches the buffer. -/
theorem transfers_not_exact :
    (CheckedSectorSize oddSector.sectorSize ∧ ∃ run result,
      oddSector.diskRead id zeroed .ok (fun _ => 0) = Option.some (run, result) ∧
        ∃ request ∈ run.requests, ¬oddSector.Requests request) ∧
    CheckedSectorSize manyBlocks.sectorSize ∧ ∃ run result,
      manyBlocks.diskRead id { zeroed with disk := fun _ => 1 } .ok (fun _ => 0) =
        Option.some (run, result) ∧ result 0 ≠ 1 := by
  refine ⟨⟨by decide, ?_⟩, by decide, ?_⟩
  · rw [diskRead, if_pos (by decide +kernel)]
    refine ⟨_, _, rfl, _, List.mem_singleton_self _, ?_⟩
    rintro ⟨⟨_, ends⟩, _⟩
    exact absurd ends (by decide +kernel)
  · rw [diskRead, if_pos (by decide +kernel)]
    refine ⟨_, _, rfl, ?_⟩
    rw [copy_of_not_mem]
    · decide
    · rintro ⟨_, inside⟩
      exact absurd inside (by decide)

end DiskTransfer

end LionsOS.Fat

/-
This file embeds `io.c`: how sectors are turned into block transfers, and the
requests that `disk_read` and `disk_write` make. A worker waits for the answer to
each of its requests; a write of sectors that do not fill their blocks first
reads the blocks, then patches them in its slice of the data region, and writes
them back. FatFs only mounts a device whose sector size is a power of two, and
asks for at most a cluster at once, whose sectors it counts in a `WORD`.
-/

import LionsOS.Lib.Bytes
import LionsOS.Fat.EventLoop

namespace LionsOS.Fat

open Bytes BitVec

/-! ### From sectors to blocks -/

def blkTransferSize : UInt32T := 4096

def modPowerOf2 {width : Nat} (a b : BitVec width) : BitVec width :=
  a &&& (b - 1)

def divPowerOf2 {width other : Nat} (a : BitVec width) (b : BitVec other) : BitVec width :=
  a >>> b.ctz

def mulPowerOf2 {width other : Nat} (a : BitVec width) (b : BitVec other) : BitVec width :=
  a <<< b.ctz

/-- `DIV_POWER_OF_2` of a signed number. -/
def sdivPowerOf2 {width other : Nat} (a : BitVec width) (b : BitVec other) : BitVec width :=
  a.sshiftRight' b.ctz

def sectorPerTransfer (sectorSize : UInt16T) : UInt32T :=
  divPowerOf2 blkTransferSize sectorSize

def sddfSector (sectorSize : UInt16T) (sector : UInt32T) : UInt32T :=
  divPowerOf2 sector (sectorPerTransfer sectorSize)

def unalignedHeadSector (sectorSize : UInt16T) (sector : UInt32T) : UInt32T :=
  modPowerOf2 (sectorPerTransfer sectorSize - modPowerOf2 sector (sectorPerTransfer sectorSize))
    (sectorPerTransfer sectorSize)

def unalignedTailSector (sectorSize : UInt16T) (sector count : UInt32T) : UInt32T :=
  modPowerOf2 (sector + count) (sectorPerTransfer sectorSize)

/-- The number of blocks to transfer, a signed number. -/
def sddfCount (sectorSize : UInt16T) (sector count : UInt32T) : UInt32T :=
  let head := unalignedHeadSector sectorSize sector
  let tail := unalignedTailSector sectorSize sector count
  let alignedSector := count - head - tail
  (if head = 0 then 0 else 1) + (if tail = 0 then 0 else 1) +
    sdivPowerOf2 alignedSector (sectorPerTransfer sectorSize)

/-- A sector size with which FatFs mounts the device. -/
def Mountable (sectorSize : UInt16T) : Prop :=
  sectorSize = 512 ∨ sectorSize = 1024 ∨ sectorSize = 2048 ∨ sectorSize = 4096

instance (sectorSize : UInt16T) : Decidable (Mountable sectorSize) :=
  inferInstanceAs (Decidable (_ ∨ _))

/-- The sectors of a transfer. -/
structure Sectors where
  sector : UInt32T
  count : UInt32T
  short : count.toNat < 2 ^ 16
  within : sector.toNat + count.toNat < 2 ^ 32

/-! ### What the transfer arithmetic computes -/

/-- `shift` is how many times one has to be doubled to give the sectors of a block. -/
structure PerTransfer (sectorSize : UInt16T) (shift : Nat) : Prop where
  small : shift ≤ 3
  perTransfer : (sectorPerTransfer sectorSize).toNat = 2 ^ shift
  zeros : (sectorPerTransfer sectorSize).ctz.toNat = shift

/-- The blocks from that of the first sector up to the first one that starts behind the last
sector. -/
def coveringBlocks (shift : Nat) (sector count : UInt32T) : Nat :=
  (sector.toNat + count.toNat + (2 ^ shift - 1)) / 2 ^ shift - sector.toNat / 2 ^ shift

/-- `shift` is how many times a sector size has to be doubled to give the size of a block. -/
structure Fills (sectorSize : UInt16T) (shift : Nat) : Prop where
  small : shift ≤ 3
  size : sectorSize.toNat * 2 ^ shift = 4096
  perTransfer : (sectorPerTransfer sectorSize).toNat = 2 ^ shift
  zeros : (sectorPerTransfer sectorSize).ctz.toNat = shift

theorem Fills.arithmetic {sectorSize : UInt16T} {shift : Nat} (fills : Fills sectorSize shift) :
    PerTransfer sectorSize shift :=
  ⟨fills.small, fills.perTransfer, fills.zeros⟩

theorem Mountable.fills {sectorSize : UInt16T} (mountable : Mountable sectorSize) :
    ∃ shift, Fills sectorSize shift := by
  rcases mountable with rfl | rfl | rfl | rfl
  · exact ⟨3, by decide, by decide, by decide +kernel, by decide +kernel⟩
  · exact ⟨2, by decide, by decide, by decide +kernel, by decide +kernel⟩
  · exact ⟨1, by decide, by decide, by decide +kernel, by decide +kernel⟩
  · exact ⟨0, by decide, by decide, by decide +kernel, by decide +kernel⟩

theorem modPowerOf2_toNat (a : UInt32T) {b : UInt32T} {shift : Nat} (power : b.toNat = 2 ^ shift) :
    (modPowerOf2 a b).toNat = a.toNat % 2 ^ shift := by
  have positive : 1 ≤ 2 ^ shift := Nat.one_le_two_pow
  have below : (b - 1).toNat = 2 ^ shift - 1 := by
    have one : (1 : UInt32T).toNat = 1 := rfl
    have least : (1 : UInt32T) ≤ b := by rw [le_def, one, power]; exact positive
    rw [toNat_sub_of_le least, power, one]
  rw [modPowerOf2, toNat_and, below, Nat.and_two_pow_sub_one_eq_mod]

/-- A signed difference, which may be too large for the signed range. -/
theorem toInt_sub_sub {count head tail : UInt32T} (headShort : head.toNat < 8)
    (tailShort : tail.toNat < 8) :
    ∃ wraps : Int, (wraps = 0 ∨ wraps = 1) ∧ (count.toNat < 2 ^ 31 → wraps = 0) ∧
      (count - head - tail).toInt =
        (count.toNat : Int) - head.toNat - tail.toNat - wraps * 2 ^ 32 := by
  rw [toInt_eq_toNat_cond, toNat_sub, toNat_sub]
  rcases Nat.lt_or_ge count.toNat (2 ^ 31 + head.toNat + tail.toNat) with signed | unsigned
  · refine ⟨0, .inl rfl, fun _ => rfl, ?_⟩
    split_ifs <;> omega
  · refine ⟨1, .inr rfl, fun short => absurd short (by omega), ?_⟩
    split_ifs <;> omega

theorem toInt_add_add {head tail quotient : UInt32T} {blocks : Int}
    (rest : quotient.toInt = blocks - head.toNat - tail.toNat) :
    ((head + tail + quotient).toNat : Int) = blocks % 2 ^ 32 := by
  rw [toInt_eq_toNat_cond] at rest
  rw [toNat_add, toNat_add]
  split_ifs at rest
  · omega
  · omega

/-- A partly filled first block and a partly filled last block each add one to the blocks that are
filled. -/
theorem partly_filled {shift : Nat} (small : shift ≤ 3) (sector count : Nat) :
    ((count : Int) - ((2 ^ shift - sector % 2 ^ shift) % 2 ^ shift : Nat) -
        ((sector + count) % 2 ^ shift : Nat)) / 2 ^ shift =
      (((sector + count + (2 ^ shift - 1)) / 2 ^ shift - sector / 2 ^ shift : Nat) : Int) -
        (if (2 ^ shift - sector % 2 ^ shift) % 2 ^ shift = 0 then 0 else 1 : Nat) -
        (if (sector + count) % 2 ^ shift = 0 then 0 else 1 : Nat) := by
  obtain rfl | rfl | rfl | rfl : shift = 0 ∨ shift = 1 ∨ shift = 2 ∨ shift = 3 := by omega
  all_goals split_ifs <;> omega

section PerTransfer

variable {sectorSize : UInt16T} {shift : Nat} (per : PerTransfer sectorSize shift)

include per

theorem PerTransfer.sddfSector (sector : UInt32T) :
    (sddfSector sectorSize sector).toNat = sector.toNat / 2 ^ shift := by
  rw [Fat.sddfSector, divPowerOf2, ushiftRight_eq', toNat_ushiftRight, per.zeros,
    Nat.shiftRight_eq_div_pow]

theorem PerTransfer.unalignedHeadSector (sector : UInt32T) :
    (unalignedHeadSector sectorSize sector).toNat =
      (2 ^ shift - sector.toNat % 2 ^ shift) % 2 ^ shift := by
  have remainder := modPowerOf2_toNat sector per.perTransfer
  have least :
      modPowerOf2 sector (sectorPerTransfer sectorSize) ≤ sectorPerTransfer sectorSize := by
    rw [le_def, remainder, per.perTransfer]
    exact Nat.le_of_lt (Nat.mod_lt _ (Nat.two_pow_pos shift))
  rw [Fat.unalignedHeadSector, modPowerOf2_toNat _ per.perTransfer,
    toNat_sub_of_le least, remainder, per.perTransfer]

theorem PerTransfer.unalignedTailSector (sector count : UInt32T) :
    (unalignedTailSector sectorSize sector count).toNat =
      (sector.toNat + count.toNat) % 2 ^ shift := by
  rw [Fat.unalignedTailSector, modPowerOf2_toNat _ per.perTransfer, toNat_add]
  exact Nat.mod_mod_of_dvd _ (Nat.pow_dvd_pow 2 (per.small.trans (by decide)))

/-- The number of blocks as it is computed, which is right but for a multiple of 2 ^ (32 - shift)
where the sectors are more than a signed number. -/
theorem PerTransfer.sddfCount (sector count : UInt32T) :
    ∃ wraps : Int, (wraps = 0 ∨ wraps = 1) ∧ (count.toNat < 2 ^ 31 → wraps = 0) ∧
      ((sddfCount sectorSize sector count).toNat : Int) =
        (coveringBlocks shift sector count - wraps * 2 ^ (32 - shift)) % 2 ^ 32 := by
  have head := per.unalignedHeadSector sector
  have tail := per.unalignedTailSector sector count
  have small := per.small
  have positive : 2 ^ shift ≤ 2 ^ 3 := Nat.pow_le_pow_right (by decide) small
  generalize headEq : Fat.unalignedHeadSector sectorSize sector = headSector at head
  generalize tailEq : Fat.unalignedTailSector sectorSize sector count = tailSector at tail
  have headShort : headSector.toNat < 8 := by
    rw [head]
    exact Nat.lt_of_lt_of_le (Nat.mod_lt _ (Nat.two_pow_pos shift)) positive
  have tailShort : tailSector.toNat < 8 := by
    rw [tail]
    exact Nat.lt_of_lt_of_le (Nat.mod_lt _ (Nat.two_pow_pos shift)) positive
  obtain ⟨wraps, isBit, short, difference⟩ := @toInt_sub_sub count _ _ headShort tailShort
  refine ⟨wraps, isBit, short, ?_⟩
  have oneIf : ∀ sector : UInt32T,
      (if sector = 0 then (0 : UInt32T) else 1).toNat = if sector.toNat = 0 then 0 else 1 := by
    intro sector
    by_cases none : sector = 0
    · rw [if_pos none, none]
      rfl
    · have positive : sector.toNat ≠ 0 := fun zero => none (eq_of_toNat_eq zero)
      rw [if_neg none, if_neg positive]
      rfl
  have whole : (4294967296 : Int) = 2 ^ (32 - shift) * 2 ^ shift := by
    rw [← pow_add, Nat.sub_add_cancel (small.trans (by decide))]
    rfl
  have quotient : (sdivPowerOf2 (count - headSector - tailSector)
      (sectorPerTransfer sectorSize)).toInt =
        ((count.toNat : Int) - headSector.toNat - tailSector.toNat) / 2 ^ shift -
          wraps * 2 ^ (32 - shift) := by
    rw [sdivPowerOf2, sshiftRight_eq', toInt_sshiftRight, per.zeros, difference,
      Int.shiftRight_eq_div_pow]
    push_cast
    rw [whole, ← mul_assoc]
    exact Int.sub_mul_ediv_right _ _ (Int.pow_pos (by decide)).ne'
  have filled := partly_filled small sector.toNat count.toNat
  have headOne := oneIf headSector
  have tailOne := oneIf tailSector
  rw [head] at headOne
  rw [tail] at tailOne
  rw [head, tail, filled, ← headOne, ← tailOne] at quotient
  unfold Fat.sddfCount coveringBlocks
  dsimp only
  rw [headEq, tailEq]
  refine toInt_add_add (quotient.trans ?_)
  omega

theorem PerTransfer.sddfCount_of_short (sector : UInt32T) {count : UInt32T}
    (short : count.toNat < 2 ^ 31) :
    (Fat.sddfCount sectorSize sector count).toNat = coveringBlocks shift sector count := by
  obtain ⟨wraps, _, none, same⟩ := per.sddfCount sector count
  have few : coveringBlocks shift sector count < 2 ^ 32 := by
    unfold coveringBlocks
    obtain rfl | rfl | rfl | rfl : shift = 0 ∨ shift = 1 ∨ shift = 2 ∨ shift = 3 := by
      have small := per.small
      omega
    all_goals omega
  rw [none short] at same
  omega

end PerTransfer

section Transfer

variable {sectorSize : UInt16T} {shift : Nat} (fills : Fills sectorSize shift)

include fills

theorem Fills.sddfSector (sector : UInt32T) :
    (sddfSector sectorSize sector).toNat = sector.toNat / 2 ^ shift :=
  fills.arithmetic.sddfSector sector

theorem Fills.unalignedHeadSector (sector : UInt32T) :
    (unalignedHeadSector sectorSize sector).toNat =
      (2 ^ shift - sector.toNat % 2 ^ shift) % 2 ^ shift :=
  fills.arithmetic.unalignedHeadSector sector

theorem Fills.unalignedTailSector (sectors : Sectors) :
    (unalignedTailSector sectorSize sectors.sector sectors.count).toNat =
      (sectors.sector.toNat + sectors.count.toNat) % 2 ^ shift :=
  fills.arithmetic.unalignedTailSector sectors.sector sectors.count

theorem Fills.sddfCount (sectors : Sectors) :
    (sddfCount sectorSize sectors.sector sectors.count).toNat =
      (sectors.sector.toNat + sectors.count.toNat + (2 ^ shift - 1)) / 2 ^ shift -
        sectors.sector.toNat / 2 ^ shift :=
  fills.arithmetic.sddfCount_of_short sectors.sector (sectors.short.trans (by decide))

/-- The bytes of the sectors of a transfer. -/
def sectorRange (sectorSize : UInt16T) (sectors : Sectors) : Range where
  start := sectorSize.toNat * sectors.sector.toNat
  length := sectorSize.toNat * sectors.count.toNat

/-- The bytes of the blocks of a transfer. -/
def blockRange (sectorSize : UInt16T) (sectors : Sectors) : Range where
  start := blkTransferSize.toNat * (sddfSector sectorSize sectors.sector).toNat
  length := blkTransferSize.toNat * (sddfCount sectorSize sectors.sector sectors.count).toNat

theorem Fills.sizes : shift = 0 ∧ sectorSize.toNat = 4096 ∨ shift = 1 ∧ sectorSize.toNat = 2048 ∨
    shift = 2 ∧ sectorSize.toNat = 1024 ∨ shift = 3 ∧ sectorSize.toNat = 512 := by
  have size := fills.size
  obtain rfl | rfl | rfl | rfl : shift = 0 ∨ shift = 1 ∨ shift = 2 ∨ shift = 3 := by
    have small := fills.small
    omega
  all_goals omega

theorem Fills.sectorRange_subset (sectors : Sectors) :
    sectorRange sectorSize sectors ⊆ blockRange sectorSize sectors := by
  rintro address ⟨notBefore, notAfter⟩
  have blockSize : blkTransferSize.toNat = 4096 := rfl
  simp only [sectorRange] at notBefore notAfter
  simp only [blockRange, Range.mem_def, fills.sddfSector, fills.sddfCount, blockSize]
  rcases fills.sizes with ⟨rfl, size⟩ | ⟨rfl, size⟩ | ⟨rfl, size⟩ | ⟨rfl, size⟩
  all_goals rw [size] at notBefore notAfter; omega

theorem Fills.sectorRange_start (sectors : Sectors) :
    (blockRange sectorSize sectors).start + sectorSize.toNat *
        (modPowerOf2 sectors.sector (sectorPerTransfer sectorSize)).toNat =
      (sectorRange sectorSize sectors).start := by
  have blockSize : blkTransferSize.toNat = 4096 := rfl
  simp only [blockRange, sectorRange, fills.sddfSector, modPowerOf2_toNat _ fills.perTransfer,
    blockSize]
  rcases fills.sizes with ⟨rfl, size⟩ | ⟨rfl, size⟩ | ⟨rfl, size⟩ | ⟨rfl, size⟩
  all_goals rw [size]; omega

/-- Sectors that start and end with a block fill their blocks. -/
theorem Fills.sectorRange_eq {sectors : Sectors}
    (head : Fat.unalignedHeadSector sectorSize sectors.sector = 0)
    (tail : Fat.unalignedTailSector sectorSize sectors.sector sectors.count = 0) :
    sectorRange sectorSize sectors = blockRange sectorSize sectors := by
  have blockSize : blkTransferSize.toNat = 4096 := rfl
  have headFull := fills.unalignedHeadSector sectors.sector
  have tailFull := fills.unalignedTailSector sectors
  have headNone : (Fat.unalignedHeadSector sectorSize sectors.sector).toNat = 0 :=
    congrArg BitVec.toNat head
  have tailNone : (Fat.unalignedTailSector sectorSize sectors.sector sectors.count).toNat = 0 :=
    congrArg BitVec.toNat tail
  rw [Range.ext_iff]
  simp only [sectorRange, blockRange, fills.sddfSector, fills.sddfCount, blockSize]
  rcases fills.sizes with ⟨rfl, size⟩ | ⟨rfl, size⟩ | ⟨rfl, size⟩ | ⟨rfl, size⟩
  all_goals rw [size]; omega

theorem Fills.whole (sectors : Sectors) (size : sectorSize.setWidth 32 = blkTransferSize) :
    Fat.sddfSector sectorSize sectors.sector = sectors.sector ∧
      Fat.sddfCount sectorSize sectors.sector sectors.count = sectors.count := by
  have size : sectorSize.toNat = 4096 := by
    have same := congrArg BitVec.toNat size
    rwa [BitVec.toNat_setWidth_of_le (by decide)] at same
  have sector := fills.sddfSector sectors.sector
  have count := fills.sddfCount sectors
  rcases fills.sizes with ⟨rfl, _⟩ | ⟨_, other⟩ | ⟨_, other⟩ | ⟨_, other⟩
  · exact ⟨BitVec.eq_of_toNat_eq (by omega), BitVec.eq_of_toNat_eq (by omega)⟩
  all_goals omega

theorem Fills.sddfCount_le (sectors : Sectors) :
    (Fat.sddfCount sectorSize sectors.sector sectors.count).toNat ≤ 2 ^ 16 := by
  have short := sectors.short
  rw [fills.sddfCount]
  rcases fills.sizes with ⟨rfl, _⟩ | ⟨rfl, _⟩ | ⟨rfl, _⟩ | ⟨rfl, _⟩
  all_goals omega

end Transfer

theorem mulPowerOf2_blkTransferSize {count : UInt32T} (short : count.toNat ≤ 2 ^ 16) :
    (mulPowerOf2 count blkTransferSize).toNat = blkTransferSize.toNat * count.toNat := by
  have zeros : blkTransferSize.ctz.toNat = 12 := by decide +kernel
  have size : blkTransferSize.toNat = 2 ^ 12 := rfl
  rw [mulPowerOf2, shiftLeft_eq', toNat_shiftLeft, zeros, Nat.shiftLeft_eq, size,
    Nat.mod_eq_of_lt (by omega), Nat.mul_comm]

theorem signExtend_toNat {number : UInt32T} (positive : number.toNat < 2 ^ 31) :
    (number.signExtend 64).toNat = number.toNat := by
  have sign : number.msb = false := msb_eq_false_iff_two_mul_lt.mpr (by omega)
  rw [signExtend_eq_setWidth_of_msb_false sign, toNat_setWidth_of_le (by decide)]

/-- What the assertion says, that the blocks of a transfer fit in a slice. -/
theorem Fills.length_le {sectorSize : UInt16T} {shift : Nat} (fills : Fills sectorSize shift)
    {sectors : Sectors} {size : Nat}
    (asserted : ((mulPowerOf2 (Fat.sddfCount sectorSize sectors.sector sectors.count)
      blkTransferSize).signExtend 64).toNat ≤ size) :
    (blockRange sectorSize sectors).length ≤ size := by
  have short := fills.sddfCount_le sectors
  have bytes := mulPowerOf2_blkTransferSize short
  have blockSize : blkTransferSize.toNat = 4096 := rfl
  rw [signExtend_toNat (by rw [bytes, blockSize]; omega), bytes] at asserted
  exact asserted

/-! ### Requests -/

inductive BlkReqCode where
  | read
  | write
  | flush
  deriving DecidableEq

inductive BlkRespStatus where
  | ok
  | failed
  deriving DecidableEq

/-- A request to the block virtualiser, for blocks and the place of their data in the region. -/
structure BlkReq where
  code : BlkReqCode
  offset : Nat
  block : UInt32T
  count : UInt32T

/-- The sectors of a write and the bytes that are written to them. -/
structure SectorWrite where
  sectors : Sectors
  buff : Nat → UInt8T

/-- What a worker is doing in `io.c` while it waits. -/
inductive DiskOp where
  | read (sectors : Sectors)
  /-- `disk_write` reads the blocks it is about to patch. -/
  | readBack (sectors : Sectors)
  | write (written : SectorWrite)
  | sync

/-- A call of `io.c` that waits, or has been answered and not yet gone on. -/
structure DiskCall where
  op : DiskOp
  request : BlkReq
  status : Option BlkRespStatus

structure BlkConfig where
  sectorSize : UInt16T
  maxClusterSize : Nat
  mountable : Mountable sectorSize

/-- The block device, the data region and the calls of the workers. -/
structure BlkIo where
  disk : Nat → UInt8T
  blkData : Nat → UInt8T
  calls : Fin fatThreadNum → Option DiskCall

/-- The start of a worker's slice of the data region. The slot of the event thread is left out. -/
def threadBlkAddr (config : BlkConfig) (handle : Fin fatThreadNum) : Nat :=
  (handle.val - 1) * config.maxClusterSize

namespace BlkIo

def setCall (io : BlkIo) (handle : Fin fatThreadNum) (call : Option DiskCall) : BlkIo :=
  { io with calls := Function.update io.calls handle call }

theorem setCall_self (io : BlkIo) (handle : Fin fatThreadNum) (call : Option DiskCall) :
    (io.setCall handle call).calls handle = call :=
  Function.update_self _ _ _

theorem setCall_of_ne (io : BlkIo) {handle other : Fin fatThreadNum} (call : Option DiskCall)
    (different : other ≠ handle) : (io.setCall handle call).calls other = io.calls other :=
  Function.update_of_ne different _ _

/-- Enqueue a request, and wait for its answer. -/
def blkEnqueueReq (io : BlkIo) (handle : Fin fatThreadNum) (op : DiskOp) (request : BlkReq) :
    BlkIo :=
  io.setCall handle (some { op, request, status := none })

/-- The request for the blocks of a transfer, into or out of the slice of a worker. -/
def transfer (config : BlkConfig) (handle : Fin fatThreadNum) (code : BlkReqCode)
    (sectors : Sectors) : BlkReq where
  code := code
  offset := threadBlkAddr config handle
  block := sddfSector config.sectorSize sectors.sector
  count := sddfCount config.sectorSize sectors.sector sectors.count

/-- `none` when the assertion fails that the blocks fit in the slice. -/
def diskRead (config : BlkConfig) (io : BlkIo) (handle : Fin fatThreadNum) (sectors : Sectors) :
    Option BlkIo :=
  let count := sddfCount config.sectorSize sectors.sector sectors.count
  if ((mulPowerOf2 count blkTransferSize).signExtend 64).toNat ≤ config.maxClusterSize then
    some (io.blkEnqueueReq handle (.read sectors) (transfer config handle .read sectors))
  else none

/-- `memcpy` of the bytes to write, to a place in the worker's slice. -/
def fillSlice (config : BlkConfig) (io : BlkIo) (handle : Fin fatThreadNum) (place : Nat)
    (written : SectorWrite) : BlkIo :=
  { io with
    blkData := copy io.blkData { start := threadBlkAddr config handle + place
                                 length := config.sectorSize.toNat * written.sectors.count.toNat }
      written.buff 0 }

/-- `disk_write` up to its first request. `none` when the assertion fails that the blocks fit in the
slice. -/
def diskWrite (config : BlkConfig) (io : BlkIo) (handle : Fin fatThreadNum)
    (written : SectorWrite) : Option BlkIo :=
  let sectors := written.sectors
  if config.sectorSize.setWidth 32 = blkTransferSize then
    if (mulPowerOf2 sectors.count blkTransferSize).toNat ≤ config.maxClusterSize then
      some ((io.fillSlice config handle 0 written).blkEnqueueReq handle (.write written)
        { code := .write
          offset := threadBlkAddr config handle
          block := sectors.sector
          count := sectors.count })
    else none
  else
    let count := sddfCount config.sectorSize sectors.sector sectors.count
    if ((mulPowerOf2 count blkTransferSize).signExtend 64).toNat ≤ config.maxClusterSize then
      if unalignedHeadSector config.sectorSize sectors.sector = 0 ∧
          unalignedTailSector config.sectorSize sectors.sector sectors.count = 0 then
        some ((io.fillSlice config handle 0 written).blkEnqueueReq handle (.write written)
          (transfer config handle .write sectors))
      else
        some (io.blkEnqueueReq handle (.readBack sectors) (transfer config handle .read sectors))
    else none

/-- `disk_ioctl` with `CTRL_SYNC`. -/
def diskSync (io : BlkIo) (handle : Fin fatThreadNum) : BlkIo :=
  io.blkEnqueueReq handle .sync { code := .flush, offset := 0, block := 0, count := 0 }

/-- The rest of `disk_write` after its read succeeded: patch the blocks with what is in the buffer
by now, and have them written back. -/
def writeBack (config : BlkConfig) (io : BlkIo) (handle : Fin fatThreadNum)
    (written : SectorWrite) : BlkIo :=
  let place := config.sectorSize.toNat *
    (modPowerOf2 written.sectors.sector (sectorPerTransfer config.sectorSize)).toNat
  (io.fillSlice config handle place written).blkEnqueueReq handle (.write written)
    (transfer config handle .write written.sectors)

/-! ### The device -/

/-- What the device does to serve a request. -/
def serve (io : BlkIo) (request : BlkReq) : BlkIo :=
  let start := blkTransferSize.toNat * request.block.toNat
  let length := blkTransferSize.toNat * request.count.toNat
  match request.code with
  | .read => { io with blkData := copy io.blkData ⟨request.offset, length⟩ io.disk start }
  | .write => { io with disk := copy io.disk ⟨start, length⟩ io.blkData request.offset }
  | .flush => io

/-- The device serves the request of a worker, or fails and leaves everything as it is. -/
def answer (io : BlkIo) (handle : Fin fatThreadNum) (status : BlkRespStatus) : Option BlkIo :=
  match io.calls handle with
  | none => none
  | some call =>
    if call.status.isNone then
      let served := if status = .ok then io.serve call.request else io
      some (served.setCall handle (some { call with status := some status }))
    else none

end BlkIo

end LionsOS.Fat

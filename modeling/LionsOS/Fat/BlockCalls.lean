/-
This file is about the calls of `io.c` that are going on at one time. A call that
patches blocks holds a copy of them in its slice of the data region from the time
they are read until they are written back, and nothing but a write of another
call to one of their sectors makes the copy differ from the disk.
-/

import LionsOS.Fat.BlockIo

open Function

namespace LionsOS.Fat

open Bytes

/-! ### What a call holds -/

/-- The request that is made for an operation. -/
def DiskOp.request (config : BlkConfig) (handle : Fin fatThreadNum) : DiskOp → BlkReq
  | .read sectors | .readBack sectors => BlkIo.transfer config handle .read sectors
  | .write written => BlkIo.transfer config handle .write written.sectors
  | .sync => { code := .flush, offset := 0, block := 0, count := 0 }

/-- The blocks of an operation fit in the slice of a worker. -/
def DiskOp.Fits (config : BlkConfig) : DiskOp → Prop
  | .read sectors | .readBack sectors =>
    (blockRange config.sectorSize sectors).length ≤ config.maxClusterSize
  | .write written => (blockRange config.sectorSize written.sectors).length ≤ config.maxClusterSize
  | .sync => True

/-- An operation of `disk_write`. -/
def DiskOp.Writes : DiskOp → Prop
  | .readBack _ | .write _ => True
  | .read _ | .sync => False

/-- A call has read the blocks of these sectors and will write them back. -/
inductive DiskCall.HoldsBlocks (call : DiskCall) (sectors : Sectors) : Prop
  | read (op : call.op = .readBack sectors) (status : call.status = some .ok)
  | patched (buff : Nat → UInt8T) (op : call.op = .write { sectors, buff })
    (status : call.status = none)

namespace BlkIo

/-- Where the slice of a worker has the byte of an address on the disk. -/
def place (config : BlkConfig) (handle : Fin fatThreadNum) (sectors : Sectors) (address : Nat) :
    Nat :=
  threadBlkAddr config handle + (address - (blockRange config.sectorSize sectors).start)

/-- A slice of the data region. -/
def slice (config : BlkConfig) (handle : Fin fatThreadNum) : Range where
  start := threadBlkAddr config handle
  length := config.maxClusterSize

/-- The blocks a call holds are those of the disk, but for the sectors it writes. -/
structure CallSound (config : BlkConfig) (io : BlkIo) (handle : Fin fatThreadNum)
    (call : DiskCall) : Prop where
  request : call.request = call.op.request config handle
  fits : call.op.Fits config
  held : ∀ sectors, call.HoldsBlocks sectors → ∀ address ∈ blockRange config.sectorSize sectors,
    address ∉ sectorRange config.sectorSize sectors →
      io.blkData (place config handle sectors address) = io.disk address
  patched : ∀ written, call.op = .write written → call.status = none →
    ∀ address ∈ sectorRange config.sectorSize written.sectors,
      io.blkData (place config handle written.sectors address) =
        written.buff (address - (sectorRange config.sectorSize written.sectors).start)

structure Sound (config : BlkConfig) (io : BlkIo) : Prop where
  eventLoop : io.calls eventThread = none
  call : ∀ handle call, io.calls handle = some call → io.CallSound config handle call

variable {config : BlkConfig} {io next : BlkIo} {handle other : Fin fatThreadNum} {call : DiskCall}
  {address : Nat} {written : SectorWrite} {sectors : Sectors}

/-! ### Slices -/

theorem mem_slice_of_le {offset : Nat} (within : offset < config.maxClusterSize) :
    threadBlkAddr config handle + offset ∈ slice config handle :=
  ⟨Nat.le_add_right _ _, Nat.add_lt_add_left within _⟩

theorem place_mem_slice
    (fits : (blockRange config.sectorSize sectors).length ≤ config.maxClusterSize)
    (inside : address ∈ blockRange config.sectorSize sectors) :
    place config handle sectors address ∈ slice config handle := by
  refine mem_slice_of_le (Nat.lt_of_lt_of_le ?_ fits)
  exact (Nat.sub_lt_iff_lt_add' inside.1).mpr inside.2

theorem slice_end_le (worker : handle ≠ eventThread) (before : handle < other) :
    threadBlkAddr config handle + config.maxClusterSize ≤ threadBlkAddr config other := by
  have positive : handle.val ≠ 0 := fun zero => worker (Fin.ext zero)
  have next : handle.val - 1 + 1 ≤ other.val - 1 := by
    omega
  have steps := Nat.mul_le_mul_right config.maxClusterSize next
  rw [Nat.succ_mul] at steps
  exact steps

theorem slice_disjoint (worker : handle ≠ eventThread) (worker' : other ≠ eventThread)
    (different : handle ≠ other) : (slice config handle).Disjoint (slice config other) := by
  rintro address ⟨notBefore, notAfter⟩ ⟨notBefore', notAfter'⟩
  simp only [slice] at notBefore notAfter notBefore' notAfter'
  rcases lt_or_gt_of_ne different with less | more
  · have ends : _ ≤ threadBlkAddr config other := slice_end_le worker less
    omega
  · have ends : _ ≤ threadBlkAddr config handle := slice_end_le worker' more
    omega

/-! ### Calls are left alone by what happens elsewhere -/

theorem CallSound.congr (sound : io.CallSound config handle call)
    (sameData : ∀ address ∈ slice config handle, next.blkData address = io.blkData address)
    (sameDisk : ∀ sectors, call.HoldsBlocks sectors →
      ∀ address ∈ blockRange config.sectorSize sectors,
        address ∉ sectorRange config.sectorSize sectors → next.disk address = io.disk address) :
    next.CallSound config handle call where
  request := sound.request
  fits := sound.fits
  held sectors holds address inside notOwn := by
    have fits : (blockRange config.sectorSize sectors).length ≤ config.maxClusterSize := by
      have fits := sound.fits
      cases holds with
      | read op | patched buff op => rwa [op] at fits
    rw [sameData _ (place_mem_slice fits inside), sameDisk sectors holds address inside notOwn]
    exact sound.held sectors holds address inside notOwn
  patched written op status address own := by
    obtain ⟨shift, fills⟩ := config.mountable.fills
    have fits := sound.fits
    rw [op] at fits
    have inside := fills.sectorRange_subset written.sectors address own
    rw [sameData _ (place_mem_slice fits inside)]
    exact sound.patched written op status address own

theorem Sound.worker (sound : io.Sound config) (current : io.calls handle = some call) :
    handle ≠ eventThread := by
  rintro rfl
  rw [sound.eventLoop] at current
  cases current

section

variable (sound : io.Sound config) (worker : handle ≠ eventThread)
include sound worker

/-- A step that leaves the disk alone, and only changes the call and the slice of one worker. -/
theorem Sound.change {changed : Option DiskCall}
    (calls : next.calls = update io.calls handle changed) (disk : next.disk = io.disk)
    (outside : ∀ address, address ∉ slice config handle → next.blkData address = io.blkData address)
    (own : ∀ call, changed = some call → next.CallSound config handle call) :
    next.Sound config where
  eventLoop := by
    rw [calls, update_of_ne (Ne.symm worker)]
    exact sound.eventLoop
  call other call current := by
    by_cases here : other = handle
    · rw [here, calls, update_self] at current
      rw [here]
      exact own call current
    · rw [calls, update_of_ne here] at current
      have worker' := sound.worker current
      refine (sound.call other call current).congr (fun address inSlice => ?_)
        fun _ _ address _ _ => congrFun disk address
      exact outside address (slice_disjoint worker' worker here address inSlice)

/-! ### What the workers do -/

theorem Sound.enqueue {op : DiskOp} (fits : op.Fits config)
    (noWrite : ∀ written, op ≠ .write written) :
    (io.blkEnqueueReq handle op (op.request config handle)).Sound config := by
  refine sound.change worker rfl rfl (fun _ _ => rfl) ?_
  rintro call ⟨⟩
  refine ⟨rfl, fits, ?_, ?_⟩
  · rintro sectors (⟨_, status⟩ | ⟨buff, op, _⟩)
    · cases status
    · exact absurd op (noWrite _)
  · exact fun written op => absurd op (noWrite written)

theorem Sound.leave : (io.setCall handle none).Sound config := by
  refine sound.change worker rfl rfl (fun _ _ => rfl) ?_
  rintro call ⟨⟩

end

section Fill

variable {offset : Nat}
  (starts : (blockRange config.sectorSize written.sectors).start + offset =
    (sectorRange config.sectorSize written.sectors).start)

include starts

/-- The bytes to write are copied to where the slice has their sectors. -/
theorem mem_filled_iff (inside : address ∈ blockRange config.sectorSize written.sectors) :
    place config handle written.sectors address ∈ Range.mk (threadBlkAddr config handle + offset)
          (config.sectorSize.toNat * written.sectors.count.toNat) ↔
      address ∈ sectorRange config.sectorSize written.sectors := by
  have notBefore := inside.1
  have length : (sectorRange config.sectorSize written.sectors).length =
      config.sectorSize.toNat * written.sectors.count.toNat := rfl
  rw [Range.mem_def, Range.mem_def, place]
  dsimp only
  omega

theorem fillSlice_of_own (own : address ∈ sectorRange config.sectorSize written.sectors) :
    (io.fillSlice config handle offset written).blkData
        (place config handle written.sectors address) =
      written.buff (address - (sectorRange config.sectorSize written.sectors).start) := by
  obtain ⟨shift, fills⟩ := config.mountable.fills
  have inside := fills.sectorRange_subset written.sectors address own
  refine (copy_of_mem ((mem_filled_iff starts inside).mpr own)).trans ?_
  refine congrArg written.buff ?_
  show 0 + (threadBlkAddr config handle +
    (address - (blockRange config.sectorSize written.sectors).start) -
      (threadBlkAddr config handle + offset)) = _
  omega

theorem fillSlice_of_not_own (inside : address ∈ blockRange config.sectorSize written.sectors)
    (notOwn : address ∉ sectorRange config.sectorSize written.sectors) :
    (io.fillSlice config handle offset written).blkData
        (place config handle written.sectors address) =
      io.blkData (place config handle written.sectors address) :=
  copy_of_not_mem (mt (mem_filled_iff starts inside).mp notOwn)

/-- A call that has patched its blocks, or filled them, and has them written. -/
theorem Sound.fill (sound : io.Sound config) (worker : handle ≠ eventThread)
    (fits : (DiskOp.write written).Fits config)
    (rest : ∀ address ∈ blockRange config.sectorSize written.sectors,
      address ∉ sectorRange config.sectorSize written.sectors →
        io.blkData (place config handle written.sectors address) = io.disk address) :
    ((io.fillSlice config handle offset written).blkEnqueueReq handle (.write written)
      (transfer config handle .write written.sectors)).Sound config := by
  obtain ⟨shift, fills⟩ := config.mountable.fills
  refine sound.change worker rfl rfl (fun address outside => ?_) ?_
  · refine copy_of_not_mem fun ⟨notBefore, notAfter⟩ => outside ?_
    have own : (sectorRange config.sectorSize written.sectors).start +
        (address - (threadBlkAddr config handle + offset)) ∈
          sectorRange config.sectorSize written.sectors :=
      ⟨Nat.le_add_right _ _, Nat.add_lt_add_left (Nat.sub_lt_left_of_lt_add notBefore notAfter) _⟩
    have inside := (fills.sectorRange_subset written.sectors _ own).2
    have fits : (blockRange config.sectorSize written.sectors).length ≤ config.maxClusterSize :=
      fits
    dsimp only at notBefore
    exact ⟨by simp only [slice]; omega, by simp only [slice]; omega⟩
  rintro call ⟨⟩
  refine ⟨rfl, fits, ?_, ?_⟩
  · rintro sectors (⟨op, _⟩ | ⟨buff, op, _⟩)
    · cases op
    · cases op
      exact fun address inside notOwn =>
        (fillSlice_of_not_own starts inside notOwn).trans (rest address inside notOwn)
  · rintro other op _
    cases op
    exact fun address own => fillSlice_of_own starts own

end Fill

/-! ### What the device does -/

/-- The disk when these bytes are written to these sectors. -/
def applyWrite (config : BlkConfig) (disk : Nat → UInt8T) (written : SectorWrite) : Nat → UInt8T :=
  copy disk (sectorRange config.sectorSize written.sectors) written.buff 0

theorem serve_calls (io : BlkIo) (request : BlkReq) : (io.serve request).calls = io.calls := by
  unfold serve
  cases request.code with
  | read => rfl
  | write => rfl
  | flush => rfl

/-- Writing the blocks back changes the sectors of the call and nothing else. -/
theorem CallSound.serve_write (sound : io.CallSound config handle call)
    (op : call.op = .write written) (status : call.status = none) :
    (io.serve call.request).disk = applyWrite config io.disk written ∧
      (io.serve call.request).blkData = io.blkData := by
  obtain ⟨shift, fills⟩ := config.mountable.fills
  have request := sound.request
  rw [op] at request
  rw [request]
  refine ⟨?_, rfl⟩
  funext address
  show copy io.disk (blockRange config.sectorSize written.sectors) io.blkData
    (threadBlkAddr config handle) address = _
  unfold applyWrite
  by_cases own : address ∈ sectorRange config.sectorSize written.sectors
  · have inside := fills.sectorRange_subset written.sectors address own
    rw [copy_of_mem own, copy_of_mem inside, Nat.zero_add]
    exact sound.patched written op status address own
  · rw [copy_of_not_mem own]
    by_cases inside : address ∈ blockRange config.sectorSize written.sectors
    · rw [copy_of_mem inside]
      exact sound.held written.sectors (.patched written.buff op status) address inside own
    · exact copy_of_not_mem inside

/-- Reading blocks fills the slice with what is on the disk. -/
theorem CallSound.serve_read (sound : io.CallSound config handle call)
    (op : call.op = .read sectors ∨ call.op = .readBack sectors) :
    (io.serve call.request).disk = io.disk ∧
      (∀ address, address ∉ slice config handle →
        (io.serve call.request).blkData address = io.blkData address) ∧
      ∀ address ∈ blockRange config.sectorSize sectors,
        (io.serve call.request).blkData (place config handle sectors address) =
          io.disk address := by
  have request : call.request = transfer config handle .read sectors := by
    rcases op with op | op
    · rw [sound.request, op]
      rfl
    · rw [sound.request, op]
      rfl
  have fits : (blockRange config.sectorSize sectors).length ≤ config.maxClusterSize := by
    have fits := sound.fits
    rcases op with op | op
    · rwa [op] at fits
    · rwa [op] at fits
  rw [request]
  refine ⟨rfl, fun address outside => ?_, fun address inside => ?_⟩
  · refine copy_of_not_mem fun ⟨notBefore, notAfter⟩ => outside ⟨notBefore, ?_⟩
    exact Nat.lt_of_lt_of_le notAfter (Nat.add_le_add_left fits _)
  · have offset : place config handle sectors address ∈ Range.mk (threadBlkAddr config handle)
        (blockRange config.sectorSize sectors).length :=
      ⟨Nat.le_add_right _ _, Nat.add_lt_add_left ((Nat.sub_lt_iff_lt_add' inside.1).mpr inside.2) _⟩
    refine (copy_of_mem offset).trans (congrArg io.disk ?_)
    show (blockRange config.sectorSize sectors).start + (threadBlkAddr config handle +
      (address - (blockRange config.sectorSize sectors).start) - threadBlkAddr config handle) =
        address
    rw [Nat.add_sub_cancel_left, Nat.add_sub_cancel' inside.1]

/-- No sector of a write is one that another call holds and will write back unpatched. -/
def Clear (config : BlkConfig) (io : BlkIo) (handle : Fin fatThreadNum) (written : SectorWrite) :
    Prop :=
  ∀ other, other ≠ handle → ∀ call sectors, io.calls other = some call → call.HoldsBlocks sectors →
    ∀ address ∈ sectorRange config.sectorSize written.sectors,
      address ∈ blockRange config.sectorSize sectors →
        address ∈ sectorRange config.sectorSize sectors

section

variable (sound : io.Sound config) (current : io.calls handle = some call)
include sound current

theorem Sound.serve_other (noWrite : ∀ written, call.op ≠ .write written) :
    ((io.serve call.request).setCall handle (some { call with status := some .ok })).Sound
        config ∧ (io.serve call.request).disk = io.disk := by
  have worker := sound.worker current
  have own := sound.call handle call current
  obtain ⟨op, request, status⟩ := call
  cases op with
  | write written => exact absurd rfl (noWrite written)
  | sync =>
    cases own.request
    refine ⟨sound.change worker rfl rfl (fun _ _ => rfl) ?_, rfl⟩
    rintro _ ⟨⟩
    refine ⟨rfl, own.fits, ?_, ?_⟩
    · rintro sectors (⟨reads, _⟩ | ⟨_, writes, _⟩)
      · cases reads
      · cases writes
    · rintro written ⟨⟩
  | read sectors =>
    obtain ⟨disk, outside, inside⟩ := own.serve_read (Or.inl rfl)
    refine ⟨sound.change worker (congrArg (update · handle _) (serve_calls io request)) disk
      outside ?_, disk⟩
    rintro _ ⟨⟩
    refine ⟨own.request, own.fits, ?_, ?_⟩
    · rintro sectors (⟨reads, _⟩ | ⟨_, writes, _⟩)
      · cases reads
      · cases writes
    · rintro written ⟨⟩
  | readBack sectors =>
    obtain ⟨disk, outside, inside⟩ := own.serve_read (Or.inr rfl)
    refine ⟨sound.change worker (congrArg (update · handle _) (serve_calls io request)) disk
      outside ?_, disk⟩
    rintro _ ⟨⟩
    refine ⟨own.request, own.fits, ?_, ?_⟩
    · rintro _ (⟨⟨⟩, _⟩ | ⟨_, writes, _⟩)
      · exact fun address member _ => (inside address member).trans (congrFun disk address).symm
      · cases writes
    · rintro written ⟨⟩

theorem Sound.serve_write (op : call.op = .write written) (status : call.status = none)
    (clear : io.Clear config handle written) :
    ((io.serve call.request).setCall handle (some { call with status := some .ok })).Sound
        config ∧ (io.serve call.request).disk = applyWrite config io.disk written := by
  have worker := sound.worker current
  have own := sound.call handle call current
  obtain ⟨disk, blkData⟩ := own.serve_write op status
  have calls := serve_calls io call.request
  refine ⟨⟨?_, fun other call' current' => ?_⟩, disk⟩
  · refine (update_of_ne (Ne.symm worker) _ _).trans ?_
    rw [calls]
    exact sound.eventLoop
  · by_cases here : other = handle
    · rw [here] at current' ⊢
      cases (update_self _ _ _).symm.trans current'
      refine ⟨own.request, own.fits, ?_, ?_⟩
      · rintro sectors (⟨reads, _⟩ | ⟨_, _, waits⟩)
        · cases op.symm.trans reads
        · cases waits
      · rintro _ _ ⟨⟩
    · have before : io.calls other = some call' := by
        rw [← calls]
        exact (update_of_ne here _ _).symm.trans current'
      refine (sound.call other call' before).congr (fun address _ => congrFun blkData address) ?_
      intro sectors holds address inside notOwn
      refine (congrFun disk address).trans (copy_of_not_mem fun written => notOwn ?_)
      exact clear other here call' sectors before holds address written inside

theorem Sound.fail :
    (io.setCall handle (some { call with status := some .failed })).Sound config := by
  have own := sound.call handle call current
  refine sound.change (sound.worker current) rfl rfl (fun _ _ => rfl) ?_
  rintro _ ⟨⟩
  refine ⟨own.request, own.fits, ?_, ?_⟩
  · rintro sectors (⟨_, status⟩ | ⟨_, _, status⟩)
    · cases status
    · cases status
  · rintro _ _ ⟨⟩

end

end BlkIo

end LionsOS.Fat

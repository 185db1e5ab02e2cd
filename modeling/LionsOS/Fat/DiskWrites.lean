/-
This file lets the workers of the event loop call `io.c`. What a worker writes to
sectors of blocks that another worker has read and is about to write back is
undone, unless the other patches them itself. If no such sector is written
meanwhile, the disk is what the writes make of it in the order the device served
them.
-/

import LionsOS.Fat.BlockCalls
import LionsOS.Fat.Completions
import Mathlib.Data.List.Permutation

open Function

namespace LionsOS.Fat

open Bytes StepRun BlkIo FatServer Places Option

variable {call : DiskCall} {written : SectorWrite} {io : BlkIo} {server : FatServer}
  {config : BlkConfig}

/-! ### The system -/

/-- The server with its block device, and the writes whose calls have returned `RES_OK`. -/
structure FatSystem where
  server : FatServer
  io : BlkIo
  written : Multiset SectorWrite

variable {start finish : FatSystem}

inductive DiskEvent where
  /-- The client, or the event loop. -/
  | server (event : FatEvent)
  | diskRead (handle : Fin fatThreadNum) (sectors : Sectors)
  | diskWrite (handle : Fin fatThreadNum) (written : SectorWrite)
  | diskSync (handle : Fin fatThreadNum)
  /-- The device answers the request of a worker. -/
  | answer (handle : Fin fatThreadNum) (status : BlkRespStatus)
  | blkResponse (id : Fin fatThreadNum)
  /-- A worker goes on after its request, with these bytes in the buffer of its caller. -/
  | proceed (handle : Fin fatThreadNum) (buff : Nat → UInt8T)
  | finish (handle : Fin fatThreadNum) (status result : UInt64T)

/-- Events that depend on where a worker is in `io.c`. -/
def FatEvent.ofWorker : FatEvent → Bool
  | .block _ | .finish _ _ _ | .blkResponse _ => true
  | _ => false

namespace FatSystem

/-- Whether the cothread of a handle can run. -/
def runs (server : FatServer) (handle : Fin fatThreadNum) : Bool :=
  server.call.any (fun call => call.stage == .yielding) && server.cothread handle == .ready

/-- A worker waits for the answer to a request. -/
def await (system : FatSystem) (handle : Fin fatThreadNum) (io : BlkIo) : Option FatSystem :=
  (system.server.perform (.block handle)).map fun server => { system with server, io }

/-- A worker that is not in `io.c` calls it. -/
def enter (system : FatSystem) (handle : Fin fatThreadNum) (io : Option BlkIo) : Option FatSystem :=
  if (system.io.calls handle).isNone then io.bind (system.await handle) else none

/-- A worker goes on after its request was answered. -/
def proceed (config : BlkConfig) (system : FatSystem) (handle : Fin fatThreadNum)
    (buff : Nat → UInt8T) (op : DiskOp) (status : BlkRespStatus) : Option FatSystem :=
  match op, status with
  | .readBack sectors, .ok =>
    system.await handle (system.io.writeBack config handle { sectors, buff })
  | .write written, .ok =>
    some { system with
      io := system.io.setCall handle none
      written := system.written + {written} }
  | _, _ => some { system with io := system.io.setCall handle none }

def perform (config : BlkConfig) (system : FatSystem) : DiskEvent → Option FatSystem
  | .server event =>
    if event.ofWorker then none
    else (system.server.perform event).map fun server => { system with server }
  | .diskRead handle sectors => system.enter handle (system.io.diskRead config handle sectors)
  | .diskWrite handle written => system.enter handle (system.io.diskWrite config handle written)
  | .diskSync handle => system.enter handle (some (system.io.diskSync handle))
  | .answer handle status => (system.io.answer handle status).map fun io => { system with io }
  | .blkResponse id =>
    if ((system.io.calls id).bind DiskCall.status).isSome then
      (system.server.perform (.blkResponse id)).map fun server => { system with server }
    else none
  | .proceed handle buff =>
    if runs system.server handle then
      (system.io.calls handle).bind fun call =>
        call.status.bind fun status => system.proceed config handle buff call.op status
    else none
  | .finish handle status result =>
    if (system.io.calls handle).isNone then
      (system.server.perform (.finish handle status result)).map fun server =>
        { system with server }
    else none

end FatSystem

def DiskStep (config : BlkConfig) (system : FatSystem) (event : DiskEvent) (next : FatSystem) :
    Prop :=
  system.perform config event = some next

/-! ### The writes that are on the disk -/

/-- The write of a call whose blocks are written, before it returns. -/
def DiskCall.landed : Option DiskCall → Multiset SectorWrite
  | some { op := .write written, status := some .ok, .. } => {written}
  | _ => 0

open DiskCall

theorem DiskCall.landed_of_waiting (waits : call.status = none) : landed (some call) = 0 := by
  obtain ⟨op, request, _⟩ := call
  cases waits
  cases op with
  | _ => rfl

theorem DiskCall.landed_of_failed (call : DiskCall) :
    landed (some { call with status := some .failed }) = 0 := by
  obtain ⟨op, request, _⟩ := call
  cases op with
  | _ => rfl

theorem DiskCall.landed_of_noWrite (noWrite : ∀ written, call.op ≠ .write written) :
    landed (some call) = 0 := by
  obtain ⟨op, request, status⟩ := call
  cases op with
  | write written => exact absurd rfl (noWrite written)
  | _ => rfl

namespace FatSystem

variable {status : BlkRespStatus}

/-- The writes whose blocks are written. -/
def done (system : FatSystem) : Multiset SectorWrite :=
  system.written + total fun handle => landed (system.io.calls handle)

/-- A step puts one write on the disk, or none. -/
inductive Lands (config : BlkConfig) (system next : FatSystem) : Prop
  | nothing (disk : next.io.disk = system.io.disk) (same : next.done = system.done)
  | lands (written : SectorWrite)
    (disk : next.io.disk = applyWrite config system.io.disk written)
    (more : next.done = system.done + {written})

/-- A write that is carried out is clear of the blocks that other calls hold. -/
def ClearWhenAnswered (config : BlkConfig) (system : FatSystem) (event : DiskEvent) : Prop :=
  ∀ handle call written, event = .answer handle .ok → system.io.calls handle = some call →
    call.op = .write written → system.io.Clear config handle written

variable {system next : FatSystem} {event : DiskEvent} {handle : Fin fatThreadNum}

/-- A call goes on, and no write lands or returns. -/
structure GoesOn (config : BlkConfig) (io : BlkIo) (handle : Fin fatThreadNum) (after : BlkIo) :
    Prop where
  sound : after.Sound config
  disk : after.disk = io.disk
  call : ∃ call, landed call = landed (io.calls handle) ∧
    after.calls = update io.calls handle call

theorem GoesOn.total {after : BlkIo} (goesOn : GoesOn config io handle after) :
    (total fun other => landed (after.calls other)) =
      total fun other => landed (io.calls other) := by
  obtain ⟨call, same, calls⟩ := goesOn.call
  refine total_congr fun other => ?_
  by_cases here : other = handle
  · rw [here, calls, update_self, same]
  · rw [calls, update_of_ne here]

theorem GoesOn.lands (goesOn : GoesOn config system.io handle next.io)
    (sameWritten : next.written = system.written) : Lands config system next :=
  .nothing goesOn.disk (by rw [done, done, sameWritten, goesOn.total])

/-- A worker runs, so it is not the event loop. -/
theorem worker_of_ready (pool : system.server.PoolSound)
    (ready : system.server.cothread handle = .ready) :
    handle ≠ eventThread := by
  rintro rfl
  rw [pool.running] at ready
  cases ready

theorem await_cases (pool : system.server.PoolSound) (awaits : system.await handle io = some next) :
    next.server.PoolSound ∧ handle ≠ eventThread ∧ next.io = io ∧ next.written = system.written := by
  obtain ⟨server, blocks, rfl⟩ := map_eq_some_iff.mp awaits
  refine ⟨step_poolSound pool blocks, ?_, rfl, rfl⟩
  cases acts blocks with
  | block current stage ready => exact worker_of_ready pool ready

theorem enter_cases {io : Option BlkIo} (enters : system.enter handle io = some next) :
    system.io.calls handle = none ∧ ∃ entered, io = some entered ∧
      system.await handle entered = some next := by
  unfold enter at enters
  split_ifs at enters with outside
  obtain ⟨entered, some, awaits⟩ := bind_eq_some_iff.mp enters
  exact ⟨isNone_iff_eq_none.mp outside, entered, some, awaits⟩

/-! ### What an event does -/

/-- What is kept and what is done. -/
def Keeps (config : BlkConfig) (system next : FatSystem) : Prop :=
  next.server.PoolSound ∧ next.io.Sound config ∧ Lands config system next

theorem keeps_of_server (pool : system.server.PoolSound) (sound : system.io.Sound config)
    {fatEvent : FatEvent} (step : FatStep system.server fatEvent server) :
    Keeps config system { system with server } :=
  ⟨step_poolSound pool step, sound, .nothing rfl rfl⟩

theorem keeps_of_await (pool : system.server.PoolSound)
    (goesOn : handle ≠ eventThread → GoesOn config system.io handle io)
    (awaits : system.await handle io = some next) : Keeps config system next := by
  obtain ⟨poolNext, worker, rfl, sameWritten⟩ := await_cases pool awaits
  exact ⟨poolNext, (goesOn worker).sound, (goesOn worker).lands sameWritten⟩

theorem keeps_of_enter (pool : system.server.PoolSound) {io : Option BlkIo}
    (goesOn : ∀ entered, io = some entered → system.io.calls handle = none →
      handle ≠ eventThread → GoesOn config system.io handle entered)
    (enters : system.enter handle io = some next) : Keeps config system next := by
  obtain ⟨outside, entered, some, awaits⟩ := enter_cases enters
  exact keeps_of_await pool (goesOn entered some outside) awaits

variable {entered : BlkIo}

/-- A worker makes its first request, which is not to write. -/
theorem goesOn_of_enqueue (sound : io.Sound config) (outside : io.calls handle = none)
    (worker : handle ≠ eventThread) {op : DiskOp} (fits : op.Fits config)
    (noWrite : ∀ written, op ≠ .write written) :
    GoesOn config io handle (io.blkEnqueueReq handle op (op.request config handle)) where
  sound := sound.enqueue worker fits noWrite
  disk := rfl
  call := by
    refine ⟨_, ?_, rfl⟩
    rw [outside]
    cases op with
    | write written => exact absurd rfl (noWrite written)
    | _ => rfl

/-- A worker has its filled, or patched, blocks written. -/
theorem goesOn_of_fill (sound : io.Sound config) (worker : handle ≠ eventThread)
    (nothing : landed (io.calls handle) = 0) {offset : Nat}
    (starts : (blockRange config.sectorSize written.sectors).start + offset =
      (sectorRange config.sectorSize written.sectors).start)
    (fits : (DiskOp.write written).Fits config)
    (rest : ∀ address ∈ blockRange config.sectorSize written.sectors,
      address ∉ sectorRange config.sectorSize written.sectors →
      io.blkData (place config handle written.sectors address) = io.disk address) :
    GoesOn config io handle ((io.fillSlice config handle offset written).blkEnqueueReq handle
      (.write written) (transfer config handle .write written.sectors)) where
  sound := sound.fill starts worker fits rest
  disk := rfl
  call := by
    refine ⟨_, ?_, rfl⟩
    rw [nothing]
    rfl

theorem diskRead_goesOn {sectors : Sectors} (sound : io.Sound config)
    (reads : io.diskRead config handle sectors = some entered) (outside : io.calls handle = none)
    (worker : handle ≠ eventThread) : GoesOn config io handle entered := by
  obtain ⟨shift, fills⟩ := config.mountable.fills
  unfold diskRead at reads
  dsimp only at reads
  split_ifs at reads with asserted
  cases reads
  have fits : (DiskOp.read sectors).Fits config := fills.length_le asserted
  exact goesOn_of_enqueue sound outside worker fits fun _ same => by cases same

theorem diskWrite_goesOn (sound : io.Sound config)
    (writes : io.diskWrite config handle written = some entered) (outside : io.calls handle = none)
    (worker : handle ≠ eventThread) : GoesOn config io handle entered := by
  obtain ⟨shift, fills⟩ := config.mountable.fills
  have nothing : landed (io.calls handle) = 0 := by rw [outside]; rfl
  unfold diskWrite at writes
  dsimp only at writes
  split_ifs at writes with size asserted asserted aligned
  · -- Sectors of the size of a block.
    cases writes
    obtain ⟨sameSector, sameCount⟩ := fills.whole written.sectors size
    have request : transfer config handle .write written.sectors =
        { code := .write
          offset := threadBlkAddr config handle
          block := written.sectors.sector
          count := written.sectors.count } := by
      rw [transfer, sameSector, sameCount]
    have same : sectorRange config.sectorSize written.sectors =
        blockRange config.sectorSize written.sectors := by
      have sizes : config.sectorSize.toNat = blkTransferSize.toNat := by
        rw [← size, BitVec.toNat_setWidth_of_le (by decide)]
      rw [sectorRange, blockRange, sameSector, sameCount, sizes]
    have fits : (DiskOp.write written).Fits config := by
      show (blockRange config.sectorSize written.sectors).length ≤ config.maxClusterSize
      have short := fills.sddfCount_le written.sectors
      rw [sameCount] at short
      rw [blockRange, sameCount, ← mulPowerOf2_blkTransferSize short]
      exact asserted
    rw [← request]
    refine goesOn_of_fill sound worker nothing (by rw [same, Nat.add_zero]) fits
      fun address inside notOwn => ?_
    rw [same] at notOwn
    exact absurd inside notOwn
  · -- Sectors that fill their blocks.
    cases writes
    have same := fills.sectorRange_eq aligned.1 aligned.2
    refine goesOn_of_fill sound worker nothing (by rw [same, Nat.add_zero])
      (fills.length_le asserted) fun address inside notOwn => ?_
    rw [same] at notOwn
    exact absurd inside notOwn
  · -- Blocks that have to be read first.
    cases writes
    have fits : (DiskOp.readBack written.sectors).Fits config := fills.length_le asserted
    exact goesOn_of_enqueue sound outside worker fits fun _ same => by cases same

section

variable (pool : system.server.PoolSound) (sound : system.io.Sound config)
include pool sound

theorem keeps_of_proceed {buff : Nat → UInt8T} (current : system.io.calls handle = some call)
    (answered : call.status = some status)
    (proceeds : system.proceed config handle buff call.op status = some next) :
    Keeps config system next := by
  obtain ⟨shift, fills⟩ := config.mountable.fills
  have worker := sound.worker current
  have own := sound.call handle call current
  -- A call that returns without a write that has landed.
  have leaves : landed (some call) = 0 →
      next = { system with io := system.io.setCall handle none } → Keeps config system next := by
    rintro nothing rfl
    have goesOn : GoesOn config system.io handle (system.io.setCall handle none) :=
      ⟨sound.leave worker, rfl, none, by rw [current, nothing]; rfl, rfl⟩
    exact ⟨pool, goesOn.sound, goesOn.lands rfl⟩
  obtain ⟨op, request, _⟩ := call
  cases answered
  cases op with
  | read sectors | sync => exact leaves rfl (some.inj proceeds).symm
  | readBack sectors =>
    cases status with
    | failed => exact leaves rfl (some.inj proceeds).symm
    | ok =>
      refine keeps_of_await pool (fun worker => ?_) proceeds
      refine goesOn_of_fill sound worker (by rw [current]; rfl)
        (fills.sectorRange_start sectors) own.fits ?_
      exact own.held sectors (.read rfl rfl)
  | write written =>
    cases status with
    | failed => exact leaves rfl (some.inj proceeds).symm
    | ok =>
      cases proceeds
      refine ⟨pool, sound.leave worker, .nothing rfl ?_⟩
      have removed : (total fun other => landed (system.io.calls other)) =
          (total fun other => landed ((system.io.setCall handle none).calls other)) +
            {written} := by
        refine total_remove handle (fun other different => ?_) ?_
        · rw [setCall_of_ne _ _ different]
        · rw [setCall_self, current]
          rfl
      show system.written + {written} + _ = system.written + _
      rw [removed]
      ac_rfl

theorem keeps_of_answer (clear : ClearWhenAnswered config system (.answer handle status))
    (answers : system.io.answer handle status = some io) :
    Keeps config system { system with io } := by
  unfold answer at answers
  cases current : system.io.calls handle with
  | none =>
    rw [current] at answers
    cases answers
  | some call =>
    rw [current] at answers
    dsimp only at answers
    split_ifs at answers with waits succeeds
    · subst succeeds
      cases answers
      have calls := serve_calls system.io call.request
      have waiting := landed_of_waiting (isNone_iff_eq_none.mp waits)
      by_cases writes : ∃ written, call.op = .write written
      · obtain ⟨written, op⟩ := writes
        obtain ⟨soundNext, disk⟩ := sound.serve_write current op
          (isNone_iff_eq_none.mp waits) (clear handle call written rfl current op)
        refine ⟨pool, soundNext, .lands written disk ?_⟩
        refine (congrArg (system.written + ·) ?_).trans (add_assoc _ _ _).symm
        refine total_add handle (fun other different => ?_) ?_
        · rw [setCall_of_ne _ _ different, calls]
        · rw [setCall_self, current, waiting, op]
          rfl
      · have noWrite := not_exists.mp writes
        obtain ⟨soundNext, disk⟩ := sound.serve_other current noWrite
        have goesOn : GoesOn config system.io handle ((system.io.serve call.request).setCall handle
            (some { call with status := some .ok })) := by
          refine ⟨soundNext, disk, _, ?_, congrArg (update · handle _) calls⟩
          rw [current, waiting]
          exact landed_of_noWrite noWrite
        exact ⟨pool, soundNext, goesOn.lands rfl⟩
    · cases answers
      have goesOn : GoesOn config system.io handle (system.io.setCall handle
          (some { call with status := some status })) := by
        cases status with
        | ok => exact absurd rfl succeeds
        | failed =>
          refine ⟨sound.fail current, rfl, _, ?_, rfl⟩
          rw [current, landed_of_waiting (isNone_iff_eq_none.mp waits)]
          exact landed_of_failed call
      exact ⟨pool, goesOn.sound, goesOn.lands rfl⟩

theorem step_keeps (clear : ClearWhenAnswered config system event)
    (step : DiskStep config system event next) : Keeps config system next := by
  unfold DiskStep at step
  cases event with
  | server event =>
    simp only [perform] at step
    split_ifs at step
    obtain ⟨server, taken, rfl⟩ := map_eq_some_iff.mp step
    exact keeps_of_server pool sound taken
  | diskRead handle sectors =>
    exact keeps_of_enter pool (fun entered reads => diskRead_goesOn sound reads) step
  | diskWrite handle written =>
    exact keeps_of_enter pool (fun entered writes => diskWrite_goesOn sound writes) step
  | diskSync handle =>
    refine keeps_of_enter pool ?_ step
    rintro entered ⟨⟩ outside worker
    have fits : DiskOp.sync.Fits config := trivial
    exact goesOn_of_enqueue sound outside worker fits fun _ same => by cases same
  | answer handle status =>
    obtain ⟨io, answers, rfl⟩ := map_eq_some_iff.mp step
    exact keeps_of_answer pool sound clear answers
  | blkResponse id =>
    simp only [perform] at step
    split_ifs at step
    obtain ⟨server, taken, rfl⟩ := map_eq_some_iff.mp step
    exact keeps_of_server pool sound taken
  | proceed handle buff =>
    simp only [perform] at step
    split_ifs at step
    obtain ⟨call, current, rest⟩ := bind_eq_some_iff.mp step
    obtain ⟨status, answered, proceeds⟩ := bind_eq_some_iff.mp rest
    exact keeps_of_proceed pool sound current answered proceeds
  | finish handle status result =>
    simp only [perform] at step
    split_ifs at step
    obtain ⟨server, taken, rfl⟩ := map_eq_some_iff.mp step
    exact keeps_of_server pool sound taken

end

/-- The disk is what the writes on it make of it, one after the other. -/
structure Ordered (config : BlkConfig) (disk : Nat → UInt8T) (system : FatSystem) : Prop where
  pool : system.server.PoolSound
  sound : system.io.Sound config
  order : ∃ order : List SectorWrite, (order : Multiset SectorWrite) = system.done ∧
    system.io.disk = order.foldl (applyWrite config) disk

theorem step_ordered {disk : Nat → UInt8T} (ordered : system.Ordered config disk)
    (clear : ClearWhenAnswered config system event) (step : DiskStep config system event next) :
    next.Ordered config disk := by
  obtain ⟨pool, sound, lands⟩ := step_keeps ordered.pool ordered.sound clear step
  obtain ⟨order, all, sameDisk⟩ := ordered.order
  refine ⟨pool, sound, ?_⟩
  cases lands with
  | nothing disk same => exact ⟨order, all.trans same.symm, disk.trans sameDisk⟩
  | lands written disk more =>
    refine ⟨order ++ [written], ?_, ?_⟩
    · rw [more, ← all]
      rfl
    · rw [disk, sameDisk, List.foldl_append]
      rfl

/-- The server has just started, and nothing was written. -/
structure Initial (system : FatSystem) : Prop where
  server : system.server.Initial
  calls : ∀ handle, system.io.calls handle = none
  written : system.written = 0

theorem Initial.ordered (initial : system.Initial) : system.Ordered config system.io.disk where
  pool := initial.server.poolSound
  sound := ⟨initial.calls _, fun handle call current => by
    rw [initial.calls handle] at current
    cases current⟩
  order := by
    refine ⟨[], ?_, rfl⟩
    have nothing : (total fun handle => landed (system.io.calls handle)) = 0 :=
      Finset.sum_eq_zero fun handle _ => by
        rw [initial.calls handle]
        rfl
    rw [done, initial.written, nothing]
    rfl

theorem done_of_completed
    (completed : ∀ handle call, system.io.calls handle = some call → ¬ call.op.Writes) :
    system.done = system.written := by
  have nothing : (total fun handle => landed (system.io.calls handle)) = 0 := by
    refine Finset.sum_eq_zero fun handle _ => ?_
    cases current : system.io.calls handle with
    | none => rfl
    | some call =>
      refine landed_of_noWrite fun written op => completed handle call current ?_
      rw [op]
      trivial
  rw [done, nothing, add_zero]

end FatSystem

/-- Whatever the workers write, in whatever order the device serves their requests, if no write is
carried out to a sector of blocks that another worker has read and will write back without having
patched that sector, then when all calls of `disk_write` have completed, the disk is what the writes
that have succeeded make of it, one after the other. -/
theorem disk_eq_writes_in_order {config : BlkConfig} {start system : FatSystem}
    {events : List DiskEvent} (initial : start.Initial)
    (run : Run (Guarded (FatSystem.ClearWhenAnswered config) (DiskStep config)) start events system)
    (completed : ∀ handle call, system.io.calls handle = some call → ¬ call.op.Writes) :
    ∃ order : List SectorWrite, (order : Multiset SectorWrite) = system.written ∧
      system.io.disk = order.foldl (applyWrite config) start.io.disk := by
  have ordered := run.invariant (FatSystem.Ordered config start.io.disk) initial.ordered
    fun _ _ _ ordered taken => FatSystem.step_ordered ordered taken.1 taken.2
  rw [← FatSystem.done_of_completed completed]
  exact ordered.order

/-! ### Two writes to one block -/

/-- A device with sectors of 512 bytes. -/
def smallSectors : BlkConfig where
  sectorSize := 512
  maxClusterSize := 524288
  mountable := by decide

/-- A sector filled with one byte. -/
def sectorOf (sector : UInt32T) (within : sector.toNat < 2 ^ 31) (byte : UInt8T) : SectorWrite where
  sectors :=
    { sector
      count := 1
      short := by decide
      within := Nat.lt_of_lt_of_le (Nat.add_lt_add_right within _) (by decide) }
  buff _ := byte

def firstSector : SectorWrite := sectorOf 1 (by decide) 0x11
def secondSector : SectorWrite := sectorOf 2 (by decide) 0x22

def FatSystem.started : FatSystem where
  server := FatServer.started
  io := { disk := fun _ => 0, blkData := fun _ => 0, calls := fun _ => none }
  written := 0

theorem FatSystem.started_initial : FatSystem.started.Initial where
  server := FatServer.started_initial
  calls _ := rfl
  written := rfl

/-- A write of these sectors first reads their block. -/
theorem diskWrite_small (small : written = firstSector ∨ written = secondSector) (io : BlkIo)
    (handle : Fin fatThreadNum) :
    io.diskWrite smallSectors handle written =
      some (io.blkEnqueueReq handle (.readBack written.sectors)
        (transfer smallSectors handle .read written.sectors)) := by
  unfold diskWrite
  rcases small with rfl | rfl
  · rw [if_neg (by decide), if_pos (by decide +kernel), if_neg (by decide +kernel)]
  · rw [if_neg (by decide), if_pos (by decide +kernel), if_neg (by decide +kernel)]

theorem diskWrite_step {system : FatSystem} {handle : Fin fatThreadNum}
    (outside : system.io.calls handle = none)
    (writes : system.io.diskWrite config handle written = some io)
    (blocks : system.server.perform (.block handle) = some server) :
    DiskStep config system (.diskWrite handle written) { system with server, io } := by
  show system.enter handle (system.io.diskWrite config handle written) = _
  rw [FatSystem.enter, outside, writes]
  exact congrArg (Option.map _) blocks

theorem run_of_performed (events : List DiskEvent)
    (performed : events.foldlM (FatSystem.perform config) start = some finish) :
    Run (DiskStep config) start events finish :=
  Run.of_foldlM (fun _ _ _ taken => taken) performed

/-- The events of the server up to where two workers run. -/
def twoAccepted : List DiskEvent :=
  [.publishCommands 2, .notified, .yield, .resume, .reap, .reap, .reap, .reap, .reap,
    .readCommandQueueSize, .readCompletionQueueSize, .pop firstWorker,
    .pop secondWorker, .stop, .yield].map DiskEvent.server

/-- The end of a call in which nothing is answered or accepted. -/
def callEnd : List DiskEvent :=
  [.resume, .reap, .reap, .reap, .reap, .reap, .stop, .publish].map DiskEvent.server

/-- A call in which two workers go on. -/
def bothProceed : List DiskEvent :=
  [.server .notified, .blkResponse firstWorker, .blkResponse secondWorker,
    .server .yield, .proceed firstWorker firstSector.buff,
    .proceed secondWorker secondSector.buff]

def measuredEnd : List DiskEvent :=
  [.resume, .reap, .reap, .reap, .reap, .reap, .readCommandQueueSize, .readCompletionQueueSize,
    .stop, .publish].map DiskEvent.server

def bothAnswered : List DiskEvent :=
  [.answer firstWorker .ok, .answer secondWorker .ok]

/-- A call in which one worker goes on. -/
def oneProceeds : List DiskEvent :=
  [.server .notified, .blkResponse firstWorker, .server .yield,
    .proceed firstWorker firstSector.buff]

/-- Two workers each write a sector of one block. The write of the first is undone. -/
theorem disk_write_undone :
    FatSystem.started.Initial ∧ ∃ events system,
      Run (DiskStep smallSectors) FatSystem.started events system ∧
      (∀ handle, system.io.calls handle = none) ∧
      system.written = {firstSector, secondSector} ∧
      ∀ order : List SectorWrite, (order : Multiset SectorWrite) = system.written →
        system.io.disk ≠ order.foldl (BlkIo.applyWrite smallSectors) FatSystem.started.io.disk := by
  obtain ⟨events, system, run, outside, written, undone⟩ : ∃ events system,
      Run (DiskStep smallSectors) FatSystem.started events system ∧
      (∀ handle, system.io.calls handle = none) ∧
      system.written = {firstSector, secondSector} ∧ system.io.disk 512 = 0 := by
    refine ⟨_, _, ((((run_of_performed twoAccepted rfl).snoc
      (diskWrite_step rfl (diskWrite_small (Or.inl rfl) _ FatServer.firstWorker) rfl)).snoc
      (diskWrite_step rfl (diskWrite_small (Or.inr rfl) _ FatServer.secondWorker) rfl)).trans
      (run_of_performed (callEnd ++ bothAnswered ++ bothProceed ++ measuredEnd ++ bothAnswered ++
        bothProceed) rfl)), ?_, ?_, ?_⟩
    · decide
    · rfl
    · decide +kernel
  refine ⟨FatSystem.started_initial, events, system, run, outside, written, ?_⟩
  intro order all same
  have orders := List.perm_pair.mp (Multiset.coe_eq_coe.mp (all.trans written))
  have kept : order.foldl (BlkIo.applyWrite smallSectors) FatSystem.started.io.disk 512 = 0x11 := by
    rcases orders with rfl | rfl
    · decide +kernel
    · decide +kernel
  rw [← same, undone] at kept
  exact absurd kept (by decide)

namespace FatSystem

variable {system next : FatSystem} {handle : Fin fatThreadNum}

theorem guarded_of_noAnswer (events : List DiskEvent)
    (noAnswer : ∀ handle, DiskEvent.answer handle .ok ∉ events)
    (performed : events.foldlM (perform config) start = some finish) :
    Run (Guarded (ClearWhenAnswered config) (DiskStep config)) start events finish := by
  refine (run_of_performed events performed).guarded_of_labels ?_
  intro event member state handle call written same
  rw [same] at member
  exact absurd member (noAnswer handle)

/-- No other worker is in `io.c`. -/
theorem guarded_of_alone (handle : Fin fatThreadNum) (status : BlkRespStatus)
    (alone : ∀ other, other ≠ handle → system.io.calls other = none)
    (answers : DiskStep config system (.answer handle status) next) :
    Guarded (ClearWhenAnswered config) (DiskStep config) system (.answer handle status) next := by
  refine ⟨fun other call written same _ _ third different call' sectors current => ?_, answers⟩
  rw [DiskEvent.answer.injEq] at same
  rw [alone third (same.1 ▸ different)] at current
  cases current

theorem guarded_of_diskWrite (writes : DiskStep config system (.diskWrite handle written) next) :
    Guarded (ClearWhenAnswered config) (DiskStep config) system (.diskWrite handle written) next :=
  ⟨fun _ _ _ same => (nomatch same), writes⟩

end FatSystem

set_option maxRecDepth 4096 in
/-- A write that is not disturbed. -/
theorem disk_eq_writes_in_order_of_one :
    ∃ events system, Run (Guarded (FatSystem.ClearWhenAnswered smallSectors)
        (DiskStep smallSectors)) FatSystem.started events system ∧
      system.written = {firstSector} ∧
      ∃ order : List SectorWrite, (order : Multiset SectorWrite) = system.written ∧
        system.io.disk = order.foldl (BlkIo.applyWrite smallSectors) FatSystem.started.io.disk := by
  obtain ⟨events, system, run, outside, written⟩ : ∃ events system,
      Run (Guarded (FatSystem.ClearWhenAnswered smallSectors) (DiskStep smallSectors))
        FatSystem.started events system ∧
      (∀ handle, system.io.calls handle = none) ∧ system.written = {firstSector} := by
    have accepted := @FatSystem.guarded_of_noAnswer smallSectors FatSystem.started _ twoAccepted
      (by simp [twoAccepted]) rfl
    have asked := accepted.snoc (FatSystem.guarded_of_diskWrite
      (diskWrite_step rfl (diskWrite_small (Or.inl rfl) _ FatServer.firstWorker) rfl))
    have idle := asked.trans (FatSystem.guarded_of_noAnswer
      (.finish FatServer.secondWorker 0 0 :: callEnd) (by simp [callEnd]) rfl)
    have read := idle.snoc (FatSystem.guarded_of_alone FatServer.firstWorker .ok (by decide) rfl)
    have patched := read.trans (FatSystem.guarded_of_noAnswer (oneProceeds ++ measuredEnd)
      (by simp [oneProceeds, measuredEnd]) rfl)
    have landed := patched.snoc
      (FatSystem.guarded_of_alone FatServer.firstWorker .ok (by decide) rfl)
    have returned := landed.trans (FatSystem.guarded_of_noAnswer oneProceeds
      (by simp [oneProceeds]) rfl)
    refine ⟨_, _, returned, ?_, ?_⟩
    · decide
    · rfl
  exact ⟨events, system, run, written,
    disk_eq_writes_in_order FatSystem.started_initial run fun handle call current => by
      rw [outside handle] at current
      cases current⟩

end LionsOS.Fat

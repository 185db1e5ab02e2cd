/-
This file is about closes that fail. A close first takes its slot out of use, which
keeps other workers away from the slot and from the object; when FatFs then fails
to close a file, the slot is set to the file again. For a directory this is missing:
the slot stays allocated and refers to nothing, and the directory stays taken.
-/

import LionsOS.Fat.Handling
import LionsOS.Fat.Holdings

open Function

namespace LionsOS.Fat

open LionsOS.Fs StepRun

variable {fatfs : FatFs} {Worker : Type} {kind : OfKind} {before : FatFiles fatfs}
  {progress : Progress} {left : OftableSlot} {worker : Worker} {answer : Answer} {type : CmdType}

variable {after files : FatFiles fatfs} {slot : Fin maxOpenFiles} {reply : FatFsReply}
  {stage : HandlerStage} {fd status : UInt64T} {result : Option UInt64T}

/-! ### Allocated slots are left alone -/

theorem FirstTableEffect.allocated_kept (effect : FirstTableEffect before after progress)
    (allocated : (before.table slot).state = .allocated) :
    after.table slot = before.table slot := by
  cases effect with
  | nothing table | takes table => rw [table]
  | begins begun =>
    obtain ⟨_, next, begins, same⟩ := fdBeginOp_eq_some begun
    rw [same, update_of_ne]
    rintro rfl
    obtain ⟨_, _, _, _, ⟨opened, _⟩ | ⟨busy, _⟩⟩ := FdUse.ofBeginOp_cases begins
    · rw [allocated] at opened
      cases opened
    · rw [allocated] at busy
      cases busy
  | unsets _ opened table =>
    rw [table, update_of_ne]
    rintro rfl
    rw [allocated] at opened
    cases opened

/-- What follows a call leaves allocated slots as they are, other than that of the worker. -/
theorem ResumeTableEffect.allocated_kept
    (effect : ResumeTableEffect before after reply stage progress)
    (survives : progress ≠ .failedAssertion) (allocated : (before.table slot).state = .allocated)
    (apart : ∀ fd, stage.closes = some fd → slot ≠ slotOf fd) :
    after.table slot = before.table slot := by
  cases effect with
  | nothing table | refused _ _ _ table | kept _ _ table => rw [table]
  | ends _ ended =>
    obtain ⟨_, next, ends, same⟩ := onSlot_eq_some ended
    rw [same, update_of_ne]
    rintro rfl
    obtain ⟨_, busy, _⟩ := FdUse.ofEndOp_cases ends
    rw [allocated] at busy
    cases busy
  | opened _ _ _ alloc set =>
    obtain ⟨free, isFree, rfl, fdIs⟩ := fdAlloc_eq_some alloc
    have here := slotOf_ofToFd _ free ▸ congrArg slotOf fdIs
    have away : slot ≠ free := by
      rintro rfl
      rw [allocated] at isFree
      cases isFree
    rw [set, set_of_ne _ _ (here ▸ away), update_of_ne away]
  | closed _ closes _ _ table =>
    rw [table]
    cases frees : fdFree before.table _ with
    | none => rfl
    | some next =>
      obtain ⟨_, freed, _, rfl⟩ := onSlot_eq_some frees
      exact update_of_ne (apart _ closes) _ _
  | restored closes _ table =>
    rw [table]
    exact set_of_ne _ _ (apart _ (by rw [closes]; rfl))
  | failed => exact absurd rfl survives

namespace FatWorkers

variable [DecidableEq Worker] [Fintype Worker] {workers next : FatWorkers fatfs Worker}

/-- A worker is in a stage, and the slot it has taken out of use is as it left it. -/
def Awaits (worker : Worker) (stage : HandlerStage) (fd : UInt64T) (left : OftableSlot)
    (workers : FatWorkers fatfs Worker) : Prop :=
  (∃ operation, workers.working worker = some operation ∧ operation.stage = stage) ∧
    workers.files.table (slotOf fd) = left

theorem Awaits.step {event : WorkerEvent fatfs Worker}
    (awaits : Awaits worker stage fd left workers) (sound : workers.Sound)
    (few : Fintype.card Worker < 2 ^ 64) (closes : stage.closes = some fd)
    (notResumed : event ≠ .resume worker) (step : Step workers event next)
    (alive : next.assertionFailed = false) : Awaits worker stage fd left next := by
  obtain ⟨⟨operation, working, rfl⟩, same⟩ := awaits
  obtain ⟨allocated, _⟩ := sound.accounted.closing worker fd ⟨operation, working, closes⟩
  cases step with
  | spawn live idle =>
    rename_i other type params
    have different : worker ≠ other := by
      rintro rfl
      rw [working] at idle
      cases idle
    refine ⟨⟨operation, (working_advance_of_ne different).trans working, rfl⟩, ?_⟩
    exact ((sound.firstEffect few idle _ _).allocated_kept allocated).trans same
  | act live busy waiting acts =>
    rename_i other acting reply volume share
    refine ⟨?_, same⟩
    rcases eq_or_ne worker other with rfl | different
    · rw [working] at busy
      cases busy
      exact ⟨_, update_self _ _ _, rfl⟩
    · exact ⟨operation, (update_of_ne different _ _).trans working, rfl⟩
  | resume live busy replied =>
    rename_i other resumed reply
    have different : worker ≠ other :=
      fun same => notResumed (congrArg WorkerEvent.resume same.symm)
    refine ⟨⟨operation, (working_advance_of_ne different).trans working, rfl⟩, ?_⟩
    refine ((hasResumeTableEffect_resume _ _ _).allocated_kept (survives_of_advance alive) allocated
      fun fd' closes' sameSlot => different ?_).trans same
    exact sound.accounted.apart worker fd other fd' ⟨operation, working, closes⟩
      ⟨resumed, busy, closes'⟩ sameSlot
  | writeShare => exact ⟨⟨operation, working, rfl⟩, same⟩

theorem Awaits.run {first : FatWorkers fatfs Worker} {events : List (WorkerEvent fatfs Worker)}
    (awaits : Awaits worker stage fd left first) (sound : first.Sound)
    (few : Fintype.card Worker < 2 ^ 64) (closes : stage.closes = some fd)
    (run : Run (Guarded (fun _ event => event ≠ .resume worker) Step) first events workers)
    (alive : workers.assertionFailed = false) :
    Awaits worker stage fd left workers ∧ workers.Sound := by
  refine run.invariant (fun workers => workers.assertionFailed = false →
    Awaits worker stage fd left workers ∧ workers.Sound) (fun _ => ⟨awaits, sound⟩) ?_ alive
  rintro state event after kept ⟨notResumed, taken⟩ aliveAfter
  obtain ⟨awaits, sound⟩ := kept (alive_of_step taken)
  exact ⟨awaits.step sound few closes notResumed taken aliveAfter, sound.step few taken aliveAfter⟩

end FatWorkers

/-! ### Closes -/

/-- What a command closes. -/
def closedKind : CmdType → Option OfKind
  | .fileClose => some .file
  | .dirClose => some .dir
  | _ => none

/-- The call and the stage that a close gets to. -/
def closingCall : OfKind → UInt64T → Fin maxOpenFiles → FatFsCall × HandlerStage
  | .file, fd, file => (.fClose file, .closing fd file)
  | .dir, fd, dir => (.fClosedir dir, .closingDir fd dir)

/-- A descriptor is that of an open object of a kind on which no operation is begun. -/
def CanClose (kind : OfKind) (table : OfTable) (fd : UInt64T) : Prop :=
  (table (slotOf fd)).generation ≤ fdGeneration fd ∧ (table (slotOf fd)).state = .opened kind

theorem operationFunctions_close (closes : closedKind type = some kind) (params : CmdParams)
    (files : FatFiles fatfs) :
    operationFunctions type params files = handleClose kind params files (closingCall kind) := by
  cases type with
  | fileClose | dirClose =>
    cases closes
    rfl
  | _ => cases closes

theorem closes_closingCall (kind : OfKind) (fd : UInt64T) (object : Fin maxOpenFiles) :
    (closingCall kind fd object).2.closes = some fd := by
  cases kind <;> rfl

theorem fdBeginOp_of_canClose {table : OfTable} (canClose : CanClose kind table fd) :
    ∃ next, fdBeginOp kind table fd = some ((table (slotOf fd)).handle, next) := by
  rw [fdBeginOp, fdToOf_eq, if_neg (BitVec.not_lt.mpr canClose.1), Option.bind_some,
    OftableSlot.ofBeginOp, canClose.2]
  dsimp only
  rw [if_pos rfl]
  exact ⟨_, rfl⟩

theorem refused_of_finished {object : Fin maxOpenFiles}
    (finished : (resume files reply (closingCall kind fd object).2).progress =
      .finished status result) (failed : status ≠ fsStatusSuccess) : reply.result ≠ .ok := by
  intro accepted
  cases kind with
  | file | dir =>
    simp only [closingCall, resume, if_pos accepted, asserting] at finished
    split at finished
    · cases finished
    · cases finished
      exact failed rfl

/-- After FatFs has failed to close a file, the slot is what it was. -/
theorem resume_closing_files {slot : OftableSlot} (left : files.table (slotOf fd) = slot.unset)
    (opened : slot.state = .opened .file) (notPassed : slot.unset.generation ≤ fdGeneration fd)
    (small : slot.handle.toNat < maxOpenFiles) (refused : reply.result ≠ .ok) :
    (resume files reply (closingCall .file fd (objectOf slot.handle)).2).files =
      { files with table := update files.table (slotOf fd) slot } := by
  have set := @fdSet_of_unset .file _ _ _ left notPassed slot.handle
  simp only [closingCall, resume, if_neg refused, finish, FatFiles.setTable, fdSetFile,
    handleOf_objectOf small]
  rw [set, Option.getD_some, ← opened]

theorem resume_closingDir_files {dir : Fin maxOpenFiles} (refused : reply.result ≠ .ok) :
    (resume files reply (closingCall .dir fd dir).2).files = files := by
  simp only [resume, if_neg refused]
  rfl

/-- The first segment of a close finishes and has changed nothing, or takes the slot out of use. -/
theorem close_cases {operations : Fin maxOpenFiles → Nat} (counted : files.table.Counted operations)
    (room : ∀ slot, operations slot + 1 < 2 ^ 64) (closes : closedKind type = some kind)
    (params : CmdParams) :
    (¬ CanClose kind files.table (paramWord params 0) ∧ ∃ status,
      operationFunctions type params files = finish files status none) ∨
    (CanClose kind files.table (paramWord params 0) ∧ operationFunctions type params files =
        inCall { files with table := files.table.unsetAt (paramWord params 0) }
          (closingCall kind (paramWord params 0)
            (objectOf (files.table (slotOf (paramWord params 0))).handle)).1
          (closingCall kind (paramWord params 0)
            (objectOf (files.table (slotOf (paramWord params 0))).handle)).2) := by
  rw [operationFunctions_close closes, handleClose_eq counted room]
  generalize paramWord params 0 = fd
  by_cases canClose : CanClose kind files.table fd
  · obtain ⟨begun, begins⟩ := fdBeginOp_of_canClose canClose
    rw [begins, (fdUnset_eq_some_iff begins).mpr ⟨canClose.2, rfl⟩]
    exact .inr ⟨canClose, rfl⟩
  · refine .inl ⟨canClose, ?_⟩
    split
    · exact ⟨_, rfl⟩
    · rename_i handle begun begins
      split
      · exact ⟨_, rfl⟩
      · rename_i next unset
        refine absurd ⟨?_, ((fdUnset_eq_some_iff begins).mp unset).1⟩ canClose
        exact (fdBeginOp_eq_some begins).1

namespace FatWorkers

variable [DecidableEq Worker]

/-- A worker handles a command that calls FatFs at most once: the states before and after its first
segment, and before and after its last, with the other workers in between. -/
inductive Completes (before : FatWorkers fatfs Worker) (worker : Worker) (type : CmdType)
    (params : CmdParams) :
    FatWorkers fatfs Worker → FatWorkers fatfs Worker → FatWorkers fatfs Worker → UInt64T → Prop
  | atOnce {first : FatWorkers fatfs Worker} {status : UInt64T} {result : Option UInt64T}
      (spawned : Step before (.spawn worker type params) first)
      (finished : (operationFunctions type params before.files).progress =
        .finished status result) :
      Completes before worker type params first first first status
  | afterCall {first middle last : FatWorkers fatfs Worker}
      {events : List (WorkerEvent fatfs Worker)} {call : FatFsCall} {stage : HandlerStage}
      {operation : Operation} {reply : FatFsReply} {status : UInt64T} {result : Option UInt64T}
      (spawned : Step before (.spawn worker type params) first)
      (calls : (operationFunctions type params before.files).progress = .inCall call stage)
      (meanwhile : Run (Guarded (fun _ event => event ≠ .resume worker) Step) first events middle)
      (working : middle.working worker = some operation)
      (replied : operation.reply = some reply)
      (resumed : Step middle (.resume worker) last)
      (finished : (Fat.resume middle.files reply operation.stage).progress =
        .finished status result) :
      Completes before worker type params first middle last status

/-- A command has left the table and the pools as they were before it: its slot is as it was, the
object is still in use, and its own segments have changed nothing else. -/
structure Restored (fd : UInt64T) (before first middle last : FatWorkers fatfs Worker) : Prop where
  slot : last.files.table (slotOf fd) = before.files.table (slotOf fd)
  others : ∀ slot, slot ≠ slotOf fd → first.files.table slot = before.files.table slot ∧
    last.files.table slot = middle.files.table slot
  pools : first.files.used = before.files.used ∧ last.files.used = middle.files.used
  object : ∀ object, slotObject (before.files.table (slotOf fd)) = some object → last.InUse object

variable [Fintype Worker] {start before first middle last : FatWorkers fatfs Worker}
  {worker : Worker} {type : CmdType} {kind : OfKind} {params : CmdParams}

section

variable (sound : before.Sound) (few : Fintype.card Worker < 2 ^ 64)
include sound few

/-- What a worker that closes has taken out of use is as it left it when it goes on. -/
theorem awaits_of_close (closes : closedKind type = some kind)
    (canClose : CanClose kind before.files.table (paramWord params 0))
    (spawned : Step before (.spawn worker type params) first) :
    first.files.table = before.files.table.unsetAt (paramWord params 0) ∧
      first.files.used = before.files.used ∧ first.Sound ∧
      Awaits worker (closingCall kind (paramWord params 0)
        (objectOf (before.files.table (slotOf (paramWord params 0))).handle)).2
        (paramWord params 0) (before.files.table (slotOf (paramWord params 0))).unset first := by
  obtain ⟨alive, idle⟩ : before.assertionFailed = false ∧ before.working worker = none := by
    cases spawned with
    | spawn alive idle => exact ⟨alive, idle⟩
  have begunNone : operatesOn (before.working worker) = none := by
    rw [idle]
    rfl
  have cases := close_cases sound.counted (operations_lt few begunNone) closes params
  obtain ⟨_, segment⟩ := cases.resolve_left fun failed => failed.1 canClose
  have firstIs : first = before.advance worker type params
      (operationFunctions type params before.files) := by
    cases spawned
    rfl
  have aliveFirst : first.assertionFailed = false := by
    rw [firstIs, segment]
    exact alive
  have soundFirst := sound.step few spawned aliveFirst
  rw [segment] at firstIs
  subst firstIs
  refine ⟨rfl, rfl, soundFirst, ⟨_, working_advance_self, rfl⟩, ?_⟩
  exact update_self _ _ _

/-- A close that finishes in its first segment has changed nothing. -/
theorem restored_of_atOnce (closes : closedKind type = some kind)
    (cannotClose : ¬ CanClose kind before.files.table (paramWord params 0))
    (completes : Completes before worker type params first middle last status) :
    Restored (paramWord params 0) before first middle last := by
  have finishes (idle : before.working worker = none) : ∃ status,
      operationFunctions type params before.files = finish before.files status none := by
    have begunNone : operatesOn (before.working worker) = none := by
      rw [idle]
      rfl
    rcases close_cases sound.counted (operations_lt few begunNone) closes params with
      ⟨_, failed⟩ | ⟨canClose, _⟩
    · exact failed
    · exact absurd canClose cannotClose
  cases completes with
  | atOnce spawned finished =>
    cases spawned with
    | spawn alive idle =>
      obtain ⟨status, segment⟩ := finishes idle
      rw [segment]
      exact ⟨rfl, fun _ _ => ⟨rfl, rfl⟩, ⟨rfl, rfl⟩,
        fun object held => sound.owned.used (.inl (slotOf (paramWord params 0))) object held⟩
  | afterCall spawned calls =>
    cases spawned with
    | spawn alive idle =>
      obtain ⟨status, segment⟩ := finishes idle
      rw [segment] at calls
      cases calls

/-- A close that FatFs has failed has taken its slot out of use, and finds the slot and its object
as it left them when it goes on. -/
theorem refused_of_completes (closes : closedKind type = some kind) (same : paramWord params 0 = fd)
    (canClose : CanClose kind before.files.table fd)
    (completes : Completes before worker type params first middle last status)
    (failed : status ≠ fsStatusSuccess) :
    first.files.table = before.files.table.unsetAt fd ∧ first.files.used = before.files.used ∧
      middle.files.table (slotOf fd) = (before.files.table (slotOf fd)).unset ∧
      (∀ object, slotObject (before.files.table (slotOf fd)) = some object → middle.InUse object) ∧
      ∃ reply, reply.result ≠ .ok ∧ last.files = (Fat.resume middle.files reply
        (closingCall kind fd (objectOf (before.files.table (slotOf fd)).handle)).2).files := by
  subst same
  have spawned : Step before (.spawn worker type params) first := by
    cases completes with
    | atOnce spawned | afterCall spawned => exact spawned
  obtain ⟨firstTable, firstUsed, soundFirst, awaits⟩ :=
    awaits_of_close sound few closes canClose spawned
  cases completes with
  | atOnce _ finished =>
    -- The worker is in the call of FatFs.
    obtain ⟨⟨operation, working, _⟩, _⟩ := awaits
    cases spawned
    rw [working_advance_self, finished] at working
    cases working
  | afterCall _ _ meanwhile working replied resumed finished =>
    obtain ⟨⟨⟨waiting, waits, stageIs⟩, left⟩, soundMiddle⟩ :=
      awaits.run soundFirst few (closes_closingCall kind _ _) meanwhile (alive_of_step resumed)
    rw [working] at waits
    cases waits
    rw [stageIs] at finished
    refine ⟨firstTable, firstUsed, left, fun object held => ?_, _,
      refused_of_finished finished failed, ?_⟩
    · refine soundMiddle.owned.used (.inr worker) object ?_
      show worksOn (middle.working worker) = some object
      rw [slotObject, canClose.2] at held
      rw [working, ← held]
      show HandlerStage.object _ = _
      rw [stageIs]
      cases kind <;> rfl
    · cases resumed with
      | resume _ working' replied' =>
        rw [working] at working'
        cases working'
        rw [replied] at replied'
        cases replied'
        rw [stageIs]
        rfl

/-- A close of a file that FatFs has failed is undone. -/
theorem restored_of_file (same : paramWord params 0 = fd)
    (canClose : CanClose .file before.files.table fd)
    (completes : Completes before worker .fileClose params first middle last status)
    (failed : status ≠ fsStatusSuccess) : Restored fd before first middle last := by
  obtain ⟨firstTable, firstUsed, left, inUse, reply, refused, lastFiles⟩ :=
    refused_of_completes sound few rfl same canClose completes failed
  rw [resume_closing_files left canClose.2 canClose.1 (sound.handles _) refused] at lastFiles
  refine ⟨?_, fun slot different => ⟨?_, ?_⟩, ⟨firstUsed, ?_⟩, fun object held => ?_⟩
  · rw [lastFiles]
    exact update_self _ _ _
  · rw [firstTable]
    exact update_of_ne different _ _
  · rw [lastFiles]
    exact update_of_ne different _ _
  · rw [lastFiles]
    rfl
  · unfold InUse
    rw [lastFiles]
    exact inUse object held

/-- A close of a directory that FatFs has failed is not. -/
theorem not_restored_of_dir (same : paramWord params 0 = fd)
    (canClose : CanClose .dir before.files.table fd)
    (completes : Completes before worker .dirClose params first middle last status)
    (failed : status ≠ fsStatusSuccess) : ¬ Restored fd before first middle last := by
  obtain ⟨_, _, left, _, reply, refused, lastFiles⟩ :=
    refused_of_completes sound few rfl same canClose completes failed
  rw [resume_closingDir_files refused] at lastFiles
  intro restored
  have state := congrArg OftableSlot.state restored.slot
  rw [lastFiles, left, canClose.2] at state
  cases state

end

/-- A failed close has restored what it changed exactly when it is that of a file, or did not get to
FatFs. -/
theorem failed_close_restores_iff {events : List (WorkerEvent fatfs Worker)}
    (few : Fintype.card Worker < 2 ^ 64) (initial : start.Initial)
    (run : Run Step start events before) (closes : type = .fileClose ∨ type = .dirClose)
    {status : UInt64T} (completes : Completes before worker type params first middle last status)
    (failed : status ≠ fsStatusSuccess) :
    Restored (paramWord params 0) before first middle last ↔
      (type = .fileClose ∨ ¬ CanClose .dir before.files.table (paramWord params 0)) := by
  have alive : before.assertionFailed = false := by
    cases completes with
    | atOnce spawned | afterCall spawned => exact alive_of_step spawned
  have sound := sound_of_run few initial run alive
  rcases closes with rfl | rfl
  · refine iff_of_true ?_ (.inl rfl)
    by_cases canClose : CanClose .file before.files.table (paramWord params 0)
    · exact restored_of_file sound few rfl canClose completes failed
    · exact restored_of_atOnce sound few rfl canClose completes
  · by_cases canClose : CanClose .dir before.files.table (paramWord params 0)
    · refine iff_of_false (not_restored_of_dir sound few rfl canClose completes failed) ?_
      rintro (⟨⟨⟩⟩ | cannotClose)
      exact cannotClose canClose
    · exact iff_of_true (restored_of_atOnce sound few rfl canClose completes) (.inr canClose)

omit [Fintype Worker] in
/-- A command that is handled alone with one call is completed. -/
theorem completes_of_handledAlone {workers : FatWorkers fatfs Worker}
    (handled : HandledAlone type params workers.files [answer] status result files)
    (alive : workers.assertionFailed = false) (idle : workers.working worker = none) :
    ∃ first middle last, Completes workers worker type params first middle last status ∧
      last.files = files := by
  obtain ⟨last, handles, finished, rfl⟩ := handled
  cases handles with
  | @calls _ _ call stage reply _ _ volume share _ waits others acts othersAgain rest =>
    cases rest
    subst others othersAgain
    have spawned := @Step.spawn _ _ _ workers worker type params alive idle
    have aliveNow : (workers.advance worker type params
        (operationFunctions type params workers.files)).assertionFailed = false := by
      simp only [advance, waits, alive]
    have working : (workers.advance worker type params
        (operationFunctions type params workers.files)).working worker =
          some { type, params, call, stage, reply := none } := by
      rw [working_advance_self, waits]
      rfl
    have acted := Step.act aliveNow working rfl acts
    have meanwhile : Run (Guarded (fun _ event => event ≠ .resume worker) Step) _
        [.act worker reply] _ := Run.single ⟨by rintro ⟨⟩, acted⟩
    exact ⟨_, _, _, .afterCall spawned waits meanwhile (update_self _ _ _) rfl
      (.resume aliveNow (update_self _ _ _) rfl) finished, rfl⟩

end FatWorkers

/-! ### Objects of an earlier mount -/

/-- The mounts so far, and the one in which each file and each directory was opened. -/
structure MountedVolume where
  mounts : Nat
  fileOf : Fin maxOpenFiles → Nat
  dirOf : Fin maxOpenFiles → Nat

namespace MountedVolume

def invalidObject : FatFsReply where
  result := .invalidObject
  count := 0
  info := { fsize := 0, ftime := 0, fattrib := 0, fname := [] }

/-- An object is valid as long as it was opened since the last mount. -/
def close (volume : MountedVolume) (opened : Nat) : FatFsReply :=
  if opened = volume.mounts then PlainVolume.succeeded 0 else invalidObject

def perform (call : FatFsCall) (volume : MountedVolume) (share : Nat → UInt8T) :
    FatFsReply × MountedVolume × (Nat → UInt8T) :=
  match call with
  | .fMount => (PlainVolume.succeeded 0, { volume with mounts := volume.mounts + 1 }, share)
  | .fOpen file _ _ =>
    (PlainVolume.succeeded 0,
      { volume with fileOf := update volume.fileOf file volume.mounts }, share)
  | .fOpendir dir _ =>
    (PlainVolume.succeeded 0, { volume with dirOf := update volume.dirOf dir volume.mounts }, share)
  | .fClose file => (volume.close (volume.fileOf file), volume, share)
  | .fClosedir dir => (volume.close (volume.dirOf dir), volume, share)
  | _ => (PlainVolume.succeeded 0, volume, share)

end MountedVolume

/-- A FatFs that refuses objects of an earlier mount. -/
def mountedFatFs : FatFs where
  Volume := MountedVolume
  fSize _ _ := 0
  fTelldir _ _ := 0
  ssize _ := 512
  Acts call volume share reply volume' share' :=
    MountedVolume.perform call volume share = (reply, volume', share')

/-- The server before any command. -/
def mountedWorkers : FatWorkers mountedFatFs Unit where
  files :=
    { fsInitialised := false
      fileUsed := fun _ => false
      dirUsed := fun _ => false
      table := fun _ => { state := .free, handle := 0, busyCount := 0, generation := 0 }
      volume := { mounts := 0, fileOf := fun _ => 0, dirOf := fun _ => 0 }
      share := plainShare }
  working _ := none
  accesses := []
  assertionFailed := false

theorem mountedWorkers_initial : mountedWorkers.Initial :=
  ⟨rfl, rfl, rfl, rfl, rfl, rfl, rfl⟩

/-- To close descriptor 0. -/
def closeParams : CmdParams :=
  paramsOf [0]

/-- Something is opened, the volume is mounted again, and then it is closed. -/
theorem closed_after_remount (opens closes : CmdType) {completed : List CompletedCommand}
    {files : FatFiles mountedFatFs} {last : Segment mountedFatFs}
    (opened : followInTurn MountedVolume.perform 1
      [(.initialise, openParams), (opens, openParams), (.deinitialise, openParams),
      (.initialise, openParams)] mountedWorkers.files = some (completed, files))
    (closing : follow MountedVolume.perform 1 (operationFunctions closes closeParams files) =
      some ([answer], last)) (finished : last.completion = some (status, result)) :
    ∃ events before first middle after, Run FatWorkers.Step mountedWorkers events before ∧
      before.files = files ∧ after.files = last.files ∧
      FatWorkers.Completes before () closes closeParams first middle after status := by
  have acts : ∀ call volume share reply volume' share',
      MountedVolume.perform call volume share = (reply, volume', share') →
        mountedFatFs.Acts call volume share reply volume' share' := fun _ _ _ _ _ _ same => same
  obtain ⟨events, before, run, same, idle, alive⟩ : ∃ events before,
      Run FatWorkers.Step mountedWorkers events before ∧ before.files = files ∧
        before.working () = none ∧ before.assertionFailed = false :=
    FatWorkers.run_of_handledInTurn (handledInTurn_of_follow acts opened) rfl rfl rfl
  have handled := handledAlone_of_follow acts closing finished
  rw [← same] at handled
  obtain ⟨first, middle, after, completes, ends⟩ :=
    FatWorkers.completes_of_handledAlone handled alive idle
  exact ⟨events, before, first, middle, after, run, same, ends, completes⟩

/-- A file of an earlier mount cannot be closed, and is open as before. -/
theorem file_close_restores : ∃ events before first middle last,
    Run FatWorkers.Step mountedWorkers events before ∧
      FatWorkers.Completes before () .fileClose closeParams first middle last fsStatusError ∧
      FatWorkers.Restored (paramWord closeParams 0) before first middle last := by
  obtain ⟨events, before, first, middle, last, run, _, _, completes⟩ :=
    closed_after_remount .fileOpen .fileClose rfl rfl rfl
  refine ⟨events, before, first, middle, last, run, completes, ?_⟩
  exact (FatWorkers.failed_close_restores_iff (by decide) mountedWorkers_initial run (.inl rfl)
    completes (by decide)).mpr (.inl rfl)

/-- A directory of an earlier mount cannot be closed; its descriptor is lost and it stays taken. -/
theorem directory_lost : mountedWorkers.Initial ∧ ∃ events before first middle last,
    Run FatWorkers.Step mountedWorkers events before ∧
      FatWorkers.Completes before () .dirClose closeParams first middle last fsStatusError ∧
      (before.files.table (slotOf 0)).state = .opened .dir ∧
      (last.files.table (slotOf 0)).state = .allocated ∧ last.files.dirUsed (slotOf 0) = true ∧
      ¬ FatWorkers.Restored (paramWord closeParams 0) before first middle last := by
  obtain ⟨events, before, first, middle, last, run, same, ends, completes⟩ :=
    closed_after_remount .dirOpen .dirClose rfl rfl rfl
  have opened : (before.files.table (slotOf 0)).state = .opened .dir := by
    rw [same]
    rfl
  have left : (last.files.table (slotOf 0)).state = .allocated := by
    rw [ends]
    rfl
  have taken : last.files.dirUsed (slotOf 0) = true := by
    rw [ends]
    rfl
  refine ⟨mountedWorkers_initial, events, before, first, middle, last, run, completes, opened, left,
    taken, fun restored => ?_⟩
  have state := congrArg OftableSlot.state restored.slot
  have isZero : slotOf (paramWord closeParams 0) = slotOf 0 := by decide
  rw [isZero, opened, left] at state
  cases state

end LionsOS.Fat

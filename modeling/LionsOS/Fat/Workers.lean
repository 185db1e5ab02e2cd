/-
This file is about the handlers running together. A worker takes its handler from
one call of FatFs to the next without being interrupted; between a call and what
follows it, FatFs acts once, and other workers run before and after it does. The
accesses to the share that a command leads to are kept beside the state, and all
of them stay in the buffers that the command names.
-/

import LionsOS.Fat.Handlers
import LionsOS.Lib.Runs

open Function

namespace LionsOS.Fat

open LionsOS.Fs StepRun List

variable {params : CmdParams} {type : CmdType} {stage : HandlerStage} {call : FatFsCall}
  {buf : FsBuffer} {kind : OfKind} {fd : UInt64T}

/-! ### Workers -/

/-- A command whose handler is in a call of FatFs, with the reply once FatFs has acted. -/
structure Operation where
  type : CmdType
  params : CmdParams
  call : FatFsCall
  stage : HandlerStage
  reply : Option FatFsReply

structure FatWorkers (fatfs : FatFs) (Worker : Type) where
  files : FatFiles fatfs
  working : Worker → Option Operation
  accesses : List ShareAccess
  assertionFailed : Bool

inductive WorkerEvent (fatfs : FatFs) (Worker : Type) where
  /-- A command is spawned on an idle worker. -/
  | spawn (worker : Worker) (type : CmdType) (params : CmdParams)
  /-- FatFs acts for a worker. -/
  | act (worker : Worker) (reply : FatFsReply)
  /-- A worker goes on after FatFs has acted for it. -/
  | resume (worker : Worker)
  /-- The client changes the share. -/
  | writeShare (share : Nat → UInt8T)

variable {fatfs : FatFs} {Worker : Type} [DecidableEq Worker]

variable {event : WorkerEvent fatfs Worker} {rest : FatFiles fatfs → Segment fatfs}
  {segment : Segment fatfs}

namespace FatWorkers

/-- The operation that a segment leaves a worker in. -/
def afterSegment (type : CmdType) (params : CmdParams) : Progress → Option Operation
  | .inCall call stage => some { type, params, call, stage, reply := none }
  | _ => none

theorem afterSegment_eq_some {progress : Progress} {operation : Operation}
    (goesOn : afterSegment type params progress = some operation) :
    ∃ call stage, progress = .inCall call stage ∧
      operation = { type, params, call, stage, reply := none } := by
  unfold afterSegment at goesOn
  split at goesOn
  case h_1 call stage =>
    cases goesOn
    exact ⟨call, stage, rfl, rfl⟩
  case h_2 => cases goesOn

/-- The bytes of the share that a segment accesses, or gives to the call that it ends in. -/
def segmentAccesses (segment : Segment fatfs) : List Bytes.Range :=
  match segment.progress with
  | .inCall call _ => segment.accesses ++ call.shareRanges
  | _ => segment.accesses

/-- A worker goes through a segment of its handler. -/
def advance (workers : FatWorkers fatfs Worker) (worker : Worker) (type : CmdType)
    (params : CmdParams) (segment : Segment fatfs) : FatWorkers fatfs Worker where
  files := segment.files
  working := update workers.working worker (afterSegment type params segment.progress)
  accesses := workers.accesses ++ (segmentAccesses segment).map fun range => { type, params, range }
  assertionFailed := match segment.progress with
    | .failedAssertion => true
    | _ => workers.assertionFailed

/-- The steps of the workers, FatFs and the client, as long as no assertion has failed. -/
inductive Step : FatWorkers fatfs Worker → WorkerEvent fatfs Worker → FatWorkers fatfs Worker → Prop
  | spawn {workers : FatWorkers fatfs Worker} {worker : Worker} {type : CmdType}
      {params : CmdParams} (alive : workers.assertionFailed = false)
      (idle : workers.working worker = none) :
      Step workers (.spawn worker type params)
        (workers.advance worker type params (operationFunctions type params workers.files))
  | act {workers : FatWorkers fatfs Worker} {worker : Worker} {operation : Operation}
      {reply : FatFsReply} {volume : fatfs.Volume} {share : Nat → UInt8T}
      (alive : workers.assertionFailed = false)
      (working : workers.working worker = some operation) (waiting : operation.reply = none)
      (acts : fatfs.Acts operation.call workers.files.volume workers.files.share reply volume
        share) :
      Step workers (.act worker reply)
        { workers with
          files := { workers.files with volume, share }
          working := update workers.working worker
            (some { operation with reply := some reply }) }
  | resume {workers : FatWorkers fatfs Worker} {worker : Worker} {operation : Operation}
      {reply : FatFsReply} (alive : workers.assertionFailed = false)
      (working : workers.working worker = some operation)
      (replied : operation.reply = some reply) :
      Step workers (.resume worker)
        (workers.advance worker operation.type operation.params
          (Fat.resume workers.files reply operation.stage))
  | writeShare {workers : FatWorkers fatfs Worker} {share : Nat → UInt8T}
      (alive : workers.assertionFailed = false) :
      Step workers (.writeShare share) { workers with files := { workers.files with share } }

theorem alive_of_step {workers next : FatWorkers fatfs Worker} (step : Step workers event next) :
    workers.assertionFailed = false := by
  cases step with
  | spawn alive | act alive | resume alive | writeShare alive => exact alive

/-- The state in which the server starts. -/
structure Initial (workers : FatWorkers fatfs Worker) : Prop where
  fsInitialised : workers.files.fsInitialised = false
  fileUsed : workers.files.fileUsed = fun _ => false
  dirUsed : workers.files.dirUsed = fun _ => false
  table : workers.files.table =
    fun _ => { state := .free, handle := 0, busyCount := 0, generation := 0 }
  working : workers.working = fun _ => none
  accesses : workers.accesses = []
  assertionFailed : workers.assertionFailed = false

end FatWorkers

/-! ### Accesses of a segment -/

/-- What a handler may still access after its call of FatFs. -/
def StageAllowed (buffers : List FsBuffer) : HandlerStage → Prop
  | .writeSeeking _ _ data size | .readSeeking _ _ data size | .readingDir _ data size =>
    Allowed fatFsDataRegionSize buffers ⟨data.toNat, size.toNat⟩
  | .statting data => Allowed fatFsDataRegionSize buffers ⟨data.toNat, fsStatSize⟩
  | _ => True

/-- A segment accesses only the buffers, itself and through the call that it ends in, and so does
what follows. -/
structure SegmentAllowed (buffers : List FsBuffer) (segment : Segment fatfs) : Prop where
  accesses : ∀ access ∈ segment.accesses, Allowed fatFsDataRegionSize buffers access
  call : ∀ call stage, segment.progress = .inCall call stage →
    (∀ access ∈ call.shareRanges, Allowed fatFsDataRegionSize buffers access) ∧
      StageAllowed buffers stage

variable {buffers : List FsBuffer} {files : FatFiles fatfs}

theorem segmentAllowed_finish (status : UInt64T) (result : Option UInt64T) :
    SegmentAllowed buffers (finish files status result) where
  accesses := fun _ none => nomatch none
  call := fun _ _ same => nomatch same

theorem segmentAllowed_failAssertion : SegmentAllowed buffers (failAssertion files) where
  accesses := fun _ none => nomatch none
  call := fun _ _ same => nomatch same

theorem segmentAllowed_inCall
    (ranges : ∀ access ∈ call.shareRanges, Allowed fatFsDataRegionSize buffers access)
    (later : StageAllowed buffers stage) : SegmentAllowed buffers (inCall files call stage) where
  accesses := fun _ none => nomatch none
  call := by
    rintro _ _ ⟨⟩
    exact ⟨ranges, later⟩

theorem segmentAllowed_asserting {next : Option (FatFiles fatfs)}
    (allowed : ∀ files, SegmentAllowed buffers (rest files)) :
    SegmentAllowed buffers (asserting files next rest) := by
  unfold asserting
  split
  · exact segmentAllowed_failAssertion
  · exact allowed _

theorem segmentAllowed_endOp (allowed : ∀ files, SegmentAllowed buffers (rest files)) :
    SegmentAllowed buffers (endOp files fd rest) :=
  segmentAllowed_asserting allowed

theorem segmentAllowed_withOp {rest : Fin maxOpenFiles → FatFiles fatfs → Segment fatfs}
    (allowed : ∀ object files, SegmentAllowed buffers (rest object files)) :
    SegmentAllowed buffers (withOp kind files fd rest) := by
  unfold withOp
  split
  · exact segmentAllowed_finish _ _
  · exact allowed _ _

theorem SegmentAllowed.cons (allowed : SegmentAllowed buffers segment) {access : Bytes.Range}
    (one : Allowed fatFsDataRegionSize buffers access) {pathWrites : List PathWrite} :
    SegmentAllowed buffers { segment with accesses := access :: segment.accesses, pathWrites } where
  accesses := forall_mem_cons.mpr ⟨one, allowed.accesses⟩
  call := allowed.call

theorem segmentAllowed_withPath {declared : Nat} (named : buf ∈ buffers) {failed : UInt64T}
    {rest : List UInt8T → Segment fatfs} (allowed : ∀ path, SegmentAllowed buffers (rest path)) :
    SegmentAllowed buffers (withPath files declared buf failed rest) := by
  unfold withPath
  split
  · exact segmentAllowed_finish _ _
  · rename_i path copied
    exact (allowed path).cons (allowed_of_copied named copied)

theorem segmentAllowed_handleClose {call : UInt64T → Fin maxOpenFiles → FatFsCall × HandlerStage}
    (ranges : ∀ fd object, (call fd object).1.shareRanges = [])
    (later : ∀ fd object, StageAllowed buffers (call fd object).2) :
    SegmentAllowed buffers (handleClose kind params files call) := by
  unfold handleClose
  refine segmentAllowed_withOp fun object files => segmentAllowed_endOp fun files => ?_
  split
  · exact segmentAllowed_finish _ _
  · refine segmentAllowed_inCall ?_ (later _ _)
    rw [ranges]
    exact fun _ none => nomatch none

/-! ### Handlers -/

theorem segmentAllowed_plainCall (ranges : call.shareRanges = [])
    (later : StageAllowed buffers stage) : SegmentAllowed buffers (inCall files call stage) := by
  refine segmentAllowed_inCall ?_ later
  rw [ranges]
  exact fun _ none => nomatch none

/-- A handler that checks a buffer and then begins an operation that will use it. -/
theorem segmentAllowed_checked (named : buf ∈ buffers) {failed : Segment fatfs}
    (failedAllowed : SegmentAllowed buffers failed) {rest : UInt64T → Segment fatfs}
    (allowed : ∀ data, Allowed fatFsDataRegionSize buffers ⟨data.toNat, buf.size.toNat⟩ →
      SegmentAllowed buffers (rest data)) :
    SegmentAllowed buffers (match fsGetClientBuffer fatFsDataRegionSize buf with
      | none => failed
      | some data => rest data) := by
  split
  · exact failedAllowed
  · rename_i data checked
    exact allowed data (allowed_of_checked named checked le_rfl)

theorem segmentAllowed_operationFunctions (type : CmdType) (params : CmdParams)
    (files : FatFiles fatfs) :
    SegmentAllowed (type.buffers params) (operationFunctions type params files) := by
  cases type with
  | initialise =>
    simp only [operationFunctions, handleInitialise]
    split
    · exact segmentAllowed_finish _ _
    · exact segmentAllowed_plainCall rfl trivial
  | deinitialise =>
    simp only [operationFunctions, handleDeinitialise]
    split
    · exact segmentAllowed_plainCall rfl trivial
    · exact segmentAllowed_finish _ _
  | fileOpen =>
    refine segmentAllowed_withPath mem_cons_self fun filepath => ?_
    split
    · exact segmentAllowed_finish _ _
    · exact segmentAllowed_plainCall rfl trivial
  | fileClose =>
    simp only [operationFunctions]
    exact segmentAllowed_handleClose (fun _ _ => rfl) fun _ _ => trivial
  | stat =>
    refine segmentAllowed_checked (mem_cons_of_mem _ mem_cons_self)
      (segmentAllowed_finish _ _) fun data allowed => ?_
    split
    · exact segmentAllowed_finish _ _
    · rename_i long
      refine segmentAllowed_withPath mem_cons_self fun filepath => ?_
      exact segmentAllowed_plainCall rfl (Allowed.shorten allowed (Nat.not_lt.mp long))
  | fileRead =>
    refine segmentAllowed_checked mem_cons_self (segmentAllowed_finish _ _)
      fun data allowed => segmentAllowed_withOp fun file files => ?_
    exact segmentAllowed_plainCall rfl allowed
  | fileWrite =>
    refine segmentAllowed_checked mem_cons_self (segmentAllowed_finish _ _)
      fun data allowed => segmentAllowed_withOp fun file files => ?_
    exact segmentAllowed_plainCall rfl allowed
  | fileSize =>
    simp only [operationFunctions, handleFileSize]
    refine segmentAllowed_withOp fun file files => segmentAllowed_endOp fun files => ?_
    exact segmentAllowed_finish _ _
  | rename =>
    refine segmentAllowed_withPath mem_cons_self fun oldpath => ?_
    refine segmentAllowed_withPath (mem_cons_of_mem _ mem_cons_self) fun newpath => ?_
    exact segmentAllowed_plainCall rfl trivial
  | fileRemove | dirCreate | dirRemove =>
    refine segmentAllowed_withPath mem_cons_self fun path => ?_
    exact segmentAllowed_plainCall rfl trivial
  | dirOpen =>
    refine segmentAllowed_withPath mem_cons_self fun dirpath => ?_
    split
    · exact segmentAllowed_finish _ _
    · exact segmentAllowed_plainCall rfl trivial
  | dirClose =>
    simp only [operationFunctions]
    exact segmentAllowed_handleClose (fun _ _ => rfl) fun _ _ => trivial
  | fileTruncate | fileSync | dirSeek | dirRewind =>
    simp only [operationFunctions, handleFileTruncate, handleFileSync, handleDirSeek,
      handleDirRewind]
    refine segmentAllowed_withOp fun object files => ?_
    exact segmentAllowed_plainCall rfl trivial
  | dirRead =>
    refine segmentAllowed_checked mem_cons_self (segmentAllowed_finish _ _)
      fun name allowed => segmentAllowed_withOp fun dir files => ?_
    exact segmentAllowed_plainCall rfl allowed
  | dirTell =>
    simp only [operationFunctions, handleDirTell]
    refine segmentAllowed_withOp fun dir files => segmentAllowed_endOp fun files => ?_
    exact segmentAllowed_finish _ _

/-- Passing a size as a `UINT` can only make it smaller. -/
theorem toNat_setWidth_le (size : UInt64T) : (size.setWidth 32).toNat ≤ size.toNat := by
  exact Nat.mod_le _ _

theorem segmentAllowed_setNewFd {set : OfTable → UInt64T → Option OfTable} :
    SegmentAllowed buffers (setNewFd files set) := by
  unfold setNewFd
  split
  · exact segmentAllowed_failAssertion
  · exact segmentAllowed_finish _ _

theorem segmentAllowed_resume {reply : FatFsReply} (later : StageAllowed buffers stage) :
    SegmentAllowed buffers (resume files reply stage) := by
  cases stage with
  | mounting | unmounting | renamingPath | removing | creatingDir | removingDir =>
    exact segmentAllowed_finish _ _
  | opening file =>
    simp only [resume]
    split
    · exact segmentAllowed_setNewFd
    · exact segmentAllowed_asserting fun files => segmentAllowed_finish _ _
  | writeSeeking fd file data btw | readSeeking fd file data btr =>
    simp only [resume]
    split
    · refine segmentAllowed_inCall (forall_mem_singleton.mpr ?_) trivial
      exact Allowed.shorten later (toNat_setWidth_le _)
    · exact segmentAllowed_endOp fun files => segmentAllowed_finish _ _
  | writing fd | reading fd | truncating fd | rewinding fd | syncing fd =>
    exact segmentAllowed_endOp fun files => segmentAllowed_finish _ _
  | closing fd file =>
    simp only [resume]
    split
    · exact segmentAllowed_asserting fun files => segmentAllowed_finish _ _
    · exact segmentAllowed_finish _ _
  | statting fileStat =>
    simp only [resume]
    split
    · exact (segmentAllowed_finish _ _).cons later
    · exact segmentAllowed_finish _ _
  | truncateSeeking fd file =>
    simp only [resume]
    split
    · exact segmentAllowed_plainCall rfl trivial
    · exact segmentAllowed_endOp fun files => segmentAllowed_finish _ _
  | openingDir dir =>
    simp only [resume]
    split
    · exact segmentAllowed_setNewFd
    · exact segmentAllowed_asserting fun files => segmentAllowed_finish _ _
  | readingDir fd name size =>
    simp only [resume]
    split
    · rename_i fits
      refine (segmentAllowed_endOp fun files => segmentAllowed_finish _ _).cons ?_
      exact Allowed.shorten later fits.2
    · exact segmentAllowed_endOp fun files => segmentAllowed_finish _ _
  | closingDir fd dir =>
    simp only [resume]
    split
    · exact segmentAllowed_asserting fun files => segmentAllowed_finish _ _
    · exact segmentAllowed_finish _ _
  | seekingDir fd dir loc passed =>
    simp only [resume]
    split
    · exact segmentAllowed_plainCall rfl trivial
    · exact segmentAllowed_endOp fun files => segmentAllowed_finish _ _

/-! ### Every run -/

namespace FatWorkers

variable {workers next : FatWorkers fatfs Worker}

/-- All accesses so far are allowed, and so are those that the operations in progress lead to. -/
structure AccessesAllowed (workers : FatWorkers fatfs Worker) : Prop where
  accesses : ∀ access ∈ workers.accesses,
    Allowed fatFsDataRegionSize (access.type.buffers access.params) access.range
  working : ∀ worker operation, workers.working worker = some operation →
    StageAllowed (operation.type.buffers operation.params) operation.stage

omit [DecidableEq Worker] in
theorem accessesAllowed_of_initial (initial : workers.Initial) : workers.AccessesAllowed where
  accesses := by
    rw [initial.accesses]
    exact fun _ none => nomatch none
  working := by
    intro worker operation working
    rw [initial.working] at working
    cases working

theorem working_advance_self {worker : Worker} :
    (workers.advance worker type params segment).working worker =
      afterSegment type params segment.progress :=
  update_self _ _ _

theorem working_advance_of_ne {worker other : Worker} (different : other ≠ worker) :
    (workers.advance worker type params segment).working other = workers.working other :=
  update_of_ne different _ _

theorem AccessesAllowed.advance (allowed : workers.AccessesAllowed) (worker : Worker)
    (segmentAllowed : SegmentAllowed (type.buffers params) segment) :
    (workers.advance worker type params segment).AccessesAllowed where
  accesses := by
    intro access member
    rcases mem_append.mp member with before | new
    · exact allowed.accesses access before
    · obtain ⟨range, touched, rfl⟩ := mem_map.mp new
      unfold segmentAccesses at touched
      split at touched
      case h_1 call stage progress =>
        rcases mem_append.mp touched with own | passed
        · exact segmentAllowed.accesses range own
        · exact (segmentAllowed.call call stage progress).1 range passed
      case h_2 => exact segmentAllowed.accesses range touched
  working := by
    intro other operation working
    rcases eq_or_ne other worker with rfl | different
    · rw [working_advance_self] at working
      obtain ⟨call, stage, ended, rfl⟩ := afterSegment_eq_some working
      exact (segmentAllowed.call call stage ended).2
    · rw [working_advance_of_ne different] at working
      exact allowed.working other operation working

theorem AccessesAllowed.step (allowed : workers.AccessesAllowed) (step : Step workers event next) :
    next.AccessesAllowed := by
  cases step with
  | spawn alive idle => exact allowed.advance _ (segmentAllowed_operationFunctions _ _ _)
  | act alive working waiting acts =>
    rename_i worker operation reply volume share
    refine ⟨allowed.accesses, fun other after found => ?_⟩
    have found : update workers.working worker
      (some { operation with reply := some reply }) other = some after := found
    rcases eq_or_ne other worker with rfl | different
    · rw [update_self] at found
      cases found
      exact allowed.working other operation working
    · rw [update_of_ne different] at found
      exact allowed.working other after found
  | resume alive working replied =>
    exact allowed.advance _ (segmentAllowed_resume (allowed.working _ _ working))
  | writeShare alive => exact ⟨allowed.accesses, allowed.working⟩

theorem AccessesAllowed.run {events : List (WorkerEvent fatfs Worker)} (initial : workers.Initial)
    (run : Run Step workers events next) : next.AccessesAllowed :=
  run.invariant AccessesAllowed (accessesAllowed_of_initial initial)
    fun _ _ _ allowed taken => allowed.step taken

end FatWorkers

end LionsOS.Fat

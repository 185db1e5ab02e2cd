/-
This file is about the commands that read, write or truncate a file. Each of them
moves the open file to its own offset by one call of FatFs and acts at the
position by another, with other workers in between; and the open file is shared
by all commands on its descriptor. So a command acts at its offset as long as no
other one moves the file between its two calls.
-/

import LionsOS.Fat.Effects
import LionsOS.Fat.FatFsModel

open Function

namespace LionsOS.Fat

open LionsOS.Fs StepRun PlainVolume

variable {fatfs : FatFs} {Worker : Type} [DecidableEq Worker] {stage : HandlerStage}
  {params : CmdParams} {reply : FatFsReply} {status : UInt64T} {worker : Worker} {type : CmdType}
  {kind : OfKind} {fd : UInt64T}

variable {call : FatFsCall}

/-! ### Commands that access a file -/

/-- The commands that access a file at an offset or cut it to a length. -/
def accessesFile : CmdType → Bool
  | .fileRead | .fileWrite | .fileTruncate => true
  | _ => false

/-- The open file at whose position a call acts. -/
def FatFsCall.accessed : FatFsCall → Option (Fin maxOpenFiles)
  | .fRead file _ _ | .fWrite file _ _ | .fTruncate file => some file
  | _ => none

/-- The open file that a handler has moved in order to access it. -/
def HandlerStage.aiming : HandlerStage → Option (Fin maxOpenFiles)
  | .writeSeeking _ file _ _ | .readSeeking _ file _ _ | .truncateSeeking _ file => some file
  | _ => none

/-- A successful call acts on the file as the command asks for. -/
def ActsAsAsked (positional : Positional fatfs) (operation : Operation) (reply : FatFsReply)
    (before after : FatFiles fatfs) : Prop :=
  let offset := paramWord operation.params 1
  let buffer := paramBuffer operation.params 2
  let fileOf := positional.fileOf before.volume
  match operation.call with
  | .fWrite file _ _ =>
    operation.type = .fileWrite ∧ reply.count ≤ buffer.size.setWidth 32 ∧
      PutAt (positional.contents before.volume) (fileOf file) offset before.share buffer.offset
        reply.count (positional.contents after.volume)
  | .fRead file _ _ =>
    operation.type = .fileRead ∧ reply.count ≤ buffer.size.setWidth 32 ∧
      GotFrom (positional.contents before.volume (fileOf file)) offset before.share buffer.offset
        reply.count after.share
  | .fTruncate file =>
    operation.type = .fileTruncate ∧
      CutTo (positional.size before.volume) (fileOf file) offset (positional.size after.volume)
  | _ => True

/-! ### Calls and stages of a command -/

/-- The call and the stage of a handler are those of its command: to access a file it first goes to
the offset of the command, and then accesses it with the buffer of the command. -/
def Suits (type : CmdType) (params : CmdParams) (call : FatFsCall) : HandlerStage → Prop
  | .writeSeeking _ file data btw =>
    type = .fileWrite ∧ call = .fLseek file (paramWord params 1) ∧
      data = (paramBuffer params 2).offset ∧ btw = (paramBuffer params 2).size
  | .readSeeking _ file data btr =>
    type = .fileRead ∧ call = .fLseek file (paramWord params 1) ∧
      data = (paramBuffer params 2).offset ∧ btr = (paramBuffer params 2).size
  | .truncateSeeking _ file =>
    type = .fileTruncate ∧ call = .fLseek file (paramWord params 1)
  | .writing _ => type = .fileWrite ∧ ∃ file,
    call = .fWrite file (paramBuffer params 2).offset ((paramBuffer params 2).size.setWidth 32)
  | .reading _ => type = .fileRead ∧ ∃ file,
    call = .fRead file (paramBuffer params 2).offset ((paramBuffer params 2).size.setWidth 32)
  | .truncating _ => type = .fileTruncate ∧ ∃ file, call = .fTruncate file
  | _ => accessesFile type = false ∧ call.accessed = none

/-- What a segment of a command may end in: calls that access aimed files alone, and no success of
an access without `done`. -/
def SuitsProgress (type : CmdType) (params : CmdParams) (aimed : Fin maxOpenFiles → Prop)
    (done : Prop) : Progress → Prop
  | .inCall call stage =>
    Suits type params call stage ∧ ∀ file, call.accessed = some file → aimed file
  | .finished status _ => accessesFile type = true → status = fsStatusSuccess → done
  | .failedAssertion => True

def SegmentSuits (type : CmdType) (params : CmdParams) (aimed : Fin maxOpenFiles → Prop)
    (done : Prop) (segment : Segment fatfs) : Prop :=
  SuitsProgress type params aimed done segment.progress

section Parts

variable {aimed : Fin maxOpenFiles → Prop} {done : Prop} {files : FatFiles fatfs}

variable {rest : FatFiles fatfs → Segment fatfs}

theorem segmentSuits_finish {result : Option UInt64T}
    (suits : accessesFile type = true → status = fsStatusSuccess → done) :
    SegmentSuits type params aimed done (finish files status result) :=
  suits

theorem suitsProgress_finished_other (other : accessesFile type = false) (status : UInt64T)
    (result : Option UInt64T) : SuitsProgress type params aimed done (.finished status result) :=
  fun accesses => absurd accesses (by rw [other]; exact Bool.false_ne_true)

theorem segmentSuits_finish_other (other : accessesFile type = false) (status : UInt64T)
    (result : Option UInt64T) : SegmentSuits type params aimed done (finish files status result) :=
  suitsProgress_finished_other other status result

theorem segmentSuits_finish_failed (failed : status ≠ fsStatusSuccess) (result : Option UInt64T) :
    SegmentSuits type params aimed done (finish files status result) :=
  segmentSuits_finish fun _ succeeded => absurd succeeded failed

theorem segmentSuits_inCall (suits : Suits type params call stage)
    (accessed : ∀ file, call.accessed = some file → aimed file) :
    SegmentSuits type params aimed done (inCall files call stage) :=
  ⟨suits, accessed⟩

theorem segmentSuits_asserting {next : Option (FatFiles fatfs)}
    (suits : ∀ files, SegmentSuits type params aimed done (rest files)) :
    SegmentSuits type params aimed done (asserting files next rest) := by
  unfold asserting
  split
  · exact trivial
  · exact suits _

theorem segmentSuits_endOp (suits : ∀ files, SegmentSuits type params aimed done (rest files)) :
    SegmentSuits type params aimed done (endOp files fd rest) :=
  segmentSuits_asserting suits

theorem segmentSuits_withOp {rest : Fin maxOpenFiles → FatFiles fatfs → Segment fatfs}
    (suits : ∀ object files, SegmentSuits type params aimed done (rest object files)) :
    SegmentSuits type params aimed done (withOp kind files fd rest) := by
  unfold withOp
  split
  · exact segmentSuits_finish_failed (by decide) _
  · exact suits _ _

theorem segmentSuits_withPath {declared : Nat} {buf : FsBuffer} {failed : UInt64T}
    (failure : failed ≠ fsStatusSuccess) {rest : List UInt8T → Segment fatfs}
    (suits : ∀ path, SegmentSuits type params aimed done (rest path)) :
    SegmentSuits type params aimed done (withPath files declared buf failed rest) := by
  unfold withPath
  split
  · exact segmentSuits_finish_failed failure _
  · exact suits _

theorem segmentSuits_otherCall (suits : Suits type params call stage) (none : call.accessed = none) :
    SegmentSuits type params aimed done (inCall files call stage) :=
  segmentSuits_inCall suits fun _ some => by
    rw [none] at some
    cases some

theorem segmentSuits_handleClose {call : UInt64T → Fin maxOpenFiles → FatFsCall × HandlerStage}
    (suits : ∀ fd object, Suits type params (call fd object).1 (call fd object).2)
    (none : ∀ fd object, (call fd object).1.accessed = none) :
    SegmentSuits type params aimed done (handleClose kind params files call) := by
  refine segmentSuits_withOp fun object files => segmentSuits_endOp fun files => ?_
  split
  · exact segmentSuits_finish_failed (by decide) _
  · exact segmentSuits_otherCall (suits _ _) (none _ _)

end Parts

theorem segmentSuits_operationFunctions (type : CmdType) (params : CmdParams)
    (files : FatFiles fatfs) :
    SegmentSuits type params (fun _ => False) False (operationFunctions type params files) := by
  cases type with
  | initialise =>
    simp only [operationFunctions, handleInitialise]
    split
    · exact segmentSuits_finish_other rfl _ _
    · exact segmentSuits_otherCall ⟨rfl, rfl⟩ rfl
  | deinitialise =>
    simp only [operationFunctions, handleDeinitialise]
    split
    · exact segmentSuits_otherCall ⟨rfl, rfl⟩ rfl
    · exact segmentSuits_finish_other rfl _ _
  | fileOpen =>
    refine segmentSuits_withPath (by decide) fun filepath => ?_
    split
    · exact segmentSuits_finish_other rfl _ _
    · exact segmentSuits_otherCall ⟨rfl, rfl⟩ rfl
  | fileClose =>
    exact segmentSuits_handleClose (fun _ _ => ⟨rfl, rfl⟩) fun _ _ => rfl
  | stat =>
    simp only [operationFunctions, handleStat]
    split
    · exact segmentSuits_finish_other rfl _ _
    · split
      · exact segmentSuits_finish_other rfl _ _
      · refine segmentSuits_withPath (by decide) fun filepath => ?_
        exact segmentSuits_otherCall ⟨rfl, rfl⟩ rfl
  | fileRead | fileWrite =>
    simp only [operationFunctions, handleFileRead, handleFileWrite]
    split
    · exact segmentSuits_finish_failed (by decide) _
    · rename_i data checked
      refine segmentSuits_withOp fun file files => ?_
      exact segmentSuits_otherCall ⟨rfl, rfl, (fsGetClientBuffer_eq_some.mp checked).1, rfl⟩ rfl
  | fileSize | dirTell =>
    refine segmentSuits_withOp fun object files => segmentSuits_endOp fun files => ?_
    exact segmentSuits_finish_other rfl _ _
  | rename =>
    refine segmentSuits_withPath (by decide) fun oldpath => ?_
    refine segmentSuits_withPath (by decide) fun newpath => ?_
    exact segmentSuits_otherCall ⟨rfl, rfl⟩ rfl
  | fileRemove | dirCreate | dirRemove =>
    refine segmentSuits_withPath (by decide) fun path => ?_
    exact segmentSuits_otherCall ⟨rfl, rfl⟩ rfl
  | fileTruncate =>
    refine segmentSuits_withOp fun file files => ?_
    exact segmentSuits_otherCall ⟨rfl, rfl⟩ rfl
  | dirOpen =>
    refine segmentSuits_withPath (by decide) fun dirpath => ?_
    split
    · exact segmentSuits_finish_other rfl _ _
    · exact segmentSuits_otherCall ⟨rfl, rfl⟩ rfl
  | dirClose =>
    exact segmentSuits_handleClose (fun _ _ => ⟨rfl, rfl⟩) fun _ _ => rfl
  | dirRead =>
    simp only [operationFunctions, handleDirRead]
    split
    · exact segmentSuits_finish_other rfl _ _
    · refine segmentSuits_withOp fun dir files => ?_
      exact segmentSuits_otherCall ⟨rfl, rfl⟩ rfl
  | fileSync | dirSeek | dirRewind =>
    refine segmentSuits_withOp fun object files => ?_
    exact segmentSuits_otherCall ⟨rfl, rfl⟩ rfl

/-- What follows a call accesses the file that the handler has moved, and the command succeeds only
with its access. -/
theorem segmentSuits_resume (suits : Suits type params call stage) (files : FatFiles fatfs)
    (reply : FatFsReply) :
    SegmentSuits type params (fun file => reply.result = .ok ∧ stage.aiming = some file)
      (reply.result = .ok ∧ call.accessed.isSome) (resume files reply stage) := by
  cases stage with
  | writeSeeking fd file data amount | readSeeking fd file data amount =>
    obtain ⟨rfl, rfl, rfl, rfl⟩ := suits
    simp only [resume]
    split
    · rename_i succeeded
      exact segmentSuits_inCall ⟨rfl, file, rfl⟩ fun _ accessed => ⟨succeeded, accessed⟩
    · refine segmentSuits_endOp fun files => segmentSuits_finish_failed (by decide) _
  | truncateSeeking fd file =>
    obtain ⟨rfl, rfl⟩ := suits
    simp only [resume]
    split
    · rename_i succeeded
      exact segmentSuits_inCall ⟨rfl, file, rfl⟩ fun _ accessed => ⟨succeeded, accessed⟩
    · refine segmentSuits_endOp fun files => segmentSuits_finish_failed (by decide) _
  | writing fd | reading fd | truncating fd =>
    obtain ⟨rfl, file, rfl⟩ := suits
    refine segmentSuits_endOp fun files => segmentSuits_finish fun _ succeeded => ?_
    exact ⟨statusOf_eq_success_iff.mp succeeded, rfl⟩
  | mounting | unmounting | renamingPath | removing | creatingDir | removingDir =>
    exact segmentSuits_finish_other suits.1 _ _
  | rewinding fd | syncing fd =>
    exact segmentSuits_endOp fun files => segmentSuits_finish_other suits.1 _ _
  | opening object | openingDir object =>
    simp only [resume]
    split
    · unfold setNewFd
      split
      · exact trivial
      · exact segmentSuits_finish_other suits.1 _ _
    · exact segmentSuits_asserting fun files => segmentSuits_finish_other suits.1 _ _
  | closing fd object | closingDir fd object =>
    simp only [resume]
    split
    · exact segmentSuits_asserting fun files => segmentSuits_finish_other suits.1 _ _
    · exact segmentSuits_finish_other suits.1 _ _
  | statting fileStat =>
    simp only [resume]
    split
    · exact suitsProgress_finished_other suits.1 _ _
    · exact segmentSuits_finish_other suits.1 _ _
  | readingDir fd name size =>
    simp only [resume]
    split
    · exact segmentSuits_endOp fun files => segmentSuits_finish_other suits.1 _ _
    · exact segmentSuits_endOp fun files => segmentSuits_finish_other suits.1 _ _
  | seekingDir fd dir loc passed =>
    simp only [resume]
    split
    · exact segmentSuits_otherCall ⟨suits.1, rfl⟩ rfl
    · exact segmentSuits_endOp fun files => segmentSuits_finish_other suits.1 _ _

/-! ### Which command a call is of -/

section Calls

variable {file : Fin maxOpenFiles}

/-- A call that accesses a file is of a command that asks for it, with the buffer of the command. -/
theorem accessing_of_accessed (suits : Suits type params call stage)
    (accessed : call.accessed = some file) :
    (type = .fileWrite ∧ call = .fWrite file (paramBuffer params 2).offset
        ((paramBuffer params 2).size.setWidth 32)) ∨
      (type = .fileRead ∧ call = .fRead file (paramBuffer params 2).offset
        ((paramBuffer params 2).size.setWidth 32)) ∨
      (type = .fileTruncate ∧ call = .fTruncate file) := by
  cases stage with
  | writing fd =>
    obtain ⟨written, _, rfl⟩ := suits
    cases accessed
    exact .inl ⟨written, rfl⟩
  | reading fd =>
    obtain ⟨read, _, rfl⟩ := suits
    cases accessed
    exact .inr (.inl ⟨read, rfl⟩)
  | truncating fd =>
    obtain ⟨truncated, _, rfl⟩ := suits
    cases accessed
    exact .inr (.inr ⟨truncated, rfl⟩)
  | writeSeeking | readSeeking =>
    rw [suits.2.1] at accessed
    cases accessed
  | _ =>
    rw [suits.2] at accessed
    cases accessed

theorem seeks_of_aiming (suits : Suits type params call stage) (aiming : stage.aiming = some file) :
    call = .fLseek file (paramWord params 1) := by
  cases stage with
  | writeSeeking | readSeeking =>
    cases aiming
    exact suits.2.1
  | truncateSeeking =>
    cases aiming
    exact suits.2
  | _ => cases aiming

end Calls

/-! ### The position of an access in progress -/

/-- A handler has moved a file to its offset and not accessed it yet. -/
def Operation.Positioned (operation : Operation) (file : Fin maxOpenFiles) : Prop :=
  match operation.reply with
  | none => operation.call.accessed = some file
  | some reply => reply.result = .ok ∧ operation.stage.aiming = some file

namespace FatWorkers

variable {operation : Operation}

/-- No worker's call moves a file that another worker has moved and not accessed yet, other than to
the offset where that one has moved it. -/
def Undisturbed (workers : FatWorkers fatfs Worker) : WorkerEvent fatfs Worker → Prop
  | .act worker reply => ∀ operation, workers.working worker = some operation →
    ∀ file, operation.call.Moves file → ∀ other positioned, other ≠ worker →
      workers.working other = some positioned → positioned.Positioned file →
        operation.call = .fLseek file (paramWord positioned.params 1) ∧ reply.result = .ok
  | _ => True

/-- What a command comes to is what it asks for: its call acts as asked, and it only succeeds after
a call that did. -/
def AsAsked (positional : Positional fatfs) (workers : FatWorkers fatfs Worker)
    (event : WorkerEvent fatfs Worker) (next : FatWorkers fatfs Worker) : Prop :=
  match event with
  | .act worker reply => ∀ operation, workers.working worker = some operation →
    reply.result = .ok → ActsAsAsked positional operation reply workers.files next.files
  | .spawn _ type params => ∀ result, accessesFile type = true →
    (operationFunctions type params workers.files).progress ≠ .finished fsStatusSuccess result
  | .resume worker => ∀ operation reply, workers.working worker = some operation →
    operation.reply = some reply → accessesFile operation.type = true → ∀ result,
      (Fat.resume workers.files reply operation.stage).progress = .finished fsStatusSuccess result →
        reply.result = .ok ∧ operation.call.accessed.isSome
  | .writeShare _ => True

/-- The operations in progress are those of their commands, and every file that one of them has
moved and not accessed yet is at its offset. -/
structure Aimed (positional : Positional fatfs) (workers : FatWorkers fatfs Worker) : Prop where
  suits : ∀ worker operation, workers.working worker = some operation →
    Suits operation.type operation.params operation.call operation.stage
  position : ∀ worker operation, workers.working worker = some operation → ∀ file,
    operation.Positioned file →
      positional.position workers.files.volume file = paramWord operation.params 1

variable {positional : Positional fatfs} {workers next : FatWorkers fatfs Worker}

omit [DecidableEq Worker] in
theorem aimed_of_initial (initial : workers.Initial) : workers.Aimed positional where
  suits := by
    intro worker operation working
    rw [initial.working] at working
    cases working
  position := by
    intro worker operation working
    rw [initial.working] at working
    cases working

/-- A handler that goes on does not move the open files; it accesses the one it has moved. -/
theorem Aimed.advance (aimed : workers.Aimed positional) (worker : Worker)
    {may : Fin maxOpenFiles → Prop} {done : Prop} {segment : Segment fatfs}
    (segmentSuits : SegmentSuits type params may done segment)
    (volume : segment.files.volume = workers.files.volume)
    (position : ∀ file, may file →
      positional.position workers.files.volume file = paramWord params 1) :
    (workers.advance worker type params segment).Aimed positional where
  suits := by
    intro other operation working
    rcases eq_or_ne other worker with rfl | different
    · rw [working_advance_self] at working
      obtain ⟨call, stage, ended, rfl⟩ := afterSegment_eq_some working
      rw [SegmentSuits, ended] at segmentSuits
      exact segmentSuits.1
    · rw [working_advance_of_ne different] at working
      exact aimed.suits other operation working
  position := by
    intro other operation working file positioned
    show positional.position segment.files.volume file = _
    rw [volume]
    rcases eq_or_ne other worker with rfl | different
    · rw [working_advance_self] at working
      obtain ⟨call, stage, ended, rfl⟩ := afterSegment_eq_some working
      rw [SegmentSuits, ended] at segmentSuits
      exact position file (segmentSuits.2 file positioned)
    · rw [working_advance_of_ne different] at working
      exact aimed.position other operation working file positioned

/-- Another worker's call does not move what a worker has moved and not accessed yet, and its own
call moves the file to its offset. -/
theorem Aimed.act (aimed : workers.Aimed positional) {volume : fatfs.Volume} {share : Nat → UInt8T}
    (working : workers.working worker = some operation)
    (acts : fatfs.Acts operation.call workers.files.volume workers.files.share reply volume share)
    (undisturbed : workers.Undisturbed (.act worker reply)) :
    Aimed positional
      { workers with
        files := { workers.files with volume, share }
        working := update workers.working worker
          (some { operation with reply := some reply }) } where
  suits := by
    intro other after found
    dsimp only at found
    rcases eq_or_ne other worker with rfl | different
    · rw [update_self] at found
      cases found
      exact aimed.suits other operation working
    · rw [update_of_ne different] at found
      exact aimed.suits other after found
  position := by
    intro other after found file positioned
    dsimp only at found ⊢
    rcases eq_or_ne other worker with rfl | different
    · rw [update_self] at found
      cases found
      obtain ⟨succeeded, aiming⟩ := positioned
      rw [seeks_of_aiming (aimed.suits other operation working) aiming] at acts
      exact positional.seeks acts succeeded
    · rw [update_of_ne different] at found
      by_cases moves : operation.call.Moves file
      · obtain ⟨seeks, succeeded⟩ :=
          undisturbed operation working file moves other after different found positioned
        rw [seeks] at acts
        exact positional.seeks acts succeeded
      · rw [positional.others acts moves]
        exact aimed.position other after found file positioned

theorem Aimed.step {event : WorkerEvent fatfs Worker} (aimed : workers.Aimed positional)
    (step : Guarded Undisturbed Step workers event next) : next.Aimed positional := by
  obtain ⟨undisturbed, step⟩ := step
  cases step with
  | spawn alive idle =>
    exact aimed.advance _ (segmentSuits_operationFunctions _ _ _)
      (hasFirstEffect_operationFunctions _ _ _).volume_eq fun _ nothing => nothing.elim
  | act alive working waiting acts => exact aimed.act working acts undisturbed
  | resume alive working replied =>
    rename_i worker operation reply
    refine aimed.advance _ (segmentSuits_resume (aimed.suits _ _ working) _ _)
      (hasResumeEffect_resume _ _ _).volume_eq fun file moved => ?_
    refine aimed.position worker operation working file ?_
    rw [Operation.Positioned, replied]
    exact moved
  | writeShare alive => exact ⟨aimed.suits, aimed.position⟩

omit [DecidableEq Worker] in
/-- A call that acts for a command does what the command asks for. -/
theorem actsAsAsked_of_aimed {after : FatFiles fatfs} (aimed : workers.Aimed positional)
    (working : workers.working worker = some operation) (waiting : operation.reply = none)
    (acts : fatfs.Acts operation.call workers.files.volume workers.files.share reply after.volume
      after.share) (succeeded : reply.result = .ok) :
    ActsAsAsked positional operation reply workers.files after := by
  have suits := aimed.suits worker operation working
  have position := aimed.position worker operation working
  unfold Operation.Positioned at position
  rw [waiting] at position
  obtain ⟨type, params, call, stage, _⟩ := operation
  dsimp only at suits
  cases call with
  | fWrite file buff btw =>
    obtain ⟨rfl, ⟨⟩⟩ | ⟨_, ⟨⟩⟩ | ⟨_, ⟨⟩⟩ := accessing_of_accessed suits rfl
    obtain ⟨count, put⟩ := positional.writes acts succeeded
    rw [position file rfl] at put
    exact ⟨rfl, count, put⟩
  | fRead file buff btr =>
    obtain ⟨_, ⟨⟩⟩ | ⟨rfl, ⟨⟩⟩ | ⟨_, ⟨⟩⟩ := accessing_of_accessed suits rfl
    obtain ⟨count, got⟩ := positional.reads acts succeeded
    rw [position file rfl] at got
    exact ⟨rfl, count, got⟩
  | fTruncate file =>
    obtain ⟨_, ⟨⟩⟩ | ⟨_, ⟨⟩⟩ | ⟨rfl, ⟨⟩⟩ := accessing_of_accessed suits rfl
    have cut := positional.truncates acts succeeded
    rw [position file rfl] at cut
    exact ⟨rfl, cut⟩
  | _ => exact trivial

/-- In every run in which no worker moves a file away from where another one has moved it and not
accessed it yet, the commands that succeed act at the offsets and lengths that they ask for, with
their own buffers. -/
theorem accesses_as_asked {start : FatWorkers fatfs Worker}
    {events : List (WorkerEvent fatfs Worker)} {event : WorkerEvent fatfs Worker}
    (positional : Positional fatfs) (initial : start.Initial)
    (run : Run (Guarded Undisturbed Step) start events workers)
    (step : Guarded Undisturbed Step workers event next) :
    AsAsked positional workers event next := by
  have aimed : workers.Aimed positional :=
    run.invariant (Aimed positional) (aimed_of_initial initial)
      fun _ _ _ aimed taken => aimed.step taken
  cases step.2 with
  | spawn alive idle =>
    rename_i worker type params
    intro result accesses finished
    have suits := segmentSuits_operationFunctions type params workers.files
    rw [SegmentSuits, finished] at suits
    exact suits accesses rfl
  | act alive working waiting acts =>
    intro operation found succeeded
    rw [working] at found
    cases found
    exact actsAsAsked_of_aimed aimed working waiting acts succeeded
  | resume alive working replied =>
    intro operation reply found replies accesses result finished
    have suits := segmentSuits_resume (aimed.suits _ _ found) workers.files reply
    rw [SegmentSuits, finished] at suits
    exact suits accesses rfl
  | writeShare alive => exact trivial

end FatWorkers

/-! ### One and two writes to a file -/

/-- A write of four bytes of the share to the first open file. -/
def writeParams (offset : UInt64T) : CmdParams :=
  paramsOf [0, offset, 8, 4]

/-- A file is opened, and a write moves it to its offset. -/
def opensAndSeeks {Worker : Type} (worker : Worker) (offset : UInt64T) :
    List (WorkerEvent plainFatFs Worker) :=
  [.spawn worker .initialise openParams, .act worker (succeeded 0), .resume worker,
    .spawn worker .fileOpen openParams, .act worker (succeeded 0), .resume worker,
    .spawn worker .fileWrite (writeParams offset), .act worker (succeeded 0),
    .resume worker]

/-- A worker that is alone writes at its offset. -/
theorem accesses_as_asked_of_alone :
    ∃ workers, Run (Guarded FatWorkers.Undisturbed FatWorkers.Step) (plainWorkers Unit)
        (opensAndSeeks () 512) workers ∧
      (∃ operation, workers.working () = some operation ∧
        operation.call.accessed = some ⟨0, by decide⟩) ∧
      ∃ next, FatWorkers.Step workers (.act () (succeeded 4)) next ∧
        FatWorkers.AsAsked plainPositional workers (.act () (succeeded 4)) next := by
  have alone : ∀ (workers : FatWorkers plainFatFs Unit) event, workers.Undisturbed event := by
    rintro workers (_ | ⟨worker, reply⟩ | _ | _)
    · exact trivial
    · exact fun _ _ _ _ _ _ different => absurd rfl different
    · exact trivial
    · exact trivial
  have run : ∃ workers, Run FatWorkers.Step (plainWorkers Unit) (opensAndSeeks () 512) workers ∧
      (∃ operation, workers.working () = some operation ∧
        operation.call.accessed = some ⟨0, by decide⟩) ∧
      ∃ next, FatWorkers.Step workers (.act () (succeeded 4)) next := by
    refine ⟨_, FatWorkers.run_of_perform rfl, ?_⟩
    exact ⟨⟨_, rfl, rfl⟩, _, FatWorkers.step_of_perform rfl⟩
  obtain ⟨workers, run, accessing, next, step⟩ := run
  have run := run.guarded_of_labels fun event _ workers => alone workers event
  exact ⟨workers, run, accessing, next, step,
    FatWorkers.accesses_as_asked plainPositional (plainWorkers_initial Unit) run
      ⟨alone workers _, step⟩⟩

/-- A second write moves the file before the first one is written, which then lands at the offset of
the second. -/
theorem first_write_lands_at_second :
    (plainWorkers (Fin 2)).Initial ∧ ∃ workers, Run FatWorkers.Step (plainWorkers (Fin 2))
          (opensAndSeeks 0 0 ++
            [.spawn 1 .fileWrite (writeParams 512), .act 1 (succeeded 0)]) workers ∧
        ∃ next, FatWorkers.Step workers (.act 0 (succeeded 4)) next ∧
          ¬ FatWorkers.AsAsked plainPositional workers (.act 0 (succeeded 4)) next := by
  refine ⟨plainWorkers_initial _, _, FatWorkers.run_of_perform rfl, ?_⟩
  refine ⟨_, FatWorkers.step_of_perform rfl, fun asked => ?_⟩
  have put := (asked _ rfl rfl).2.2.1
  exact absurd (congrFun put 0) (by decide)

end LionsOS.Fat

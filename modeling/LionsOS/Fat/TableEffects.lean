/-
This file says exactly what a handler does to the table of open files and to the
pools from one call of FatFs to the next. Where the busy counts are right, an
operation that a handler begins and ends at once changes nothing; so a segment
begins an operation or ends the one begun before, takes an object or gives it
back, and sets, unsets or frees one descriptor.
-/

import LionsOS.Fat.Effects
import LionsOS.Fs.SlotCounts

namespace LionsOS.Fat

open LionsOS.Fs

variable {fatfs : FatFs} {status : UInt64T}

variable {after : FatFiles fatfs} {fd : UInt64T} {kind : OfKind}

/-! ### What a handler holds -/

/-- The descriptor of the operation that a handler has begun and not ended. -/
def HandlerStage.operates : HandlerStage → Option UInt64T
  | .writeSeeking fd _ _ _ | .writing fd | .readSeeking fd _ _ _ | .reading fd
  | .truncateSeeking fd _ | .truncating fd | .readingDir fd _ _ | .rewinding fd | .syncing fd
  | .seekingDir fd _ _ _ => some fd
  | _ => none

/-- The object that a handler is opening or closing. -/
def HandlerStage.object : HandlerStage → Option (OfKind × Fin maxOpenFiles)
  | .opening file | .closing _ file => some (.file, file)
  | .openingDir dir | .closingDir _ dir => some (.dir, dir)
  | _ => none

def Progress.operates : Progress → Option UInt64T
  | .inCall _ stage => stage.operates
  | _ => none

def Progress.object : Progress → Option (OfKind × Fin maxOpenFiles)
  | .inCall _ stage => stage.object
  | _ => none

/-! ### First segments -/

/-- What the first segment of a handler does. -/
inductive FirstTableEffect (before after : FatFiles fatfs) : Progress → Prop
  | nothing {progress : Progress} (table : after.table = before.table)
      (used : after.used = before.used) (operates : progress.operates = none)
      (object : progress.object = none) : FirstTableEffect before after progress
  | begins {kind : OfKind} {fd handle : UInt64T} {progress : Progress}
      (begun : fdBeginOp kind before.table fd = some (handle, after.table))
      (used : after.used = before.used) (operates : progress.operates = some fd)
      (object : progress.object = none) : FirstTableEffect before after progress
  | takes {kind : OfKind} {object : Fin maxOpenFiles} {call : FatFsCall} {stage : HandlerStage}
      (table : after.table = before.table) (unused : before.used kind object = false)
      (used : after.used = setUsed before.used kind object true)
      (operates : stage.operates = none) (closes : stage.closes = none)
      (takes : stage.object = some (kind, object)) :
      FirstTableEffect before after (.inCall call stage)
  | unsets {kind : OfKind} {fd : UInt64T} {call : FatFsCall} {stage : HandlerStage}
      (notPassed : (before.table (slotOf fd)).generation ≤ fdGeneration fd)
      (opened : (before.table (slotOf fd)).state = .opened kind)
      (table : after.table = Function.update before.table (slotOf fd)
        { before.table (slotOf fd) with state := .allocated, handle := 0 })
      (used : after.used = before.used) (operates : stage.operates = none)
      (closes : stage.closes = some fd)
      (object : stage.object = some (kind, objectOf (before.table (slotOf fd)).handle)) :
      FirstTableEffect before after (.inCall call stage)

section First

variable {files : FatFiles fatfs} {operations : Fin maxOpenFiles → Nat}

def HasFirstTableEffect (files : FatFiles fatfs) (segment : Segment fatfs) : Prop :=
  FirstTableEffect files segment.files segment.progress

theorem hasFirstTableEffect_finish (status : UInt64T) (result : Option UInt64T) :
    HasFirstTableEffect files (finish files status result) :=
  .nothing rfl rfl rfl rfl

theorem hasFirstTableEffect_inCall (table : after.table = files.table)
    (used : after.used = files.used) {call : FatFsCall} {stage : HandlerStage}
    (operates : stage.operates = none) (object : stage.object = none) :
    HasFirstTableEffect files (inCall after call stage) :=
  .nothing table used operates object

theorem hasFirstTableEffect_withOp {call : Fin maxOpenFiles → FatFsCall}
    {stage : Fin maxOpenFiles → HandlerStage}
    (operates : ∀ object, (stage object).operates = some fd)
    (object : ∀ object, (stage object).object = none) :
    HasFirstTableEffect files
      (withOp kind files fd fun object files => inCall files (call object) (stage object)) :=
  withOp_rule (hasFirstTableEffect_finish _ _) fun _ _ begun =>
    .begins begun rfl (operates _) (object _)

theorem hasFirstTableEffect_withPath {declared : Nat} {buf : FsBuffer} {failed : UInt64T}
    {rest : List UInt8T → Segment fatfs}
    (effect : ∀ path, HasFirstTableEffect files (rest path)) :
    HasFirstTableEffect files (withPath files declared buf failed rest) :=
  withPath_rule (hasFirstTableEffect_finish _ _) fun path _ => effect path

section

variable (counted : files.table.Counted operations) (room : ∀ slot, operations slot + 1 < 2 ^ 64)
include counted room

/-- What is read off between the begin and the end of an operation. -/
theorem withOp_endOp_eq {handle : UInt64T} {begun : OfTable}
    (begins : fdBeginOp kind files.table fd = some (handle, begun))
    (rest : Fin maxOpenFiles → FatFiles fatfs → FatFiles fatfs → Segment fatfs) :
    (withOp kind files fd fun object files => endOp files fd fun after => rest object files after) =
      rest (objectOf handle) { files with table := begun } files := by
  have ends := counted.endOp_of_beginOp room begins
  unfold withOp endOp asserting
  rw [begins]
  dsimp only
  rw [ends]
  rfl

theorem hasFirstTableEffect_readOff {result : Fin maxOpenFiles → FatFiles fatfs → Option UInt64T} :
    HasFirstTableEffect files
      (withOp kind files fd fun object files =>
        endOp files fd fun after => finish after status (result object files)) := by
  cases begins : fdBeginOp kind files.table fd with
  | none =>
    unfold withOp
    rw [begins]
    exact hasFirstTableEffect_finish _ _
  | some begun =>
    rw [withOp_endOp_eq counted room begins]
    exact hasFirstTableEffect_finish _ _

/-- A close begins by taking the slot out of use, unless the descriptor is invalid or busy. -/
theorem handleClose_eq (kind : OfKind) (params : CmdParams)
    (call : UInt64T → Fin maxOpenFiles → FatFsCall × HandlerStage) :
    handleClose kind params files call =
      match fdBeginOp kind files.table (paramWord params 0) with
      | none => finish files fsStatusInvalidFd none
      | some (handle, _) =>
        match fdUnset files.table (paramWord params 0) with
        | none => finish files fsStatusOutstandingOperations none
        | some table => inCall { files with table }
            (call (paramWord params 0) (objectOf handle)).1
            (call (paramWord params 0) (objectOf handle)).2 := by
  unfold handleClose
  cases begins : fdBeginOp kind files.table (paramWord params 0) with
  | none =>
    unfold withOp
    dsimp only
    rw [begins]
  | some begun => exact withOp_endOp_eq counted room begins _

theorem hasFirstTableEffect_handleClose {params : CmdParams}
    {call : UInt64T → Fin maxOpenFiles → FatFsCall × HandlerStage}
    (operates : ∀ fd object, (call fd object).2.operates = none)
    (closes : ∀ fd object, (call fd object).2.closes = some fd)
    (object : ∀ fd object, (call fd object).2.object = some (kind, object)) :
    HasFirstTableEffect files (handleClose kind params files call) := by
  rw [handleClose_eq counted room]
  generalize paramWord params 0 = fd
  split
  · exact hasFirstTableEffect_finish _ _
  · rename_i handle begun begins
    split
    · exact hasFirstTableEffect_finish _ _
    · rename_i table unset
      obtain ⟨notPassed, after, unsets, rfl⟩ := onSlot_eq_some unset
      obtain ⟨_, begunSlot, beginsSlot, _⟩ := fdBeginOp_eq_some begins
      obtain ⟨rfl, _, _, _, begunState⟩ := FdUse.ofBeginOp_cases beginsSlot
      unfold OftableSlot.ofUnset at unsets
      split at unsets
      · rename_i other opened
        cases unsets
        have opened : (files.table (slotOf fd)).state = .opened kind := by
          rcases begunState with ⟨same, _⟩ | ⟨busy, _⟩
          · exact same
          · rw [opened] at busy
            cases busy
        exact .unsets notPassed opened rfl rfl (operates _ _) (closes _ _) (object _ _)
      · cases unsets

theorem hasFirstTableEffect_operationFunctions (type : CmdType) (params : CmdParams) :
    HasFirstTableEffect files (operationFunctions type params files) := by
  cases type with
  | initialise =>
    simp only [operationFunctions, handleInitialise]
    split
    · exact hasFirstTableEffect_finish _ _
    · exact .nothing rfl rfl rfl rfl
  | deinitialise =>
    simp only [operationFunctions, handleDeinitialise]
    split
    · exact hasFirstTableEffect_inCall rfl rfl rfl rfl
    · exact hasFirstTableEffect_finish _ _
  | fileOpen =>
    refine hasFirstTableEffect_withPath fun filepath => ?_
    split
    case h_1 => exact hasFirstTableEffect_finish _ _
    case h_2 file after allocates =>
      obtain ⟨unused, rfl⟩ := fileAlloc_eq_some allocates
      exact @FirstTableEffect.takes _ _ _ .file file _ _ rfl unused (used_setFileUsed _ _ _) rfl rfl
        rfl
  | dirOpen =>
    refine hasFirstTableEffect_withPath fun dirpath => ?_
    split
    case h_1 => exact hasFirstTableEffect_finish _ _
    case h_2 dir after allocates =>
      obtain ⟨unused, rfl⟩ := dirAlloc_eq_some allocates
      exact @FirstTableEffect.takes _ _ _ .dir dir _ _ rfl unused (used_setDirUsed _ _ _) rfl rfl
        rfl
  | fileClose =>
    exact hasFirstTableEffect_handleClose counted room (fun _ _ => rfl) (fun _ _ => rfl)
      fun _ _ => rfl
  | dirClose =>
    exact hasFirstTableEffect_handleClose counted room (fun _ _ => rfl) (fun _ _ => rfl)
      fun _ _ => rfl
  | stat =>
    simp only [operationFunctions, handleStat]
    split
    · exact hasFirstTableEffect_finish _ _
    · split
      · exact hasFirstTableEffect_finish _ _
      · refine hasFirstTableEffect_withPath fun filepath => ?_
        exact hasFirstTableEffect_inCall rfl rfl rfl rfl
  | fileRead | fileWrite | dirRead =>
    simp only [operationFunctions, handleFileRead, handleFileWrite, handleDirRead]
    split
    · exact hasFirstTableEffect_finish _ _
    · exact hasFirstTableEffect_withOp (fun _ => rfl) fun _ => rfl
  | fileSize | dirTell =>
    exact hasFirstTableEffect_readOff counted room
  | rename =>
    refine hasFirstTableEffect_withPath fun oldpath => ?_
    refine hasFirstTableEffect_withPath fun newpath => ?_
    exact hasFirstTableEffect_inCall rfl rfl rfl rfl
  | fileRemove | dirCreate | dirRemove =>
    refine hasFirstTableEffect_withPath fun path => ?_
    exact hasFirstTableEffect_inCall rfl rfl rfl rfl
  | fileTruncate | fileSync | dirSeek | dirRewind =>
    exact hasFirstTableEffect_withOp (fun _ => rfl) fun _ => rfl

end

end First

/-! ### What follows a call -/

/-- What a handler does after a call of FatFs has returned in a stage. -/
inductive ResumeTableEffect (before after : FatFiles fatfs) (reply : FatFsReply)
    (stage : HandlerStage) : Progress → Prop
  | nothing {progress : Progress} (table : after.table = before.table)
      (used : after.used = before.used) (operates : progress.operates = stage.operates)
      (object : stage.object = none) (objectAfter : progress.object = none) :
      ResumeTableEffect before after reply stage progress
  | ends {fd status : UInt64T} {result : Option UInt64T} (operates : stage.operates = some fd)
      (ended : fdEndOp before.table fd = some after.table) (used : after.used = before.used)
      (object : stage.object = none) :
      ResumeTableEffect before after reply stage (.finished status result)
  | opened {kind : OfKind} {object : Fin maxOpenFiles} {fd status : UInt64T} {table : OfTable}
      {result : Option UInt64T} (operates : stage.operates = none) (closes : stage.closes = none)
      (opens : stage.object = some (kind, object))
      (allocated : fdAlloc before.table = some (fd, table))
      (set : after.table =
        (onSlot (OftableSlot.ofSet kind (handleOf object)) table fd).getD table)
      (used : after.used = before.used) :
      ResumeTableEffect before after reply stage (.finished status result)
  | refused {kind : OfKind} {object : Fin maxOpenFiles} {status : UInt64T}
      {result : Option UInt64T} (operates : stage.operates = none) (closes : stage.closes = none)
      (opens : stage.object = some (kind, object)) (table : after.table = before.table)
      (used : after.used = setUsed before.used kind object false) :
      ResumeTableEffect before after reply stage (.finished status result)
  | closed {kind : OfKind} {object : Fin maxOpenFiles} {fd : UInt64T} {result : Option UInt64T}
      (operates : stage.operates = none) (closes : stage.closes = some fd)
      (holds : stage.object = some (kind, object)) (accepted : reply.result = .ok)
      (table : after.table = (fdFree before.table fd).getD before.table)
      (used : after.used = setUsed before.used kind object false) :
      ResumeTableEffect before after reply stage (.finished fsStatusSuccess result)
  | restored {fd : UInt64T} {file : Fin maxOpenFiles} {result : Option UInt64T}
      (closes : stage = .closing fd file) (refused : reply.result ≠ .ok)
      (table : after.table = (fdSetFile before.table fd (handleOf file)).getD before.table)
      (used : after.used = before.used) :
      ResumeTableEffect before after reply stage (.finished fsStatusError result)
  | kept {fd : UInt64T} {dir : Fin maxOpenFiles} {result : Option UInt64T}
      (closes : stage = .closingDir fd dir) (refused : reply.result ≠ .ok)
      (table : after.table = before.table) (used : after.used = before.used) :
      ResumeTableEffect before after reply stage (.finished fsStatusError result)
  | failed : ResumeTableEffect before after reply stage .failedAssertion

section Resume

variable {files : FatFiles fatfs} {reply : FatFsReply} {stage : HandlerStage}

def HasResumeTableEffect (files : FatFiles fatfs) (reply : FatFsReply) (stage : HandlerStage)
    (segment : Segment fatfs) : Prop :=
  ResumeTableEffect files segment.files reply stage segment.progress

theorem hasResumeTableEffect_endOp {result : Option UInt64T} (operates : stage.operates = some fd)
    (object : stage.object = none) (table : after.table = files.table)
    (used : after.used = files.used) :
    HasResumeTableEffect files reply stage
      (endOp after fd fun files => finish files status result) := by
  refine endOp_rule .failed fun next ended => ?_
  rw [table] at ended
  exact .ends operates ended used object

theorem hasResumeTableEffect_setNewFd {object : Fin maxOpenFiles} (operates : stage.operates = none)
    (closes : stage.closes = none) (opens : stage.object = some (kind, object)) :
    HasResumeTableEffect files reply stage
      (setNewFd files fun table fd =>
        onSlot (OftableSlot.ofSet kind (handleOf object)) table fd) := by
  unfold setNewFd
  split
  case h_1 => exact .failed
  case h_2 fd table allocates => exact .opened operates closes opens allocates rfl rfl

theorem hasResumeTableEffect_resume (files : FatFiles fatfs) (reply : FatFsReply)
    (stage : HandlerStage) :
    HasResumeTableEffect files reply stage (resume files reply stage) := by
  cases stage with
  | mounting | unmounting | renamingPath | removing | creatingDir | removingDir =>
    exact .nothing rfl rfl rfl rfl rfl
  | writing fd | reading fd | truncating fd | rewinding fd | syncing fd =>
    exact hasResumeTableEffect_endOp rfl rfl rfl rfl
  | writeSeeking fd file data size | readSeeking fd file data size | truncateSeeking fd file =>
    simp only [resume]
    split
    · exact .nothing rfl rfl rfl rfl rfl
    · exact hasResumeTableEffect_endOp rfl rfl rfl rfl
  | statting fileStat =>
    simp only [resume]
    split
    · exact .nothing rfl rfl rfl rfl rfl
    · exact .nothing rfl rfl rfl rfl rfl
  | readingDir fd name size =>
    simp only [resume]
    split
    · exact hasResumeTableEffect_endOp rfl rfl rfl rfl
    · exact hasResumeTableEffect_endOp rfl rfl rfl rfl
  | seekingDir fd dir loc passed =>
    simp only [resume]
    split
    · exact .nothing rfl rfl rfl rfl rfl
    · exact hasResumeTableEffect_endOp rfl rfl rfl rfl
  | opening file =>
    simp only [resume]
    split
    · exact hasResumeTableEffect_setNewFd rfl rfl rfl
    · refine asserting_rule (fun _ => .failed) fun after freed => ?_
      obtain ⟨_, rfl⟩ := fileFree_eq_some freed
      exact .refused rfl rfl rfl rfl (used_setFileUsed _ _ _)
  | openingDir dir =>
    simp only [resume]
    split
    · exact hasResumeTableEffect_setNewFd rfl rfl rfl
    · refine asserting_rule (fun _ => .failed) fun after freed => ?_
      obtain ⟨_, rfl⟩ := dirFree_eq_some freed
      exact .refused rfl rfl rfl rfl (used_setDirUsed _ _ _)
  | closing fd file =>
    simp only [resume]
    split
    case isTrue accepted =>
      refine asserting_rule (fun _ => .failed) fun after freed => ?_
      obtain ⟨_, rfl⟩ := fileFree_eq_some freed
      exact .closed rfl rfl rfl accepted rfl (used_setFileUsed _ _ _)
    case isFalse refused => exact .restored rfl refused rfl rfl
  | closingDir fd dir =>
    simp only [resume]
    split
    case isTrue accepted =>
      refine asserting_rule (fun _ => .failed) fun after freed => ?_
      obtain ⟨_, rfl⟩ := dirFree_eq_some freed
      exact .closed rfl rfl rfl accepted rfl (used_setDirUsed _ _ _)
    case isFalse refused => exact .kept rfl refused rfl rfl

end Resume

end LionsOS.Fat

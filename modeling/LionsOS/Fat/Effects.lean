/-
This file says once what a handler may do to the pools of files and directories
and to the table of open files. Most of what it does leaves every slot of the
table in the use it was in; an object is taken before an open and given back
after a failed one or after a close, a descriptor is made for an accepted open,
and a close begins by taking its slot out of use.
-/

import LionsOS.Fat.Handlers
import Mathlib.Data.Fintype.Card

open Function

namespace LionsOS.Fat

open LionsOS.Fs OftableSlot

variable {fatfs : FatFs} {handle : UInt64T} {result : Option UInt64T} {files : FatFiles fatfs}
  {stage : HandlerStage} {progress : Progress} {call : FatFsCall} {next : OfTable}

variable {slot : Fin maxOpenFiles} {table : OfTable} {fd status : UInt64T} {kind : OfKind}
  {after before : FatFiles fatfs}

/-! ### Objects in use -/

instance : Fintype OfKind where
  elems := {.file, .dir}
  complete := by
    rintro (_ | _)
    · exact Finset.mem_insert_self _ _
    · exact Finset.mem_insert_of_mem (Finset.mem_singleton_self _)

/-- The pool of files or that of directories. -/
def FatFiles.used (files : FatFiles fatfs) : OfKind → Fin maxOpenFiles → Bool
  | .file => files.fileUsed
  | .dir => files.dirUsed

/-- The pools with one object more or less. -/
def setUsed (used : OfKind → Fin maxOpenFiles → Bool) (kind : OfKind) (object : Fin maxOpenFiles)
    (value : Bool) : OfKind → Fin maxOpenFiles → Bool :=
  update used kind (update (used kind) object value)

theorem used_setFileUsed (files : FatFiles fatfs) (file : Fin maxOpenFiles) (value : Bool) :
    FatFiles.used { files with fileUsed := update files.fileUsed file value } =
      setUsed files.used .file file value := by
  funext kind
  cases kind <;> rfl

theorem used_setDirUsed (files : FatFiles fatfs) (dir : Fin maxOpenFiles) (value : Bool) :
    FatFiles.used { files with dirUsed := update files.dirUsed dir value } =
      setUsed files.used .dir dir value := by
  funext kind
  cases kind <;> rfl

/-! ### Slots in use -/

/-- A slot is still free, still allocated, or still neither, in the generation it was in. -/
structure SameUse (before after : OftableSlot) : Prop where
  generation : after.generation = before.generation
  free : after.state = .free ↔ before.state = .free
  allocated : after.state = .allocated ↔ before.state = .allocated

open SameUse

theorem SameUse.refl (slot : OftableSlot) : SameUse slot slot :=
  ⟨rfl, Iff.rfl, Iff.rfl⟩

theorem SameUse.trans {first second third : OftableSlot} (before : SameUse first second)
    (after : SameUse second third) : SameUse first third where
  generation := after.generation.trans before.generation
  free := after.free.trans before.free
  allocated := after.allocated.trans before.allocated

/-- Between two states in neither of which the slot is free or allocated. -/
theorem sameUse_of_open {before after : OftableSlot}
    (generation : after.generation = before.generation) (before_free : before.state ≠ .free)
    (before_allocated : before.state ≠ .allocated) (after_free : after.state ≠ .free)
    (after_allocated : after.state ≠ .allocated) : SameUse before after where
  generation := generation
  free := iff_of_false after_free before_free
  allocated := iff_of_false after_allocated before_allocated

theorem sameUse_update {after : OftableSlot} (here : SameUse (table slot) after)
    (other : Fin maxOpenFiles) : SameUse (table other) (update table slot after other) := by
  rcases eq_or_ne other slot with rfl | different
  · rw [update_self]
    exact here
  · rw [update_of_ne different]
    exact refl _

theorem sameUse_beginOp (begun : fdBeginOp kind table fd = some (handle, next))
    (slot : Fin maxOpenFiles) : SameUse (table slot) (next slot) := by
  obtain ⟨_, after, begins, rfl⟩ := fdBeginOp_eq_some begun
  refine sameUse_update ?_ slot
  unfold ofBeginOp at begins
  split at begins
  case h_1 other opened =>
    obtain ⟨_, ⟨⟩⟩ := Option.ite_none_right_eq_some.mp begins
    exact sameUse_of_open rfl (by simp [opened]) (by simp [opened]) (by simp) (by simp)
  case h_2 other busy =>
    obtain ⟨_, ⟨⟩⟩ := Option.ite_none_right_eq_some.mp begins
    exact ⟨rfl, Iff.rfl, Iff.rfl⟩
  case h_3 => cases begins

theorem sameUse_endOp (ended : fdEndOp table fd = some next) (slot : Fin maxOpenFiles) :
    SameUse (table slot) (next slot) := by
  obtain ⟨_, after, ends, rfl⟩ := onSlot_eq_some ended
  refine sameUse_update ?_ slot
  unfold ofEndOp at ends
  split at ends
  case h_1 kind busy =>
    cases ends
    refine sameUse_of_open rfl (by simp [busy]) (by simp [busy]) ?_ ?_
    · split <;> exact nofun
    · split <;> exact nofun
  case h_2 => cases ends

theorem taken_of_set (taken : (table (slotOf fd)).state ≠ .free) (kind : OfKind) (handle : UInt64T) :
    ((onSlot (ofSet kind handle) table fd).getD table (slotOf fd)).state ≠ .free := by
  cases sets : onSlot (ofSet kind handle) table fd with
  | none => exact taken
  | some next =>
    obtain ⟨_, after, set, rfl⟩ := onSlot_eq_some sets
    rw [Option.getD_some, update_self]
    unfold ofSet at set
    split at set
    · cases set
      exact nofun
    · cases set

theorem set_of_ne (kind : OfKind) (handle : UInt64T) (different : slot ≠ slotOf fd) :
    (onSlot (ofSet kind handle) table fd).getD table slot = table slot := by
  cases sets : onSlot (ofSet kind handle) table fd with
  | none => rfl
  | some next =>
    obtain ⟨_, after, _, rfl⟩ := onSlot_eq_some sets
    exact update_of_ne different _ _

/-! ### Effects -/

/-- The stages in which an object has been taken and is being opened. -/
def HandlerStage.opens : HandlerStage → Bool
  | .opening _ | .openingDir _ => true
  | _ => false

/-- The descriptor whose slot a closing handler has taken out of use. -/
def HandlerStage.closes : HandlerStage → Option UInt64T
  | .closing fd _ | .closingDir fd _ => some fd
  | _ => none

/-- Neither an open nor a close is in progress. -/
def HandlerStage.Plain (stage : HandlerStage) : Prop :=
  stage.opens = false ∧ stage.closes = none

def Progress.Plain : Progress → Prop
  | .inCall _ stage => stage.Plain
  | _ => True

/-- The volume, the pools and the use of the slots are left alone. -/
structure Quiet (before after : FatFiles fatfs) : Prop where
  volume : after.volume = before.volume
  used : after.used = before.used
  table : ∀ slot, SameUse (before.table slot) (after.table slot)

open Quiet

theorem Quiet.refl (files : FatFiles fatfs) : Quiet files files :=
  ⟨rfl, rfl, fun _ => SameUse.refl _⟩

theorem Quiet.trans {first second third : FatFiles fatfs} (before : Quiet first second)
    (after : Quiet second third) : Quiet first third where
  volume := after.volume.trans before.volume
  used := after.used.trans before.used
  table := fun slot => (before.table slot).trans (after.table slot)

theorem quiet_beginOp (begun : fdBeginOp kind files.table fd = some (handle, table)) :
    Quiet files { files with table } :=
  ⟨rfl, rfl, sameUse_beginOp begun⟩

theorem quiet_endOp (ended : fdEndOp files.table fd = some table) :
    Quiet files { files with table } :=
  ⟨rfl, rfl, sameUse_endOp ended⟩

theorem quiet_writeShare (files : FatFiles fatfs) (start : Nat) (bytes : List UInt8T) :
    Quiet files (files.writeShare start bytes) :=
  ⟨rfl, rfl, fun _ => refl _⟩

/-- What the first segment of a handler does. -/
inductive FirstEffect (before after : FatFiles fatfs) : Progress → Prop
  | quiet {progress : Progress} (quiet : Quiet before after) (plain : progress.Plain) :
      FirstEffect before after progress
  | takes {kind : OfKind} {object : Fin maxOpenFiles} {call : FatFsCall} {stage : HandlerStage}
      (volume : after.volume = before.volume) (table : after.table = before.table)
      (unused : before.used kind object = false)
      (used : after.used = setUsed before.used kind object true)
      (opens : stage.opens = true) (closes : stage.closes = none) :
      FirstEffect before after (.inCall call stage)
  | unsets {fd : UInt64T} {call : FatFsCall} {stage : HandlerStage}
      (volume : after.volume = before.volume) (used : after.used = before.used)
      (others : ∀ slot, slot ≠ slotOf fd → SameUse (before.table slot) (after.table slot))
      (opened : (before.table (slotOf fd)).state ≠ .free ∧
        (before.table (slotOf fd)).state ≠ .allocated)
      (allocated : (after.table (slotOf fd)).state = .allocated)
      (notPassed : (after.table (slotOf fd)).generation ≤ fdGeneration fd)
      (opens : stage.opens = false) (closes : stage.closes = some fd) :
      FirstEffect before after (.inCall call stage)

/-- What a handler does after a call of FatFs has returned in a stage. -/
inductive ResumeEffect (before after : FatFiles fatfs) (reply : FatFsReply)
    (stage : HandlerStage) : Progress → Prop
  | quiet {progress : Progress} (quiet : Quiet before after) (stagePlain : stage.Plain)
      (plain : progress.Plain) : ResumeEffect before after reply stage progress
  | noSlot (opens : stage.opens = true) (accepted : reply.result = .ok)
      (full : fdAlloc before.table = none) (volume : after.volume = before.volume) :
      ResumeEffect before after reply stage .failedAssertion
  | opened {slot : Fin maxOpenFiles} {status : UInt64T} {result : Option UInt64T}
      (opens : stage.opens = true) (accepted : reply.result = .ok)
      (volume : after.volume = before.volume) (used : after.used = before.used)
      (free : (before.table slot).state = .free) (taken : (after.table slot).state ≠ .free)
      (others : ∀ other, other ≠ slot → SameUse (before.table other) (after.table other)) :
      ResumeEffect before after reply stage (.finished status result)
  | refused {kind : OfKind} {object : Fin maxOpenFiles} {status : UInt64T}
      {result : Option UInt64T} (opens : stage.opens = true) (refused : reply.result ≠ .ok)
      (volume : after.volume = before.volume) (table : after.table = before.table)
      (inUse : before.used kind object = true)
      (used : after.used = setUsed before.used kind object false) :
      ResumeEffect before after reply stage (.finished status result)
  | closed {kind : OfKind} {object : Fin maxOpenFiles} {fd status : UInt64T}
      {result : Option UInt64T} (closes : stage.closes = some fd)
      (volume : after.volume = before.volume)
      (table : after.table = (fdFree before.table fd).getD before.table)
      (inUse : before.used kind object = true)
      (used : after.used = setUsed before.used kind object false) :
      ResumeEffect before after reply stage (.finished status result)
  | stays {fd status : UInt64T} {result : Option UInt64T} (closes : stage.closes = some fd)
      (volume : after.volume = before.volume) (used : after.used = before.used)
      (others : ∀ slot, slot ≠ slotOf fd → SameUse (before.table slot) (after.table slot))
      (kept : (after.table (slotOf fd)).state = .free → (before.table (slotOf fd)).state = .free) :
      ResumeEffect before after reply stage (.finished status result)
  | unusedObject (refused : stage.opens = true → reply.result ≠ .ok)
      (volume : after.volume = before.volume) :
      ResumeEffect before after reply stage .failedAssertion

theorem FirstEffect.volume_eq (effect : FirstEffect before after progress) :
    after.volume = before.volume := by
  cases effect with
  | quiet quiet _ => exact quiet.volume
  | takes volume | unsets volume => exact volume

theorem ResumeEffect.volume_eq {reply : FatFsReply}
    (effect : ResumeEffect before after reply stage progress) : after.volume = before.volume := by
  cases effect with
  | quiet quiet _ _ => exact quiet.volume
  | noSlot _ _ _ volume | opened _ _ volume | refused _ _ volume | closed _ volume
  | stays _ volume | unusedObject _ volume => exact volume

/-! ### Effects of the handlers -/

section First

/-- A segment has one of the effects of a first segment. -/
def HasFirstEffect (files : FatFiles fatfs) (segment : Segment fatfs) : Prop :=
  FirstEffect files segment.files segment.progress

theorem hasFirstEffect_finish (quiet : Quiet files after) (status : UInt64T)
    (result : Option UInt64T) : HasFirstEffect files (finish after status result) :=
  .quiet quiet trivial

theorem hasFirstEffect_inCall (quiet : Quiet files after) (plain : stage.Plain) :
    HasFirstEffect files (inCall after call stage) :=
  .quiet quiet plain

/-- A handler that begins an operation and goes into a call. -/
theorem hasFirstEffect_withOp {call : Fin maxOpenFiles → FatFsCall}
    {stage : Fin maxOpenFiles → HandlerStage} (plain : ∀ object, (stage object).Plain) :
    HasFirstEffect files
      (withOp kind files fd fun object files => inCall files (call object) (stage object)) :=
  withOp_rule (hasFirstEffect_finish (refl _) _ _) fun _ _ begun =>
    hasFirstEffect_inCall (quiet_beginOp begun) (plain _)

theorem hasFirstEffect_readOff {result : Fin maxOpenFiles → FatFiles fatfs → Option UInt64T} :
    HasFirstEffect files
      (withOp kind files fd fun object files =>
        endOp files fd fun after => finish after status (result object files)) := by
  refine withOp_rule (hasFirstEffect_finish (refl _) _ _) fun handle table begun => ?_
  refine endOp_rule (.quiet (quiet_beginOp begun) trivial) fun after ended => ?_
  exact hasFirstEffect_finish ((quiet_beginOp begun).trans (quiet_endOp ended)) _ _

theorem hasFirstEffect_withPath {declared : Nat} {buf : FsBuffer} {failed : UInt64T}
    {rest : List UInt8T → Segment fatfs} (effect : ∀ path, HasFirstEffect files (rest path)) :
    HasFirstEffect files (withPath files declared buf failed rest) :=
  withPath_rule (hasFirstEffect_finish (refl _) _ _) fun path _ => effect path

/-- A handler that unsets a descriptor, after an operation on it, to close what it referred to. -/
theorem hasFirstEffect_handleClose {params : CmdParams}
    {call : UInt64T → Fin maxOpenFiles → FatFsCall × HandlerStage}
    (opens : ∀ fd object, (call fd object).2.opens = false)
    (closes : ∀ fd object, (call fd object).2.closes = some fd) :
    HasFirstEffect files (handleClose kind params files call) := by
  refine withOp_rule (hasFirstEffect_finish (refl _) _ _) fun handle begun begins => ?_
  refine endOp_rule (.quiet (quiet_beginOp begins) trivial) fun ended ends => ?_
  have quiet := (quiet_beginOp begins).trans (quiet_endOp ends)
  generalize paramWord params 0 = fd at *
  split
  case h_1 => exact hasFirstEffect_finish quiet _ _
  case h_2 table unset =>
    obtain ⟨notPassed, after, unsets, same⟩ := onSlot_eq_some unset
    unfold ofUnset at unsets
    split at unsets
    case h_2 => cases unsets
    case h_1 kind opened =>
      cases unsets
      refine .unsets rfl quiet.used (fun slot different => ?_) ⟨?_, ?_⟩ ?_ ?_ (opens _ _)
        (closes _ _)
      · show SameUse _ (table slot)
        rw [same, update_of_ne different]
        exact quiet.table slot
      · rw [Ne, ← (quiet.table (slotOf fd)).free, opened]
        exact nofun
      · rw [Ne, ← (quiet.table (slotOf fd)).allocated, opened]
        exact nofun
      · show (table (slotOf fd)).state = _
        rw [same, update_self]
      · show (table (slotOf fd)).generation ≤ _
        rw [same, update_self]
        exact notPassed

theorem hasFirstEffect_operationFunctions (type : CmdType) (params : CmdParams)
    (files : FatFiles fatfs) : HasFirstEffect files (operationFunctions type params files) := by
  cases type with
  | initialise =>
    simp only [operationFunctions, handleInitialise]
    split
    · exact hasFirstEffect_finish (refl _) _ _
    · exact .quiet ⟨rfl, rfl, fun _ => refl _⟩ ⟨rfl, rfl⟩
  | deinitialise =>
    simp only [operationFunctions, handleDeinitialise]
    split
    · exact hasFirstEffect_inCall (refl _) ⟨rfl, rfl⟩
    · exact hasFirstEffect_finish (refl _) _ _
  | fileOpen =>
    refine hasFirstEffect_withPath fun filepath => ?_
    split
    case h_1 => exact hasFirstEffect_finish (refl _) _ _
    case h_2 file after allocates =>
      obtain ⟨unused, rfl⟩ := fileAlloc_eq_some allocates
      exact @FirstEffect.takes _ _ _ .file file _ _ rfl rfl unused (used_setFileUsed _ _ _) rfl rfl
  | dirOpen =>
    refine hasFirstEffect_withPath fun dirpath => ?_
    split
    case h_1 => exact hasFirstEffect_finish (refl _) _ _
    case h_2 dir after allocates =>
      obtain ⟨unused, rfl⟩ := dirAlloc_eq_some allocates
      exact @FirstEffect.takes _ _ _ .dir dir _ _ rfl rfl unused (used_setDirUsed _ _ _) rfl rfl
  | fileClose =>
    exact hasFirstEffect_handleClose (fun _ _ => rfl) fun _ _ => rfl
  | dirClose =>
    exact hasFirstEffect_handleClose (fun _ _ => rfl) fun _ _ => rfl
  | stat =>
    simp only [operationFunctions, handleStat]
    split
    · exact hasFirstEffect_finish (refl _) _ _
    · split
      · exact hasFirstEffect_finish (refl _) _ _
      · exact hasFirstEffect_withPath fun filepath => hasFirstEffect_inCall (refl _) ⟨rfl, rfl⟩
  | fileRead | fileWrite | dirRead =>
    simp only [operationFunctions, handleFileRead, handleFileWrite, handleDirRead]
    split
    · exact hasFirstEffect_finish (refl _) _ _
    · exact hasFirstEffect_withOp fun object => ⟨rfl, rfl⟩
  | fileSize =>
    exact hasFirstEffect_readOff
  | dirTell =>
    exact hasFirstEffect_readOff
  | rename =>
    refine hasFirstEffect_withPath fun oldpath => hasFirstEffect_withPath fun newpath => ?_
    exact hasFirstEffect_inCall (refl _) ⟨rfl, rfl⟩
  | fileRemove | dirCreate | dirRemove =>
    exact hasFirstEffect_withPath fun path => hasFirstEffect_inCall (refl _) ⟨rfl, rfl⟩
  | fileTruncate | fileSync | dirSeek | dirRewind =>
    exact hasFirstEffect_withOp fun object => ⟨rfl, rfl⟩

end First

section Resume

variable {reply : FatFsReply}

/-- A segment has one of the effects of what follows a call. -/
def HasResumeEffect (files : FatFiles fatfs) (reply : FatFsReply) (stage : HandlerStage)
    (segment : Segment fatfs) : Prop :=
  ResumeEffect files segment.files reply stage segment.progress

theorem hasResumeEffect_endOp (quiet : Quiet files after) (plain : stage.Plain) :
    HasResumeEffect files reply stage (endOp after fd fun files => finish files status result) := by
  refine endOp_rule (.quiet quiet plain trivial) fun table ended => ?_
  exact .quiet (quiet.trans (quiet_endOp ended)) plain trivial

theorem hasResumeEffect_finish (quiet : Quiet files after) (plain : stage.Plain) :
    HasResumeEffect files reply stage (finish after status result) :=
  .quiet quiet plain trivial

theorem hasResumeEffect_inCall (plain : stage.Plain) {later : HandlerStage}
    (laterPlain : later.Plain) : HasResumeEffect files reply stage (inCall files call later) :=
  .quiet (refl _) plain laterPlain

theorem hasResumeEffect_setNewFd (opens : stage.opens = true) (accepted : reply.result = .ok)
    {kind : OfKind} {handle : UInt64T} :
    HasResumeEffect files reply stage
      (setNewFd files fun table fd => onSlot (ofSet kind handle) table fd) := by
  unfold setNewFd
  split
  case h_1 full => exact .noSlot opens accepted full rfl
  case h_2 fd table allocates =>
    obtain ⟨slot, free, tableIs, fdIs⟩ := fdAlloc_eq_some allocates
    have here : slotOf fd = slot := by
      rw [fdIs]
      exact slotOf_ofToFd _ _
    have taken : (table (slotOf fd)).state ≠ .free := by
      rw [here, tableIs, update_self]
      exact nofun
    have still := taken_of_set taken kind handle
    rw [here] at still
    refine .opened opens accepted rfl rfl free still fun other different => ?_
    show SameUse _ ((onSlot (ofSet kind handle) table fd).getD table other)
    rw [set_of_ne kind handle (here ▸ different), tableIs, update_of_ne different]
    exact refl _

theorem hasResumeEffect_resume (files : FatFiles fatfs) (reply : FatFsReply)
    (stage : HandlerStage) : HasResumeEffect files reply stage (resume files reply stage) := by
  cases stage with
  | mounting | unmounting =>
    exact .quiet ⟨rfl, rfl, fun _ => refl _⟩ ⟨rfl, rfl⟩ trivial
  | renamingPath | removing | creatingDir | removingDir =>
    exact hasResumeEffect_finish (refl _) ⟨rfl, rfl⟩
  | writing fd | reading fd | truncating fd | rewinding fd | syncing fd =>
    exact hasResumeEffect_endOp (refl _) ⟨rfl, rfl⟩
  | writeSeeking fd file data size | readSeeking fd file data size | truncateSeeking fd file =>
    simp only [resume]
    split
    · exact hasResumeEffect_inCall ⟨rfl, rfl⟩ ⟨rfl, rfl⟩
    · exact hasResumeEffect_endOp (refl _) ⟨rfl, rfl⟩
  | statting fileStat =>
    simp only [resume]
    split
    · exact .quiet ⟨rfl, rfl, fun _ => refl _⟩ ⟨rfl, rfl⟩ trivial
    · exact hasResumeEffect_finish (refl _) ⟨rfl, rfl⟩
  | readingDir fd name size =>
    simp only [resume]
    split
    · exact hasResumeEffect_endOp (quiet_writeShare files _ _) ⟨rfl, rfl⟩
    · exact hasResumeEffect_endOp (refl _) ⟨rfl, rfl⟩
  | seekingDir fd dir loc passed =>
    simp only [resume]
    split
    · exact hasResumeEffect_inCall ⟨rfl, rfl⟩ ⟨rfl, rfl⟩
    · exact hasResumeEffect_endOp (refl _) ⟨rfl, rfl⟩
  | opening file =>
    simp only [resume]
    split
    case isTrue accepted => exact hasResumeEffect_setNewFd rfl accepted
    case isFalse refused =>
      refine asserting_rule (fun _ => .unusedObject (fun _ => refused) rfl) fun after freed => ?_
      obtain ⟨inUse, rfl⟩ := fileFree_eq_some freed
      exact @ResumeEffect.refused _ _ _ _ _ .file file _ _ rfl refused rfl rfl inUse
        (used_setFileUsed _ _ _)
  | openingDir dir =>
    simp only [resume]
    split
    case isTrue accepted => exact hasResumeEffect_setNewFd rfl accepted
    case isFalse refused =>
      refine asserting_rule (fun _ => .unusedObject (fun _ => refused) rfl) fun after freed => ?_
      obtain ⟨inUse, rfl⟩ := dirFree_eq_some freed
      exact @ResumeEffect.refused _ _ _ _ _ .dir dir _ _ rfl refused rfl rfl inUse
        (used_setDirUsed _ _ _)
  | closing fd file =>
    simp only [resume]
    split
    · refine asserting_rule (fun _ => .unusedObject (fun opens => nomatch opens) rfl)
        fun after freed => ?_
      obtain ⟨inUse, rfl⟩ := fileFree_eq_some freed
      exact @ResumeEffect.closed _ _ _ _ _ .file file fd _ _ rfl rfl rfl inUse
        (used_setFileUsed _ _ _)
    · refine .stays rfl rfl rfl (fun slot different => ?_) fun free => ?_
      · show SameUse _ ((onSlot _ files.table fd).getD files.table slot)
        rw [set_of_ne .file (handleOf file) different]
        exact refl _
      · exact not_imp_not.mp (fun taken => taken_of_set taken .file (handleOf file)) free
  | closingDir fd dir =>
    simp only [resume]
    split
    · refine asserting_rule (fun _ => .unusedObject (fun opens => nomatch opens) rfl)
        fun after freed => ?_
      obtain ⟨inUse, rfl⟩ := dirFree_eq_some freed
      exact @ResumeEffect.closed _ _ _ _ _ .dir dir fd _ _ rfl rfl rfl inUse (used_setDirUsed _ _ _)
    · exact .stays rfl rfl rfl (fun _ _ => refl _) fun free => free

end Resume

end LionsOS.Fat

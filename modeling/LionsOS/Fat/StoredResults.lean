/-
This file is about the result that a completion of the FAT server carries. The
result is stored in the slot of the request pool by the handler, but only on some
of its ways out; on the others the completion carries what an earlier request has
left in the slot. Which ways these are depends on the command, the table and the
replies of FatFs alone.
-/

import LionsOS.Fat.CompletionRoom
import LionsOS.Fat.ReadEffects
import LionsOS.Fat.SeekAccess

namespace LionsOS.Fat

open LionsOS.Fs FatServer

variable {fatfs : FatFs} {stage : HandlerStage}

variable {fd : UInt64T} {type : CmdType}

/-! ### Completions -/

/-- The completion of a command that was set up in a slot and has been handled since. A result that
the handler does not store is the one that is in the slot. -/
def completionIn (server : FatServer) (index : Fin fatThreadNum) (message : FsCmd)
    (status : UInt64T) (result : Option UInt64T) : FsCmpl :=
  let started := server.setupRequest index message
  let left := (started.requestPool index).sharedData.result
  fillClientResponse
    ((started.setResult index status (result.getD left)).requestPool index)

theorem completionIn_eq (server : FatServer) (index : Fin fatThreadNum) (message : FsCmd)
    (status : UInt64T) (result : Option UInt64T) :
    completionIn server index message status result =
      { id := message.id
        status
        data := result.getD (server.requestPool index).sharedData.result } := by
  simp only [completionIn, setResult, setupRequest,
    fillClientResponse, Function.update_self]

/-- Whatever earlier requests have left in the slot, the completion is the same. -/
def Determined (index : Fin fatThreadNum) (message : FsCmd) (status : UInt64T)
    (result : Option UInt64T) : Prop :=
  ∀ server other, completionIn server index message status result =
    completionIn other index message status result

/-- The commands whose completions carry a length, a descriptor, a size or a location. -/
def reportsResult : CmdType → Bool
  | .fileRead | .fileWrite | .fileOpen | .dirOpen | .fileSize | .dirTell | .dirRead => true
  | _ => false

/-- A command that fails reports zero. -/
def ZeroOnFailure (type : CmdType) (index : Fin fatThreadNum) (message : FsCmd) (status : UInt64T)
    (result : Option UInt64T) : Prop :=
  reportsResult type = true → status ≠ fsStatusSuccess →
    ∀ server, (completionIn server index message status result).data = 0

/-! ### What is stored -/

/-- A handler comes to store a result. -/
def Stores (type : CmdType) (params : CmdParams) (table : OfTable) (answers : List Answer) : Prop :=
  match type with
  | .fileRead | .fileWrite =>
    fsGetClientBuffer fatFsDataRegionSize (paramBuffer params 2) = none ∨
      fdBeginOp .file table (paramWord params 0) ≠ none
  | .fileSize => fdBeginOp .file table (paramWord params 0) ≠ none
  | .dirTell => fdBeginOp .dir table (paramWord params 0) ≠ none
  | .fileOpen | .dirOpen => ∃ answer ∈ answers, answer.reply.result = .ok
  | .dirRead => ∃ answer ∈ answers, answer.reply.result = .ok ∧
      answer.reply.info.fname.length ≤ (paramBuffer params 1).size.toNat
  | _ => False

/-- The calls that count what they transfer. -/
def FatFsCall.transfers : FatFsCall → Bool
  | .fRead _ _ _ | .fWrite _ _ _ => true
  | _ => false

/-- No transfer has failed halfway. -/
def NoneHalfway (answers : List Answer) : Prop :=
  ∀ answer ∈ answers, answer.call.transfers = true → answer.reply.result ≠ .ok →
    answer.reply.count = 0

/-! ### Handlers that store nothing -/

/-- The stages from which a handler may come to store a result. -/
def HandlerStage.mayStore : HandlerStage → Bool
  | .opening _ | .openingDir _ | .writeSeeking _ _ _ _ | .writing _ | .readSeeking _ _ _ _
  | .reading _ | .readingDir _ _ _ => true
  | _ => false

/-- No result is stored, nor will one be. -/
def Progress.Silent : Progress → Prop
  | .inCall _ stage => stage.mayStore = false
  | .finished _ result => result = none
  | .failedAssertion => True

section Silent

variable {files : FatFiles fatfs}

theorem silent_endOp {rest : FatFiles fatfs → Segment fatfs}
    (silent : ∀ files, (rest files).progress.Silent) : (endOp files fd rest).progress.Silent :=
  @endOp_rule _ (fun segment => segment.progress.Silent) _ _ _ trivial fun _ _ => silent _

theorem silent_withOp {kind : OfKind} {rest : Fin maxOpenFiles → FatFiles fatfs → Segment fatfs}
    (silent : ∀ object files, (rest object files).progress.Silent) :
    (withOp kind files fd rest).progress.Silent :=
  @withOp_rule _ (fun segment => segment.progress.Silent) _ _ _ _ rfl fun _ _ _ => silent _ _

theorem silent_withPath {declared : Nat} {buf : FsBuffer} {failed : UInt64T}
    {rest : List UInt8T → Segment fatfs} (silent : ∀ path, (rest path).progress.Silent) :
    (withPath files declared buf failed rest).progress.Silent :=
  @withPath_rule _ (fun segment => segment.progress.Silent) _ _ _ _ _ rfl fun _ _ => silent _

theorem silent_handleClose {kind : OfKind} {params : CmdParams}
    {call : UInt64T → Fin maxOpenFiles → FatFsCall × HandlerStage}
    (silent : ∀ fd object, (call fd object).2.mayStore = false) :
    (handleClose kind params files call).progress.Silent := by
  refine silent_withOp fun object files => silent_endOp fun files => ?_
  split
  · rfl
  · exact silent _ _

theorem silent_operationFunctions (params : CmdParams) (files : FatFiles fatfs)
    (other : reportsResult type = false) :
    (operationFunctions type params files).progress.Silent := by
  cases type with
  | initialise | deinitialise =>
    simp only [operationFunctions, handleInitialise, handleDeinitialise]
    split <;> rfl
  | fileClose | dirClose => exact silent_handleClose fun _ _ => rfl
  | stat =>
    simp only [operationFunctions, handleStat]
    split
    · rfl
    · split
      · rfl
      · exact silent_withPath fun filepath => rfl
  | rename => exact silent_withPath fun oldpath => silent_withPath fun newpath => rfl
  | fileRemove | dirCreate | dirRemove => exact silent_withPath fun path => rfl
  | fileTruncate | fileSync | dirSeek | dirRewind => exact silent_withOp fun object files => rfl
  | _ => cases other

theorem silent_resume (reply : FatFsReply) (files : FatFiles fatfs)
    (silent : stage.mayStore = false) : (resume files reply stage).progress.Silent := by
  cases stage with
  | mounting | unmounting | renamingPath | removing | creatingDir | removingDir => rfl
  | rewinding fd | syncing fd | truncating fd => exact silent_endOp fun files => rfl
  | closing fd object | closingDir fd object =>
    simp only [resume]
    split
    · exact @asserting_rule _ (fun segment => segment.progress.Silent) _ _ _ (fun _ => trivial)
        fun _ _ => rfl
    · rfl
  | statting fileStat =>
    simp only [resume]
    split <;> rfl
  | truncateSeeking fd object | seekingDir fd object loc passed =>
    simp only [resume]
    split
    · rfl
    · exact silent_endOp fun files => rfl
  | _ => cases silent

theorem Handles.silent {between : FatFiles fatfs → FatFiles fatfs → Prop}
    {segment last : Segment fatfs} {answers : List Answer}
    (handles : Handles between segment answers last) (silent : segment.progress.Silent) :
    last.progress.Silent := by
  induction handles with
  | stays => exact silent
  | calls waits _ _ _ _ inductionHypothesis =>
    rw [waits] at silent
    exact inductionHypothesis (silent_resume _ _ silent)

end Silent

/-! ### Handlers that store a result -/

section Storing

variable {between : FatFiles fatfs → FatFiles fatfs → Prop} {params : CmdParams}
  {files after : FatFiles fatfs} {answers : List Answer} {status : UInt64T}
  {result : Option UInt64T} {segment last : Segment fatfs}

variable {table : OfTable}

/-- What a read or a write comes to. -/
inductive Transferred (params : CmdParams) (table : OfTable) (answers : List Answer)
    (status : UInt64T) (result : Option UInt64T) : Prop
  | invalidBuffer (invalid : fsGetClientBuffer fatFsDataRegionSize (paramBuffer params 2) = none)
      (none : answers = []) (stored : result = some 0)
  | invalidFd (valid : fsGetClientBuffer fatFsDataRegionSize (paramBuffer params 2) ≠ none)
      (invalid : fdBeginOp .file table (paramWord params 0) = none) (notStored : result = none)
  | seekFailed (begun : fdBeginOp .file table (paramWord params 0) ≠ none) {seek : Answer}
      (seeks : seek.call.transfers = false) (one : answers = [seek]) (stored : result = some 0)
  | transferred (begun : fdBeginOp .file table (paramWord params 0) ≠ none) {seek transfer : Answer}
      (seeks : seek.call.transfers = false) (transfers : transfer.call.transfers = true)
      (two : answers = [seek, transfer]) (statusIs : status = statusOf transfer.reply.result)
      (stored : result = some (transfer.reply.count.setWidth 64))

theorem setWidth_eq_zero_iff {count : UInt32T} : count.setWidth 64 = (0 : UInt64T) ↔ count = 0 := by
  constructor
  · intro zero
    have same := congrArg BitVec.toNat zero
    exact BitVec.eq_of_toNat_eq same
  · rintro rfl
    rfl

/-- A handler that seeks and then transfers, in an operation. -/
theorem transferred_of_withOp (fdIs : fd = paramWord params 0)
    (valid : fsGetClientBuffer fatFsDataRegionSize (paramBuffer params 2) ≠ none) {offset : UInt64T}
    {seeking : Fin maxOpenFiles → HandlerStage} {transfer : Fin maxOpenFiles → FatFsCall}
    {transferring : HandlerStage} (transfers : ∀ file, (transfer file).transfers = true)
    (seeked : ∀ (files : FatFiles fatfs) reply file, resume files reply (seeking file) =
      if reply.result = .ok then inCall files (transfer file) transferring
      else endOp files fd fun files => finish files fsStatusError (some 0))
    (ended : ∀ (files : FatFiles fatfs) reply, resume files reply transferring =
      endOp files fd fun files =>
      finish files (statusOf reply.result) (some (reply.count.setWidth 64)))
    (handles : Handles between
      (withOp .file files fd fun file files => inCall files (.fLseek file offset) (seeking file))
      answers last) (finished : last.progress = .finished status result) :
    Transferred params files.table answers status result := by
  subst fdIs
  unfold withOp at handles
  split at handles
  · rename_i invalid
    obtain ⟨_, rfl⟩ := handles.of_finished rfl
    cases finished
    exact .invalidFd valid invalid rfl
  · rename_i handle table begins
    have begun : fdBeginOp .file files.table (paramWord params 0) ≠ none := by
      rw [begins]
      simp
    obtain ⟨_, _, _, _, _, _, rfl, _, _, _, handles⟩ := handles.of_inCall rfl finished
    rw [seeked] at handles
    split at handles
    · obtain ⟨_, _, _, _, _, _, rfl, _, _, _, handles⟩ := handles.of_inCall rfl finished
      rw [ended] at handles
      obtain ⟨rfl, rfl, rfl⟩ := handles.completion_of_endOp finished
      exact .transferred begun rfl (transfers _) rfl rfl rfl
    · obtain ⟨rfl, _, rfl⟩ := handles.completion_of_endOp finished
      exact .seekFailed begun rfl rfl rfl

theorem transferred_of_handled (transfers : type = .fileRead ∨ type = .fileWrite)
    (handled : Handled between type params files answers status result after) :
    Transferred params files.table answers status result := by
  obtain ⟨last, handles, finished, rfl⟩ := handled
  rcases transfers with rfl | rfl <;>
    simp only [operationFunctions, handleFileRead, handleFileWrite] at handles <;>
    split at handles
  · obtain ⟨rfl, rfl⟩ := handles.of_finished rfl
    cases finished
    exact .invalidBuffer ‹_› rfl rfl
  · rename_i data valid
    exact transferred_of_withOp rfl (by rw [valid]; simp) (fun _ => rfl) (fun _ _ _ => rfl)
      (fun _ _ => rfl) handles finished
  · obtain ⟨rfl, rfl⟩ := handles.of_finished rfl
    cases finished
    exact .invalidBuffer ‹_› rfl rfl
  · rename_i data valid
    exact transferred_of_withOp rfl (by rw [valid]; simp) (fun _ => rfl) (fun _ _ _ => rfl)
      (fun _ _ => rfl) handles finished

/-- Whether a result is stored, and that a command that fails stores zero unless a transfer fails
halfway. -/
structure Accounts (type : CmdType) (params : CmdParams) (table : OfTable) (answers : List Answer)
    (status : UInt64T) (result : Option UInt64T) : Prop where
  stored : result ≠ none ↔ Stores type params table answers
  zero : ∀ value, result = some value →
    ((reportsResult type = true → status ≠ fsStatusSuccess → value = 0) ↔ NoneHalfway answers)

theorem noneHalfway_of_others (others : ∀ answer ∈ answers, answer.call.transfers = false) :
    NoneHalfway answers := by
  intro answer member transfers
  rw [others answer member] at transfers
  cases transfers

/-- A command whose calls transfer nothing. -/
theorem Accounts.of_others (stored : result ≠ none ↔ Stores type params table answers)
    (zero : ∀ value, result = some value → status ≠ fsStatusSuccess → value = 0)
    (others : ∀ answer ∈ answers, answer.call.transfers = false) :
    Accounts type params table answers status result where
  stored := stored
  zero value same := iff_of_true (fun _ => zero value same) (noneHalfway_of_others others)

theorem Transferred.accounts (transfers : type = .fileRead ∨ type = .fileWrite)
    (transferred : Transferred params table answers status result) :
    Accounts type params table answers status result := by
  have stores : Stores type params table answers ↔
      fsGetClientBuffer fatFsDataRegionSize (paramBuffer params 2) = none ∨
        fdBeginOp .file table (paramWord params 0) ≠ none := by
    rcases transfers with rfl | rfl <;> rfl
  have reports : reportsResult type = true := by
    rcases transfers with rfl | rfl <;> rfl
  cases transferred with
  | invalidBuffer invalid none stored =>
    subst none stored
    refine .of_others (iff_of_true (by simp) (stores.mpr (.inl invalid))) ?_ (by simp)
    rintro _ ⟨⟩ _
    rfl
  | invalidFd valid invalid notStored =>
    subst notStored
    refine ⟨iff_of_false (by simp) fun stored => ?_, by simp⟩
    rcases stores.mp stored with none | begun
    · exact valid none
    · exact begun invalid
  | seekFailed begun seeks one stored =>
    subst one stored
    refine .of_others (iff_of_true (by simp) (stores.mpr (.inr begun))) ?_ (by simpa using seeks)
    rintro _ ⟨⟩ _
    rfl
  | @transferred begun seek transfer seeks transfers two statusIs stored =>
    subst two statusIs stored
    refine ⟨iff_of_true (by simp) (stores.mpr (.inr begun)), ?_⟩
    rintro _ ⟨⟩
    rw [setWidth_eq_zero_iff, Ne, statusOf_eq_success_iff]
    simp [NoneHalfway, reports, seeks, transfers]

/-- A handler that reads something off an open object. -/
theorem accounts_of_readOff {kind : OfKind} {value : Fin maxOpenFiles → FatFiles fatfs → UInt64T}
    (stores : Stores type params files.table [] ↔
      fdBeginOp kind files.table (paramWord params 0) ≠ none)
    (handles : Handles between
      (withOp kind files (paramWord params 0) fun object files =>
      endOp files (paramWord params 0) fun after =>
      finish after fsStatusSuccess (some (value object files))) answers last)
    (finished : last.progress = .finished status result) :
    Accounts type params files.table answers status result := by
  unfold withOp at handles
  split at handles
  · rename_i invalid
    obtain ⟨rfl, rfl⟩ := handles.of_finished rfl
    cases finished
    exact .of_others (iff_of_false (by simp) fun stored => stores.mp stored invalid) (by simp)
      (by simp)
  · rename_i handle table begins
    obtain ⟨rfl, rfl, rfl⟩ := handles.completion_of_endOp finished
    refine .of_others (iff_of_true (by simp) (stores.mpr ?_)) ?_ (by simp)
    · rw [begins]
      simp
    · exact fun _ _ failed => absurd rfl failed

/-- A handler that opens an object, and what follows the call in which FatFs does. -/
theorem accounts_of_opening {call : FatFsCall} {set : OfTable → UInt64T → Option OfTable}
    {freed : FatFiles fatfs → Option (FatFiles fatfs)} {failed : FatFsReply → UInt64T}
    (stores : ∀ answers, Stores type params table answers ↔
      ∃ answer ∈ answers, answer.reply.result = .ok) (transfers : call.transfers = false)
    (opened : ∀ (files : FatFiles fatfs) reply, resume files reply stage =
      if reply.result = .ok then setNewFd files set
      else asserting files (freed files) fun files => finish files (failed reply) none)
    (waits : segment.progress = .inCall call stage) (handles : Handles between segment answers last)
    (finished : last.progress = .finished status result) :
    Accounts type params table answers status result := by
  obtain ⟨reply, _, middle, _, _, _, rfl, _, _, _, handles⟩ := handles.of_inCall waits finished
  rw [opened] at handles
  split at handles
  · rename_i accepted
    unfold setNewFd at handles
    split at handles
    · obtain ⟨_, rfl⟩ := handles.of_failed rfl
      cases finished
    · obtain ⟨rfl, rfl⟩ := handles.of_finished rfl
      cases finished
      refine .of_others (iff_of_true (by simp) ?_) (fun _ _ failed => absurd rfl failed) ?_
      · exact (stores _).mpr ⟨_, List.mem_singleton_self _, accepted⟩
      · exact List.forall_mem_singleton.mpr transfers
  · rename_i refused
    unfold asserting at handles
    split at handles
    · obtain ⟨_, rfl⟩ := handles.of_failed rfl
      cases finished
    · obtain ⟨rfl, rfl⟩ := handles.of_finished rfl
      cases finished
      refine .of_others (iff_of_false (by simp) fun stored => ?_) (by simp) ?_
      · obtain ⟨answer, member, accepted⟩ := (stores _).mp stored
        rw [List.mem_singleton.mp member] at accepted
        exact refused accepted
      · exact List.forall_mem_singleton.mpr transfers

/-- A command that finishes without any call, and without a result. -/
theorem accounts_of_refused {refusal : UInt64T} (stores : ¬ Stores type params table [])
    (refused : segment.progress = .finished refusal none)
    (handles : Handles between segment answers last)
    (finished : last.progress = .finished status result) :
    Accounts type params table answers status result := by
  obtain ⟨rfl, rfl⟩ := handles.of_finished refused
  rw [refused] at finished
  cases finished
  exact .of_others (iff_of_false (by simp) stores) (by simp) (by simp)

theorem accounts_of_dirRead
    (handles : Handles between (handleDirRead params files) answers last)
    (finished : last.progress = .finished status result) :
    Accounts .dirRead params files.table answers status result := by
  simp only [handleDirRead] at handles
  split at handles
  · exact accounts_of_refused (by simp [Stores]) rfl handles finished
  unfold withOp at handles
  split at handles
  · exact accounts_of_refused (by simp [Stores]) rfl handles finished
  obtain ⟨reply, _, middle, _, _, _, rfl, _, _, _, handles⟩ := handles.of_inCall rfl finished
  simp only [resume] at handles
  split at handles
  · rename_i accepted
    unfold endOp asserting at handles
    split at handles
    · obtain ⟨_, rfl⟩ := handles.of_failed rfl
      cases finished
    · obtain ⟨rfl, rfl⟩ := handles.of_finished rfl
      cases finished
      refine .of_others (iff_of_true (by simp) ⟨_, List.mem_singleton_self _, accepted⟩) ?_
        (List.forall_mem_singleton.mpr rfl)
      rintro _ ⟨⟩ failed
      split at failed
      · rename_i atEnd
        rw [atEnd]
        rfl
      · exact absurd rfl failed
  · rename_i refused
    obtain ⟨rfl, rfl, rfl⟩ := handles.completion_of_endOp finished
    refine .of_others (iff_of_false (by simp) fun stored => ?_) (by simp) ?_
    · obtain ⟨answer, member, accepted⟩ := stored
      rw [List.mem_singleton.mp member] at accepted
      exact refused accepted
    · exact List.forall_mem_singleton.mpr rfl

theorem accounts_of_handled
    (handled : Handled between type params files answers status result after) :
    Accounts type params files.table answers status result := by
  by_cases other : reportsResult type = false
  · obtain ⟨last, handles, finished, rfl⟩ := handled
    have silent := handles.silent (silent_operationFunctions params files other)
    rw [finished] at silent
    have none : result = none := silent
    refine ⟨iff_of_false (not_not_intro none) fun stored => ?_, by simp [none]⟩
    cases type with
    | fileRead | fileWrite | fileOpen | dirOpen | fileSize | dirTell | dirRead => cases other
    | _ => exact stored
  · cases type with
    | fileRead => exact (transferred_of_handled (.inl rfl) handled).accounts (.inl rfl)
    | fileWrite => exact (transferred_of_handled (.inr rfl) handled).accounts (.inr rfl)
    | fileSize =>
      obtain ⟨last, handles, finished, rfl⟩ := handled
      exact @accounts_of_readOff _ _ _ _ _ _ _ _ _ .file
        (fun file files => fatfs.fSize files.volume file) Iff.rfl handles finished
    | dirTell =>
      obtain ⟨last, handles, finished, rfl⟩ := handled
      exact @accounts_of_readOff _ _ _ _ _ _ _ _ _ .dir
        (fun dir files => (fatfs.fTelldir files.volume dir).setWidth 64) Iff.rfl handles finished
    | fileOpen =>
      obtain ⟨last, handles, finished, rfl⟩ := handled
      simp only [operationFunctions, handleFileOpen, withPath] at handles
      split at handles
      · exact accounts_of_refused (by simp [Stores]) rfl handles finished
      · cases allocated : fileAlloc files with
        | none =>
          simp only [allocated] at handles
          exact accounts_of_refused (by simp [Stores]) rfl handles finished
        | some allocation =>
          simp only [allocated] at handles
          exact accounts_of_opening (fun _ => Iff.rfl) rfl (fun _ _ => rfl) rfl handles finished
    | dirOpen =>
      obtain ⟨last, handles, finished, rfl⟩ := handled
      simp only [operationFunctions, handleDirOpen, withPath] at handles
      split at handles
      · exact accounts_of_refused (by simp [Stores]) rfl handles finished
      · cases allocated : dirAlloc files with
        | none =>
          simp only [allocated] at handles
          exact accounts_of_refused (by simp [Stores]) rfl handles finished
        | some allocation =>
          simp only [allocated] at handles
          exact accounts_of_opening (fun _ => Iff.rfl) rfl (fun _ _ => rfl) rfl handles finished
    | dirRead =>
      obtain ⟨last, handles, finished, rfl⟩ := handled
      exact accounts_of_dirRead handles finished
    | _ => exact absurd rfl other

end Storing

/-! ### What a completion depends on -/

theorem completionIn_determined_iff {index : Fin fatThreadNum} {message : FsCmd} {status : UInt64T}
    {result : Option UInt64T} : Determined index message status result ↔ result ≠ none := by
  constructor
  · rintro determined rfl
    have same := determined (started.setResult index 0 0)
      (started.setResult index 0 1)
    simp only [completionIn_eq, setResult, Function.update_self, FsCmpl.mk.injEq] at same
    exact absurd same.2.2 (by decide)
  · intro stored server other
    obtain ⟨value, rfl⟩ := Option.ne_none_iff_exists'.mp stored
    rw [completionIn_eq, completionIn_eq]
    rfl

/-- The completion of a command is the same whatever earlier requests have left in the slot, and
reports zero if the command fails, exactly if the handler comes to store a result and no transfer of
it fails halfway. -/
theorem completion_determined_iff {between : FatFiles fatfs → FatFiles fatfs → Prop}
    {type : CmdType} {message : FsCmd} {files after : FatFiles fatfs} {answers : List Answer}
    {status : UInt64T} {result : Option UInt64T} (index : Fin fatThreadNum)
    (handled : Handled between type message.params files answers status result after) :
    Determined index message status result ∧ ZeroOnFailure type index message status result ↔
      Stores type message.params files.table answers ∧ NoneHalfway answers := by
  have accounts := accounts_of_handled handled
  rw [completionIn_determined_iff, accounts.stored]
  refine and_congr_right fun stores => ?_
  obtain ⟨value, rfl⟩ := Option.ne_none_iff_exists'.mp (accounts.stored.mpr stores)
  rw [← accounts.zero value rfl]
  refine imp_congr_right fun reports => imp_congr_right fun failed => ?_
  simp only [completionIn_eq]
  exact ⟨fun zero => zero started, fun zero _ => zero⟩

/-! ### A size and a read -/

open FatServer (firstWorker)

/-- A command for the size of the file that is open, and one that reads from a descriptor that is
not. -/
def sizeCommand : FsCmd where
  id := 7
  type := 7
  params := paramsOf [0]

def strayRead : FsCmd where
  id := 8
  type := 5
  params := paramsOf [1, 0, 8, 4]

/-- The size is reported whatever has been there before. -/
theorem size_determined : ∃ after,
    HandledAlone .fileSize sizeCommand.params (fileServer true) [] fsStatusSuccess (some 3) after ∧
      Determined firstWorker sizeCommand fsStatusSuccess (some 3) ∧
      ZeroOnFailure .fileSize firstWorker sizeCommand fsStatusSuccess (some 3) := by
  have handled : ∃ after, HandledAlone .fileSize sizeCommand.params (fileServer true) []
      fsStatusSuccess (some 3) after :=
    ⟨_, handledAlone_of_follow (fun _ _ _ _ _ _ same => same)
      (rfl : follow FileVolume.perform 0 _ = some _) rfl⟩
  obtain ⟨after, handled⟩ := handled
  refine ⟨after, handled, (completion_determined_iff firstWorker handled).mpr ⟨?_, ?_⟩⟩
  · exact Option.isSome_iff_ne_none.mp rfl
  · exact noneHalfway_of_others (by simp)

/-- A read from a descriptor that is not open reports the size that the slot's earlier request has
reported, and zero where there was none. -/
theorem size_reported_by_read : ∃ after answers final,
    HandledAlone .fileSize sizeCommand.params (fileServer true) [] fsStatusSuccess (some 3) after ∧
      HandledAlone .fileRead strayRead.params after answers fsStatusInvalidFd none final ∧
      (completionIn started firstWorker strayRead fsStatusInvalidFd none).data = 0 ∧
      (completionIn (started.setResult firstWorker fsStatusSuccess 3) firstWorker
        strayRead fsStatusInvalidFd none).data = 3 := by
  refine ⟨_, _, _, handledAlone_of_follow (fun _ _ _ _ _ _ same => same)
    (rfl : follow FileVolume.perform 0 _ = some _) rfl,
    handledAlone_of_follow (fun _ _ _ _ _ _ same => same)
      (rfl : follow FileVolume.perform 0 _ = some _) rfl, ?_, ?_⟩
  · rfl
  · rfl

end LionsOS.Fat

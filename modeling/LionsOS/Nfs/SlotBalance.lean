/-
This file is about the table of the NFS server over whole runs. Every begin of an
operation is matched by one end, every descriptor of an open that fails is freed and
every descriptor of a close that fails is open again with its handle, so every slot
is free or open whenever no call is pending. The limit is the number of generations
that a descriptor can name: a slot that was freed more often is allocated for good
by the next open that fails.
-/

import LionsOS.Nfs.Requests
import LionsOS.Nfs.SlotHoldings

open Function

namespace LionsOS.Nfs

open LionsOS.Fs StepRun List

namespace NfsSystem

variable {system next : NfsSystem} {free : List (Fin maxConcurrentOps)} {event : NfsEvent}
  {answer : NfsAnswer} {call : Pending} {cmpl : FsCmpl} {index : Nat} {count : Nat}

variable {cont : Fin maxConcurrentOps} {id commandCount : UInt64T} {outcome : Outcome}
  {server : NfsServer} {params : CmdParams} {type : CmdType}

/-- What is busy and allocated in the table is what pending calls hold. -/
def SlotsBalanced (system : NfsSystem) : Prop :=
  Balanced system.server.table system.server.continuationPool system.pending

/-- Where something is opened, the new descriptor can name the generation of its slot. -/
def FreshSlots (system : NfsSystem) : NfsEvent → Prop
  | .handle _ => ∀ command ∈ system.nextCommand, ∀ type, CmdType.ofNumber command.type = some type →
      opensSomething type = true → ∀ fd table, fdAlloc system.server.table = some (fd, table) →
        (table (slotOf fd)).generation.toNat < 2 ^ 64 / maxOpenFiles
  | _ => True

/-- Every slot is free or open, and no operation is begun on it. -/
def Settled (table : OfTable) : Prop :=
  ∀ slot, (table slot).busyCount = 0 ∧
    ((table slot).state = .free ∨ ∃ kind, (table slot).state = .opened kind)

/-- What a step does for the commands that end in it. -/
structure BalancedStep (system : NfsSystem) (event : NfsEvent) (next : NfsSystem) : Prop where
  /-- An operation that is ended was begun. -/
  ended : next.failure ≠ some .noOperation
  /-- A command that fails at once leaves every slot as it was, but for the generation of a
  descriptor that was allocated and freed again. -/
  refused : ∀ answer cmpl, event = .handle answer → next.failure = none →
    next.replies = system.replies ++ [cmpl] → cmpl.status ≠ fsStatusSuccess →
    ∀ slot, OftableSlot.SameUse (system.server.table slot) (next.server.table slot)
  /-- The descriptor allocated for an open that fails is freed. -/
  openFailed : ∀ index reply call, event = .callback index reply →
    system.pending[index]? = some call →
    ((∃ path flags, call.call = .open2 path flags) ∨ ∃ path, call.call = .opendir path) →
    reply.status ≠ 0 → next.failure = none →
      (system.server.table (slotOf (descriptorOf system.server.continuationPool call))).state =
          .allocated ∧
        (next.server.table (slotOf (descriptorOf system.server.continuationPool call))).state =
          .free
  /-- A file that is to be closed is open, and no operation is begun on it. -/
  closing : ∀ answer call file, event = .handle answer → next.pending = call :: system.pending →
    call.call = .close file →
      (system.server.table (slotOf (paramWord call.params 0))).state = .opened .file ∧
        (system.server.table (slotOf (paramWord call.params 0))).handle = file
  /-- A file that could not be closed is open again with its handle. -/
  closeFailed : ∀ index reply call file, event = .callback index reply →
    system.pending[index]? = some call → call.call = .close file → reply.status ≠ 0 →
    next.failure = none →
      (next.server.table (slotOf (paramWord call.params 0))).state = .opened .file ∧
        (next.server.table (slotOf (paramWord call.params 0))).handle = file

/-! ### Steps -/

/-- How a step changes the table. -/
inductive TableStep (system : NfsSystem) (next : NfsSystem) : NfsEvent → Prop
  | other {event : NfsEvent} (table : next.server.table = system.server.table)
      (pool : next.server.continuationPool = system.server.continuationPool)
      (pending : next.pending = system.pending) (failure : next.failure = none)
      (notHandled : ∀ answer, event ≠ .handle answer)
      (notCalled : ∀ index reply, event ≠ .callback index reply) : TableStep system next event
  | handled {answer : NfsAnswer} {noted : NfsSystem} {type : CmdType} {params : CmdParams}
      {id : UInt64T} {outcome : Outcome} (same : next = noted.after type params id outcome)
      (pending : noted.pending = system.pending)
      (replies : noted.replies = system.replies) (failure : noted.failure = none)
      (taken : opensSomething type = true →
        ∃ command ∈ system.nextCommand, CmdType.ofNumber command.type = some type)
      (effect : HandlerEffect system.server.table type params outcome)
      (kept : (∀ failure, outcome.progress ≠ .failed failure) → ∀ call ∈ system.pending,
        outcome.server.continuationPool call.cont = system.server.continuationPool call.cont) :
      TableStep system next (.handle answer)
  | called {index : Nat} {reply : NfsReply} {call : Pending}
      (same : next = ({ system with pending := system.pending.eraseIdx index } : NfsSystem).after
        call.type call.params call.id (callback system.server call.cont reply call.call))
      (found : system.pending[index]? = some call) (failure : system.failure = none)
      (kept : (∀ failure, (callback system.server call.cont reply call.call).progress ≠
          .failed failure) → ∀ other ∈ system.pending.eraseIdx index,
        (callback system.server call.cont reply call.call).server.continuationPool other.cont =
          system.server.continuationPool other.cont) :
      TableStep system next (.callback index reply)

theorem kept_of_answered (answered : Answered server free id outcome)
    (live : ∀ failure, outcome.progress ≠ .failed failure) (outside : cont ∉ free) :
    outcome.server.continuationPool cont = server.continuationPool cont := by
  cases answered with
  | replied own listed kept room completions commands
  | submitted first listed kept taken own completions commands => exact kept cont outside
  | failed possible => exact absurd rfl (live _)

theorem kept_of_returned {called : Fin maxConcurrentOps}
    (returned : Returned server free called outcome)
    (live : ∀ failure, outcome.progress ≠ .failed failure) (outside : cont ∉ called :: free) :
    outcome.server.continuationPool cont = server.continuationPool cont := by
  cases returned with
  | replied own listed kept room completions commands => exact kept cont outside
  | failed possible notSought => exact absurd rfl (live _)

section

variable (owned : system.Owned free)
include owned

/-- Each pending call holds a continuation of its own, so there are few. -/
theorem Owned.few : system.pending.length ≤ maxConcurrentOps := by
  have distinct := (nodup_append.mp owned.distinct).2.1
  have few := distinct.length_le_card
  rw [lent, length_map, Fintype.card_fin] at few
  exact few

theorem Owned.room (holds : NfsCall → Bool) (pool : Fin maxConcurrentOps → Continuation)
    (slot : Fin maxOpenFiles) : heldOn holds pool system.pending slot + 1 < 2 ^ 64 := by
  calc heldOn holds pool system.pending slot + 1
      ≤ system.pending.length + 1 := Nat.succ_le_succ countP_le_length
    _ ≤ maxConcurrentOps + 1 := Nat.succ_le_succ owned.few
    _ < 2 ^ 64 := by decide

/-- The callback of a call leaves the continuations of the other calls alone. -/
theorem Owned.kept_callback {reply : NfsReply} (found : system.pending[index]? = some call)
    (live : ∀ failure, (callback system.server call.cont reply call.call).progress ≠
      .failed failure) {other : Pending} (member : other ∈ system.pending.eraseIdx index) :
    (callback system.server call.cont reply call.call).server.continuationPool other.cont =
      system.server.continuationPool other.cont := by
  have distinct := owned.without found
  have outside : other.cont ∉ call.cont :: free := fun there =>
    (nodup_append.mp distinct).2.2 _ there _ (mem_map_of_mem member) rfl
  by_cases removal : ∃ path, call.call = .rmdir path
  · obtain ⟨path, same⟩ := removal
    rw [same] at live ⊢
    rcases returned_dirRemoveCb owned.listed reply with ⟨_, accesses, after, failed⟩ | returned
    · refine absurd ?_ (live .nullContinuation)
      rw [callback, failed]
    · obtain ⟨taken, rest, rfl, returned⟩ := returned
      exact kept_of_returned returned live fun there => outside (mem_cons_of_mem _ there)
  · have found := mem_of_getElem? found
    exact kept_of_returned (returned_callback owned.listed (owned.outside found)
      (owned.held _ found).1 reply fun path same => removal ⟨path, same⟩) live outside

/-- Taking a command. -/
theorem Owned.tableStep_take (balanced : system.SlotsBalanced) {toConsume : Option UInt64T}
    {index : UInt64T} (live : system.failure = none)
    (processing : system.processing = some { commandCount, toConsume, index }) :
    TableStep system (({ system with
      processing := some { commandCount, toConsume, index := index + 1 } } : NfsSystem).take
        answer index) (.handle answer) := by
  have following := nextCommand_of_processing processing
  unfold NfsSystem.take
  generalize system.server.fsCommandQueue.buffer
    (fsQueueIdxFilled system.server.fsCommandQueue index) = cmd at following ⊢
  cases type : CmdType.ofNumber cmd.type with
  | none =>
    simp only [type]
    have answered : Answered system.server free cmd.id
        (reply system.server (cmplOf cmd.id fsStatusInvalidCommand)) :=
      owned.listed.steady.answered_reply rfl
    refine .handled rfl rfl rfl live ?_ (handlerEffect_reply rfl _)
      fun live call member => kept_of_answered answered live (owned.outside member)
    rintro ⟨⟩
  | some known =>
    simp only [type]
    refine .handled rfl rfl rfl live (fun _ => ⟨cmd, following, type⟩)
      (handlerEffect_cmdHandler balanced.counted (owned.room _ _) rfl) fun live call member => ?_
    by_cases replies : known = .deinitialise
    · subst replies
      rfl
    · exact kept_of_answered
        (answered_cmdHandler owned.listed answer cmd.id cmd.params replies) live
        (owned.outside member)

theorem Owned.tableStep (balanced : system.SlotsBalanced) (step : Step system event next) :
    TableStep system next event := by
  have live := live_of_step step
  cases steps_of_step step with
  | goesOn same notHandled notCalled =>
    exact .other same.table same.pool same.pending (same.failure.trans live) notHandled notCalled
  | handles processing => exact owned.tableStep_take balanced live processing
  | calls found => exact .called rfl found live fun live _ => owned.kept_callback found live

end

theorem after_server (type : CmdType) (params : CmdParams) (id : UInt64T) (outcome : Outcome) :
    (system.after type params id outcome).server = outcome.server := by
  unfold after
  cases outcome.progress <;> rfl

theorem progress_of_live (live : (system.after type params id outcome).failure = none)
    (failure : NfsFailure) : outcome.progress ≠ .failed failure := by
  intro failed
  unfold after at live
  rw [failed] at live
  cases live

theorem SlotsBalanced.first (balanced : system.SlotsBalanced)
    (found : system.pending[index]? = some call) :
    Balanced system.server.table system.server.continuationPool
      (call :: system.pending.eraseIdx index) :=
  Balanced.perm balanced (pending_perm found).symm

/-- The new descriptor for a command. -/
theorem FreshSlots.few (fresh : system.FreshSlots (.handle answer))
    (taken : opensSomething type = true →
      ∃ command ∈ system.nextCommand, CmdType.ofNumber command.type = some type)
    (opens : opensSomething type = true) (fd : UInt64T) (table : OfTable)
    (allocated : fdAlloc system.server.table = some (fd, table)) :
    (table (slotOf fd)).generation.toNat < 2 ^ 64 / maxOpenFiles := by
  obtain ⟨command, following, known⟩ := taken opens
  exact fresh command following type known opens fd table allocated

theorem TableStep.slotsBalanced (step : TableStep system next event) (owned : system.Owned free)
    (balanced : system.SlotsBalanced) (fresh : system.FreshSlots event)
    (live : next.failure = none) : next.SlotsBalanced := by
  cases step with
  | other table pool pending failure notHandled notCalled =>
    rw [SlotsBalanced, table, pool, pending]
    exact balanced
  | handled same pending replies failure taken effect kept =>
    rename_i answer noted type params id outcome
    subst same
    have live := progress_of_live live
    obtain ⟨submits, answers⟩ := balanced.handler (owned.room _ _) effect (kept live)
      (fresh.few taken) live
    unfold SlotsBalanced after
    cases progress : outcome.progress with
    | submitted call cont =>
      simp only [pending]
      exact submits call cont progress id
    | replied cmpl | silent =>
      simp only [pending]
      refine answers fun call cont submitted => ?_
      rw [submitted] at progress
      cases progress
    | failed failure => exact absurd progress (live failure)
  | called same found failure kept =>
    subst same
    have live := progress_of_live live
    have after := ((balanced.first found).callback (callback_table live)).congr (kept live)
    unfold SlotsBalanced NfsSystem.after
    rcases callback_ends (callback_table live) with ⟨cmpl, progress⟩ | ⟨failure, progress, _⟩
    · rw [progress]
      exact after
    · exact absurd progress (live failure)

theorem replied_of_after
    (replied : (system.after type params id outcome).replies = system.replies ++ [cmpl]) :
    outcome.progress = .replied cmpl := by
  have none : system.replies ≠ system.replies ++ [cmpl] := by simp
  unfold after at replied
  cases progress : outcome.progress with
  | replied other =>
    simp only [progress] at replied
    cases append_cancel_left replied
    rfl
  | submitted call cont | silent | failed failure =>
    simp only [progress] at replied
    exact absurd replied none

theorem submitted_of_after {pending : Pending}
    (more : (system.after type params id outcome).pending = pending :: system.pending) :
    outcome.progress = .submitted pending.call pending.cont ∧ pending.params = params := by
  have none : system.pending ≠ pending :: system.pending := by simp
  unfold after at more
  cases progress : outcome.progress with
  | submitted call cont =>
    simp only [progress] at more
    cases (cons.inj more).1
    exact ⟨rfl, rfl⟩
  | replied cmpl | silent | failed failure =>
    simp only [progress] at more
    exact absurd more none

theorem TableStep.ended (step : TableStep system next event) (balanced : system.SlotsBalanced) :
    next.failure ≠ some .noOperation := by
  cases step with
  | other table pool pending failure notHandled notCalled =>
    rw [failure]
    simp
  | handled same pending replies failure taken effect kept =>
    rename_i answer noted type params id outcome
    subst same
    have ends := effect.ends
    unfold after
    cases progress : outcome.progress with
    | failed other =>
      rw [progress] at ends
      simpa using ends
    | submitted call cont | replied cmpl | silent =>
      simp [failure]
  | called same found failure kept =>
    rename_i index reply call
    subst same
    obtain ⟨table, done⟩ := (balanced.first found).callbackTable_isSome reply
    unfold after
    rcases callback_ends done with ⟨cmpl, progress⟩ | ⟨other, progress, ends⟩
    · simp [progress, failure]
    · simpa [progress] using ends

theorem TableStep.balancedStep (step : TableStep system next event)
    (balanced : system.SlotsBalanced) (fresh : system.FreshSlots event) :
    BalancedStep system event next where
  ended := step.ended balanced
  refused answer cmpl isHandle live replied failed slot := by
    subst isHandle
    cases step with
    | other table pool pending failure notHandled => exact absurd rfl (notHandled _)
    | handled same pending replies failure taken effect kept =>
      subst same
      rw [← replies] at replied
      have progress := replied_of_after replied
      rw [after_server]
      exact effect.sameUse (fresh.few taken) progress failed slot
  openFailed index reply call isCallback found opens failed live := by
    subst isCallback
    cases step with
    | other table pool pending failure notHandled notCalled => exact absurd rfl (notCalled _ _)
    | called same here failure kept =>
      cases found.symm.trans here
      subst same
      rw [after_server]
      exact (balanced.first found).openFailed opens failed (callback_table (progress_of_live live))
  closing answer call file isHandle more close := by
    subst isHandle
    cases step with
    | other table pool pending failure notHandled => exact absurd rfl (notHandled _)
    | handled same pending replies failure taken effect kept =>
      subst same
      rw [← pending] at more
      obtain ⟨progress, rfl⟩ := submitted_of_after more
      rw [close] at progress
      exact effect.opened progress
  closeFailed index reply call file isCallback found close failed live := by
    subst isCallback
    cases step with
    | other table pool pending failure notHandled notCalled => exact absurd rfl (notCalled _ _)
    | called same here failure kept =>
      cases found.symm.trans here
      subst same
      rw [after_server]
      exact (balanced.first found).closeFailed close failed (callback_table (progress_of_live live))

/-! ### Runs -/

theorem slotsBalanced_of_initial (initial : system.Initial) : system.SlotsBalanced := by
  unfold SlotsBalanced
  rw [initial.pending]
  refine ⟨OfTable.counted_of_free initial.table, fun slot => ?_, ?_, ?_⟩
  · rw [initial.table]
    rfl
  · simp
  · simp

theorem slotsBalanced_of_run {start : NfsSystem} (initial : start.Initial) {events : List NfsEvent}
    (run : Run (Guarded FreshSlots LiveStep) start events system) :
    (∃ free, system.Owned free) ∧ system.SlotsBalanced := by
  refine run.invariant (fun system => (∃ free, system.Owned free) ∧ system.SlotsBalanced)
    ⟨⟨_, owned_of_initial initial⟩, slotsBalanced_of_initial initial⟩ ?_
  rintro state event next ⟨⟨free, owned⟩, balanced⟩ ⟨fresh, step⟩
  refine ⟨(owned.step step).owned owned, ?_⟩
  exact (owned.tableStep balanced step.1).slotsBalanced owned balanced fresh step.2

theorem SlotsBalanced.settled (balanced : system.SlotsBalanced) (none : system.pending = []) :
    Settled system.server.table := by
  unfold SlotsBalanced at balanced
  rw [none] at balanced
  intro slot
  have counted := balanced.counted slot
  have reserved := balanced.reserved slot
  refine ⟨BitVec.eq_of_toNat_eq counted.count, ?_⟩
  cases state : (system.server.table slot).state with
  | free => exact .inl rfl
  | opened kind => exact .inr ⟨kind, rfl⟩
  | busy kind => exact absurd (counted.busy.mp ⟨kind, state⟩) (Nat.lt_irrefl 0)
  | allocated =>
    rw [if_pos state] at reserved
    cases reserved

/-- As long as no slot is opened that was freed so often that a descriptor cannot name its
generation, the busy counts of the slots are the numbers of pending calls that operate on them and
the allocated slots are those of pending opens and closes. So every slot is free or open whenever no
call is pending; and in every step, whatever fails is undone. -/
theorem slots_settled_of_fresh {start : NfsSystem} (initial : start.Initial)
    {events : List NfsEvent} (run : Run (Guarded FreshSlots LiveStep) start events system) :
    system.SlotsBalanced ∧ (system.pending = [] → Settled system.server.table) ∧
      ∀ event next, system.FreshSlots event → Step system event next →
        BalancedStep system event next := by
  obtain ⟨⟨free, owned⟩, balanced⟩ := slotsBalanced_of_run initial run
  refine ⟨balanced, balanced.settled, fun event next fresh step => ?_⟩
  exact (owned.tableStep balanced step).balancedStep balanced fresh

/-- libnfs fails. -/
def failing : NfsReply :=
  { succeeding with status := -1 }

/-- A file is opened, which fails. -/
theorem settled_after_failed_open :
    ∃ events system, Run LiveStep started events system ∧ system.pending = [] ∧
      (system.server.table (slotOf 0)).generation = 1 ∧ Settled system.server.table := by
  obtain ⟨offered, offers, command, following, known, handled, handles, again, offersAgain, table,
      opened, opens, system, fails, none, generation⟩ :
      ∃ offered, Run LiveStep started (.writeShare (fun _ => 97) :: offering ⟨0, by decide⟩ 6 0)
          offered ∧
        ∃ command, offered.nextCommand = some command ∧ command.type = 0 ∧
        ∃ handled, LiveStep offered (.handle accepting) handled ∧
        ∃ again, Run LiveStep handled ([.publishConsumption, .callback 0 succeeding] ++
          offering ⟨1, by decide⟩ 7 2) again ∧ again.server.table = started.server.table ∧
        ∃ opened, LiveStep again (.handle accepting) opened ∧
        ∃ system, Run LiveStep opened [.publishConsumption, .callback 0 failing] system ∧
          system.pending = [] ∧ (system.server.table (slotOf 0)).generation = 1 := by
    refine ⟨_, run_live (Run.of_foldlM (fun _ _ _ performed => performed) rfl) rfl, ?_⟩
    refine ⟨_, rfl, rfl, _, ⟨rfl, rfl⟩, ?_⟩
    refine ⟨_, run_live (Run.of_foldlM (fun _ _ _ performed => performed) rfl) rfl, rfl, ?_⟩
    refine ⟨_, ⟨rfl, rfl⟩, ?_⟩
    exact ⟨_, run_live (Run.of_foldlM (fun _ _ _ performed => performed) rfl) rfl, rfl, rfl⟩
  have others : ∀ events : List NfsEvent, (∀ answer, .handle answer ∉ events) →
      ∀ event ∈ events, ∀ state : NfsSystem, state.FreshSlots event := by
    intro events notHandled event member state
    cases event with
    | handle answer => exact absurd member (notHandled answer)
    | _ => trivial
  have mounts : offered.FreshSlots (.handle accepting) := by
    intro other found type isType opens
    rw [following] at found
    cases found
    rw [known] at isType
    cases isType
    cases opens
  have fresh : again.FreshSlots (.handle accepting) := by
    intro other found type isType opens fd allocated alloc
    obtain ⟨slot, _, rfl, rfl⟩ := fdAlloc_eq_some alloc
    rw [slotOf_ofToFd, update_self, table]
    exact (by decide : 0 < 2 ^ 64 / maxOpenFiles)
  have run := (((offers.guarded_of_labels (others _ (by simp [offering]))).snoc
    ⟨mounts, handles⟩).trans (offersAgain.guarded_of_labels (others _ (by simp [offering])))).snoc
      ⟨fresh, opens⟩
  have whole := run.trans (fails.guarded_of_labels (others _ (by simp)))
  exact ⟨_, system, whole.of_guarded, none, generation,
    (slots_settled_of_fresh started_initial whole).2.1 none⟩

/-! ### Single steps -/

theorem step_handle {toConsume index : UInt64T} (live : system.failure = none)
    (processing : system.processing = some { commandCount, toConsume := some toConsume, index })
    (more : index < toConsume) :
    Step system (.handle answer) (({ system with
      processing := some { commandCount, toConsume := some toConsume, index := index + 1 } } :
        NfsSystem).take answer index) := by
  simp only [Step, perform, live, processing, more, if_true, Option.isSome_none,
    Bool.false_eq_true, if_false]

theorem step_publishConsumption {toConsume : UInt64T} (live : system.failure = none)
    (processing : system.processing =
      some { commandCount, toConsume := some toConsume, index := toConsume }) :
    Step system .publishConsumption { system with
      server := { system.server with
        fsCommandQueue := fsQueuePublishConsumption system.server.fsCommandQueue toConsume }
      processing := none } := by
  simp only [Step, perform, live, processing, if_true, Option.isSome_none, Bool.false_eq_true,
    if_false]

theorem step_consumeCompletions {amount : UInt64T} (live : system.failure = none)
    (enough : amount ≤ fsQueueLengthConsumer system.server.fsCompletionQueue) :
    Step system (.consumeCompletions amount) (system.client { system.server with
      fsCompletionQueue := fsQueuePublishConsumption system.server.fsCompletionQueue amount }) := by
  simp only [Step, perform, live, if_pos enough, Option.isSome_none, Bool.false_eq_true, if_false]

/-! ### Opens that are refused -/

theorem fdAlloc_of_first {table : OfTable} (free : (table (slotOf 0)).state = .free) :
    let allocated := update table (slotOf 0) { table (slotOf 0) with state := .allocated }
    fdAlloc table = some (ofToFd allocated (slotOf 0), allocated) := by
  have found : (finRange maxOpenFiles).find? (fun slot => (table slot).state = .free) =
      some (slotOf 0) := by
    have first : ∃ rest, finRange maxOpenFiles = slotOf 0 :: rest := ⟨_, finRange_succ⟩
    exact find?_cons_of_pos (decide_eq_true free)
  rw [fdAlloc, ofAlloc, found]
  rfl

/-- libnfs refuses what is submitted. -/
def refusing : NfsAnswer :=
  { accepting with submitted := false }

theorem reply_of_room
    (room : (fsQueueLengthProducer server.fsCompletionQueue).toNat ≠ fsQueueCapacity) :
    reply server cmpl =
      { accesses := []
        server := { server with fsCompletionQueue := pushed server.fsCompletionQueue cmpl }
        progress := .replied cmpl } :=
  if_neg room

theorem handleFileOpen_refused {id : UInt64T} {params : CmdParams} {path : List UInt8T}
    {fd : UInt64T} {allocated : OfTable} {cont : Fin maxConcurrentOps}
    (valid : fsCopyClientPath server.share clientShareSize (paramBuffer params 0) = some path)
    (alloc : fdAlloc server.table = some (fd, allocated)) (first : server.firstFreeCont = some cont)
    (room : (fsQueueLengthProducer server.fsCompletionQueue).toNat ≠ fsQueueCapacity) :
    (handleFileOpen server refusing id params).progress = .replied (cmplOf id fsStatusError) ∧
    (handleFileOpen server refusing id params).server.table = (fdFree allocated fd).getD allocated ∧
    (handleFileOpen server refusing id params).server.firstFreeCont = some cont ∧
    (handleFileOpen server refusing id params).server.fsCompletionQueue =
      pushed server.fsCompletionQueue (cmplOf id fsStatusError) ∧
    (handleFileOpen server refusing id params).server.fsCommandQueue = server.fsCommandQueue := by
  simp only [handleFileOpen, openCall, withPath, valid, NfsServer.writePath, alloc, submitWith,
    withContinuation, continuationAlloc, first, Option.map_some, submit, refusing, freeContinuation,
    continuationFree, update_self, if_true]
  rw [reply_of_room (by exact room)]
  exact ⟨rfl, rfl, rfl, rfl, rfl⟩

/-- The server waits for commands, and the client for nothing. -/
structure Waiting (system : NfsSystem) : Prop where
  commands : system.server.fsCommandQueue.tail = system.server.fsCommandQueue.head
  completions : system.server.fsCompletionQueue.tail = system.server.fsCompletionQueue.head
  first : ∃ cont, system.server.firstFreeCont = some cont
  processing : system.processing = none
  pending : system.pending = []
  failure : system.failure = none

/-- A client's command to open a file. -/
def fileOpening : FsCmd where
  id := 7
  type := 2
  params := paramsOf [0, 1]

/-- The client opens a file, libnfs refuses, and the client takes the completion. -/
def refusedOpen (slot : Fin fsQueueCapacity) : List NfsEvent :=
  [.putCommand slot fileOpening, .publishCommands 1, .readCommandCount, .readCompletionSpace,
    .handle refusing, .publishConsumption, .consumeCompletions 1]

/-- The next slot of the command queue. -/
def nextSlot (system : NfsSystem) : Fin fsQueueCapacity :=
  fsQueueIdxFilled system.server.fsCommandQueue 0

/-- The system when the command is to be taken. -/
def offered (system : NfsSystem) : NfsSystem :=
  { system with
    server := { system.server with
      fsCommandQueue := fsQueuePublishProduction
        (system.server.fsCommandQueue.write system.nextSlot fileOpening) 1 }
    processing := some { commandCount := 1, toConsume := some 1, index := 0 } }

section

variable (waiting : Waiting system)
include waiting

theorem Waiting.offer :
    Run Step system [.putCommand system.nextSlot fileOpening, .publishCommands 1,
      .readCommandCount, .readCompletionSpace] system.offered := by
  have one : system.server.fsCommandQueue.head + 1 - system.server.fsCommandQueue.head = 1 := by
    rw [BitVec.add_comm, BitVec.add_sub_cancel]
  refine Run.of_foldlM (fun _ _ _ performed => performed) ?_
  simp only [offered, List.foldlM_cons, Option.bind_eq_bind, Option.bind_some, perform,
    waiting.failure, waiting.processing, Option.isSome_none, Bool.false_eq_true, if_false, client,
    fsQueuePublishProduction, fsQueueLengthConsumer, fsQueueLengthProducer, FsQueue.write,
    waiting.commands, waiting.completions, one, BitVec.sub_self]
  rfl

section

variable {fd : UInt64T} {allocated : OfTable}
  (alloc : fdAlloc system.server.table = some (fd, allocated))
include alloc

theorem Waiting.handle :
    ∃ handled, Step system.offered (.handle refusing) handled ∧
      handled.server.table = (fdFree allocated fd).getD allocated ∧
      (∃ cont, handled.server.firstFreeCont = some cont) ∧
      handled.server.fsCompletionQueue =
        pushed system.server.fsCompletionQueue (cmplOf 7 fsStatusError) ∧
      handled.server.fsCommandQueue = system.offered.server.fsCommandQueue ∧
      handled.processing = some { commandCount := 1, toConsume := some 1, index := 1 } ∧
      handled.pending = [] ∧ handled.failure = none := by
  obtain ⟨cont, first⟩ := waiting.first
  have empty : fsQueueLengthProducer system.server.fsCompletionQueue = 0 := by
    rw [fsQueueLengthProducer, waiting.completions, BitVec.sub_self]
    rfl
  have room : (fsQueueLengthProducer system.offered.server.fsCompletionQueue).toNat ≠
      fsQueueCapacity := by
    refine ne_of_eq_of_ne (congrArg BitVec.toNat empty) ?_
    decide
  obtain ⟨progress, table, still, completions, commands⟩ :=
    @handleFileOpen_refused system.offered.server 7 (paramsOf [0, 1]) _ fd allocated cont rfl alloc
      first room
  have command : system.offered.server.fsCommandQueue.buffer
      (fsQueueIdxFilled system.offered.server.fsCommandQueue 0) = fileOpening :=
    update_self _ _ _
  have taken : (({ system.offered with
      processing := some { commandCount := 1, toConsume := some 1, index := 0 + 1 } } :
        NfsSystem).take refusing 0) = (({ system.offered with
      processing := some { commandCount := 1, toConsume := some 1, index := 0 + 1 }
      taken := system.offered.taken ++ [7] } : NfsSystem).after .fileOpen (paramsOf [0, 1]) 7
        (handleFileOpen system.offered.server refusing 7 (paramsOf [0, 1]))) := by
    unfold NfsSystem.take
    simp only [command]
    rfl
  have handles := @step_handle system.offered refusing 1 1 0 waiting.failure rfl (by decide)
  rw [taken] at handles
  refine ⟨_, handles, ?_⟩
  rw [after_server]
  refine ⟨table, ⟨cont, still⟩, completions, commands, ?_⟩
  rw [after, progress]
  exact ⟨rfl, waiting.pending, waiting.failure⟩

theorem Waiting.refuse :
    ∃ next, Run Step system (refusedOpen system.nextSlot) next ∧ Waiting next ∧
      next.server.table = (fdFree allocated fd).getD allocated := by
  obtain ⟨handled, handles, table, first, completions, commands, processing, pending, failure⟩ :=
    waiting.handle alloc
  have publishes := step_publishConsumption failure processing
  have one : fsQueueLengthConsumer handled.server.fsCompletionQueue = 1 := by
    rw [completions]
    show system.server.fsCompletionQueue.tail + 1 - system.server.fsCompletionQueue.head = 1
    rw [waiting.completions, BitVec.add_comm, BitVec.add_sub_cancel]
  have consumes := @step_consumeCompletions _ 1
    (show (({ handled with
      server := { handled.server with
        fsCommandQueue := fsQueuePublishConsumption handled.server.fsCommandQueue 1 }
      processing := none } : NfsSystem).failure = none) from failure) (BitVec.le_of_eq one.symm)
  refine ⟨_, ((waiting.offer.snoc handles).snoc publishes).snoc consumes, ?_, table⟩
  refine ⟨?_, ?_, first, rfl, pending, failure⟩
  · rw [commands]
    exact congrArg (· + 1) waiting.commands
  · rw [completions]
    exact congrArg (· + 1) waiting.completions

end

/-! ### A slot that is lost -/

/-- How the first slot is after it was freed so often. -/
def FreedTimes (count : Nat) (system : NfsSystem) : Prop :=
  (system.server.table (slotOf 0)).state = .free ∧
    (system.server.table (slotOf 0)).generation = BitVec.ofNat 64 count

theorem Waiting.refuseFresh (few : count < 2 ^ 64 / maxOpenFiles) (freed : FreedTimes count system) :
    ∃ next, Run Step system (refusedOpen system.nextSlot) next ∧ Waiting next ∧
      FreedTimes (count + 1) next := by
  obtain ⟨free, generation⟩ := freed
  have alloc := fdAlloc_of_first free
  obtain ⟨next, run, waits, table⟩ := waiting.refuse alloc
  have small : (system.server.table (slotOf 0)).generation.toNat < 2 ^ 64 / maxOpenFiles := by
    rw [generation]
    exact (Nat.mod_le _ _).trans_lt few
  refine ⟨next, run, waits, ?_⟩
  generalize named : ofToFd (update system.server.table (slotOf 0)
    { system.server.table (slotOf 0) with state := .allocated }) (slotOf 0) = fd at alloc table
  have slot : slotOf fd = slotOf 0 := named ▸ slotOf_ofToFd _ _
  have current : fdGeneration fd = (system.server.table (slotOf 0)).generation := by
    rw [← named, fdGeneration_ofToFd]
    · rw [update_self]
    · exact small
  rw [← slot] at table current
  rw [fdFree_of_allocated (by rw [update_self])
    (by rw [update_self, current]; exact BitVec.le_refl _), Option.getD_some,
    update_idem, update_self, slot] at table
  unfold FreedTimes
  rw [table]
  refine ⟨rfl, ?_⟩
  rw [generation]
  exact (BitVec.ofNat_add count 1).symm

theorem Waiting.freeAgain (freed : FreedTimes 0 system) (most : count ≤ 2 ^ 64 / maxOpenFiles) :
    ∃ events next, Run Step system events next ∧ Waiting next ∧ FreedTimes count next := by
  induction count with
  | zero => exact ⟨[], system, Run.nil, waiting, freed⟩
  | succ count inductionHypothesis =>
    obtain ⟨events, middle, before, waits, freed⟩ :=
      inductionHypothesis (Nat.le_of_succ_le most)
    obtain ⟨next, last, waits, freed⟩ := waits.refuseFresh most freed
    exact ⟨_, next, before.trans last, waits, freed⟩

theorem Waiting.lose (freed : FreedTimes (2 ^ 64 / maxOpenFiles) system) :
    ∃ next, Run Step system (refusedOpen system.nextSlot) next ∧ Waiting next ∧
      (next.server.table (slotOf 0)).state = .allocated := by
  obtain ⟨free, generation⟩ := freed
  have alloc := fdAlloc_of_first free
  obtain ⟨next, run, waits, table⟩ := waiting.refuse alloc
  refine ⟨next, run, waits, ?_⟩
  have zero : ofToFd (update system.server.table (slotOf 0)
      { system.server.table (slotOf 0) with state := .allocated }) (slotOf 0) = 0 := by
    rw [ofToFd, update_self, generation]
    rfl
  rw [zero] at table
  have passed : fdFree (update system.server.table (slotOf 0)
      { system.server.table (slotOf 0) with state := .allocated }) 0 = none := by
    rw [fdFree, onSlot, fdToOf_eq, update_self, generation]
    rfl
  rw [table, passed, Option.getD_none, update_self]

end

/-- A client opens a file again and again, which libnfs refuses every time. When the first slot has
been freed so often that its generation is more than a descriptor can name, the descriptor of the
next open is not freed, and the slot stays allocated while no call is pending. -/
theorem slot_lost_after_refused_opens :
    started.Initial ∧ ∃ events system, Run LiveStep started events system ∧ system.pending = [] ∧
      (system.server.table (slotOf 0)).state = .allocated ∧ ¬Settled system.server.table := by
  obtain ⟨mounted, mounts, waiting, freed⟩ : ∃ mounted,
      Run Step started (mounting ++ [.consumeCompletions 1]) mounted ∧ Waiting mounted ∧
        FreedTimes 0 mounted := by
    refine ⟨_, Run.of_foldlM (fun _ _ _ performed => performed) rfl, ?_, ⟨rfl, rfl⟩⟩
    exact ⟨rfl, rfl, ⟨_, rfl⟩, rfl, rfl, rfl⟩
  obtain ⟨events, full, opens, waiting, freed⟩ := waiting.freeAgain freed le_rfl
  obtain ⟨system, last, waiting, lost⟩ := waiting.lose freed
  refine ⟨started_initial, _, system, run_live ((mounts.trans opens).trans last) waiting.failure,
    waiting.pending, lost, fun settled => ?_⟩
  rcases (settled (slotOf 0)).2 with free | ⟨kind, opened⟩
  · rw [free] at lost
    cases lost
  · rw [opened] at lost
    cases lost

end NfsSystem

end LionsOS.Nfs

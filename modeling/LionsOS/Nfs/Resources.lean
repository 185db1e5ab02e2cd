/-
This file proves when none of the NFS server's resource assertions fails. A call of
`process_commands` takes no more commands than there is space in the completion
queue, but does not count the calls in flight, whose completions are still to come
and which hold continuations. Where both are counted for every command that is
handled, each reply finds a slot and each request a continuation. Where they are
not, a client that consumes nothing while one call is slow makes the reply to this
call fail.
-/

import LionsOS.Nfs.Requests

namespace LionsOS.Nfs

open LionsOS.Fs StepRun

namespace NfsSystem

variable {system next : NfsSystem} {free : List (Fin maxConcurrentOps)} {event : NfsEvent}
  {answer : NfsAnswer} {call : NfsCall}

variable {index count : Nat} {failure : NfsFailure} {id : UInt64T} {outcome : Outcome}
  {params : CmdParams} {type : CmdType} {server : NfsServer} {cont : Fin maxConcurrentOps}
  {reply : NfsReply}

/-- How many completions are not consumed or still to come from calls in flight. -/
def claimed (system : NfsSystem) : Nat :=
  system.unconsumed + system.pending.length

/-- Where a command is handled, there is a slot for its completion that nothing claims, and a
continuation for it. -/
def Limited (system : NfsSystem) : NfsEvent → Prop
  | .handle _ => system.claimed < fsQueueCapacity ∧ system.server.firstFreeCont ≠ none
  | _ => True

/-! ### Completions -/

theorem unconsumed_of_pushed {cmpl : FsCmpl}
    (completions : next.server.fsCompletionQueue = pushed system.server.fsCompletionQueue cmpl)
    (room : system.unconsumed < fsQueueCapacity) : next.unconsumed = system.unconsumed + 1 := by
  rw [unconsumed, completions]
  refine toNat_add_sub ?_
  calc system.unconsumed + 1 ≤ fsQueueCapacity := room
    _ < 2 ^ 64 := by decide

theorem length_eraseIdx_of_found {pending : Pending} (found : system.pending[index]? = some pending) :
    (system.pending.eraseIdx index).length + 1 = system.pending.length :=
  (pending_perm found).length_eq

theorem RequestStep.claimed_le (step : RequestStep system free next event)
    (before : system.claimed ≤ fsQueueCapacity) (limited : system.Limited event) :
    next.claimed ≤ fsQueueCapacity := by
  unfold claimed at before ⊢
  cases step with
  | other same answerable =>
    rw [same.pending]
    exact (Nat.add_le_add_right same.completions _).trans before
  | replied own owned pending taken replies completions answerable =>
    have room : system.unconsumed + system.pending.length < fsQueueCapacity := limited.1
    rw [pending, unconsumed_of_pushed completions (Nat.lt_of_le_of_lt (Nat.le_add_right _ _) room),
      Nat.add_right_comm]
    exact room
  | submitted own first owned more taken replies completions answerable =>
    have room : system.unconsumed + system.pending.length < fsQueueCapacity := limited.1
    rw [more, unconsumed, completions]
    exact room
  | silent same unanswerable =>
    rw [same.pending]
    exact (Nat.add_le_add_right same.completions _).trans before
  | called found own owned fewer taken replies completions answerable
  | lost found owned fewer completions unanswerable =>
    have fewerByOne := length_eraseIdx_of_found found
    rw [fewer, unconsumed_of_pushed completions (by omega)]
    omega

/-! ### Failures -/

theorem failed_of_after (failed : (system.after type params id outcome).failure = some failure)
    (live : system.failure = none) : outcome.progress = .failed failure := by
  obtain ⟨accesses, pathWrites, server, progress⟩ := outcome
  cases progress with
  | failed other =>
    cases failed
    rfl
  | submitted call cont | replied cmpl | silent =>
    exact absurd (live.symm.trans failed) (by simp)

theorem failed_after (failed : outcome.progress = .failed failure) :
    (system.after type params id outcome).failure = some failure := by
  unfold after
  rw [failed]

theorem possible_of_answered (answered : Answered server free id outcome)
    (failed : outcome.progress = .failed failure) : Possible server free failure := by
  cases answered with
  | failed possible =>
    cases failed
    exact possible
  | replied own listed kept room completions commands => cases failed
  | submitted first listed kept taken own completions commands => cases failed

theorem possible_of_returned (returned : Returned server free cont outcome)
    (failed : outcome.progress = .failed failure) :
    Possible server free failure ∧ failure ≠ .noContinuation := by
  cases returned with
  | failed possible notSought =>
    cases failed
    exact ⟨possible, notSought⟩
  | replied own listed kept room completions commands => cases failed

/-- What has to be so where a resource assertion fails. -/
structure FailedStep (system : NfsSystem) (event : NfsEvent) (failure : NfsFailure) : Prop where
  noContinuation : failure = .noContinuation →
    (∃ answer, event = .handle answer) ∧ system.server.firstFreeCont = none
  completionQueueFull : failure = .completionQueueFull → system.unconsumed = fsQueueCapacity ∧
    ((∃ answer, event = .handle answer) ∨ 0 < system.pending.length)

theorem FailedStep.of_handle (listed : system.server.Free free)
    (possible : Possible system.server free failure) :
    FailedStep system (.handle answer) failure where
  noContinuation := by
    rintro rfl
    have none : free = [] := possible
    have listed := none ▸ listed.listed
    refine ⟨⟨answer, rfl⟩, ?_⟩
    cases first : system.server.firstFreeCont with
    | none => rfl
    | some cont =>
      rw [first] at listed
      obtain ⟨rest, impossible, _⟩ := listed.take
      cases impossible
  completionQueueFull := by
    rintro rfl
    exact ⟨possible, Or.inl ⟨answer, rfl⟩⟩

theorem FailedStep.of_callback (some : 0 < system.pending.length)
    (possible : failure ≠ .noContinuation ∧ (failure = .completionQueueFull →
      system.unconsumed = fsQueueCapacity)) :
    FailedStep system (.callback index reply) failure where
  noContinuation := fun same => absurd same possible.1
  completionQueueFull := fun same => ⟨possible.2 same, Or.inr some⟩

theorem Owned.failed_take (owned : system.Owned free) {index : UInt64T}
    {later : Option ProcessCommands} (live : system.failure = none)
    (failed : (({ system with processing := later } : NfsSystem).take answer index).failure =
      some failure) : FailedStep system (.handle answer) failure := by
  refine .of_handle owned.listed ?_
  unfold NfsSystem.take at failed
  generalize system.server.fsCommandQueue.buffer
    (fsQueueIdxFilled system.server.fsCommandQueue index) = cmd at failed
  cases type : CmdType.ofNumber cmd.type with
  | none =>
    simp only [type] at failed
    have answered : Answered system.server free cmd.id
        (reply system.server (cmplOf cmd.id fsStatusInvalidCommand)) :=
      owned.listed.steady.answered_reply rfl
    exact possible_of_answered answered (failed_of_after failed live)
  | some known =>
    simp only [type] at failed
    have progress := failed_of_after failed live
    by_cases silent : known = .deinitialise
    · subst silent
      cases progress
    · exact possible_of_answered
        (answered_cmdHandler owned.listed answer cmd.id cmd.params silent) progress

theorem Owned.failed_callback (owned : system.Owned free) (live : system.failure = none)
    (found : system.pending[index]? = some { type, params, id, call, cont })
    (failed : (({ system with pending := system.pending.eraseIdx index } : NfsSystem).after type
      params id (callback system.server cont reply call)).failure = some failure) :
    FailedStep system (.callback index reply) failure := by
  have member := List.mem_of_getElem? found
  have progress := failed_of_after failed live
  refine .of_callback (List.length_pos_of_mem member) ?_
  by_cases removal : ∃ path, call = .rmdir path
  · obtain ⟨path, rfl⟩ := removal
    rcases returned_dirRemoveCb owned.listed reply with ⟨_, accesses, after, ends⟩ | returned
    · simp only [callback, ends] at progress
      cases progress
      exact ⟨by simp, by simp⟩
    · obtain ⟨other, rest, _, returned⟩ := returned
      obtain ⟨possible, notSought⟩ := possible_of_returned returned progress
      refine ⟨notSought, ?_⟩
      rintro rfl
      exact possible
  · have returned := returned_callback owned.listed (owned.outside member)
      (owned.held _ member).1 reply fun path same => removal ⟨path, same⟩
    obtain ⟨possible, notSought⟩ := possible_of_returned returned progress
    refine ⟨notSought, ?_⟩
    rintro rfl
    exact possible

theorem Owned.failed (owned : system.Owned free) {failure : NfsFailure}
    (step : Step system event next) (failed : next.failure = some failure) :
    FailedStep system event failure := by
  have live := live_of_step step
  cases steps_of_step step with
  | handles => exact owned.failed_take live failed
  | calls found => exact owned.failed_callback live found failed
  | goesOn same => exact absurd (live.symm.trans (same.failure.symm.trans failed)) (by simp)

/-! ### Runs -/

/-- While no assertion has failed, each continuation has one holder and no more completions are
claimed than there are slots; and no resource assertion has failed. -/
structure Resourceful (system : NfsSystem) : Prop where
  owned : system.failure = none → ∃ free, system.Owned free
  claimed : system.failure = none → system.claimed ≤ fsQueueCapacity
  continuations : system.failure ≠ some .noContinuation
  completions : system.failure ≠ some .completionQueueFull

theorem Resourceful.step (before : system.Resourceful) (limited : system.Limited event)
    (step : Step system event next) : next.Resourceful := by
  have live := live_of_step step
  obtain ⟨free, owned⟩ := before.owned live
  have claimed := before.claimed live
  refine ⟨fun lives => ?_, fun lives => ?_, fun failed => ?_, fun failed => ?_⟩
  · exact (owned.step ⟨step, lives⟩).owned owned
  · exact (owned.step ⟨step, lives⟩).claimed_le claimed limited
  · obtain ⟨⟨answer, rfl⟩, none⟩ := (owned.failed step failed).noContinuation rfl
    exact limited.2 none
  · obtain ⟨full, handles | some⟩ := (owned.failed step failed).completionQueueFull rfl
    · obtain ⟨answer, rfl⟩ := handles
      have room : system.unconsumed + system.pending.length < fsQueueCapacity := limited.1
      omega
    · unfold NfsSystem.claimed at claimed
      omega

/-- While the mount is in flight, more commands to initialise are refused, each with a completion
that the client does not consume. -/
structure Refusing (count : Nat) (system : NfsSystem) : Prop where
  nfs : system.server.nfs = true
  commands : ∀ slot, (system.server.fsCommandQueue.buffer slot).type = 0
  head : system.server.fsCompletionQueue.head = 0
  tail : system.server.fsCompletionQueue.tail = BitVec.ofNat 64 count
  processing : system.processing =
    some { commandCount := 511, toConsume := some 511, index := BitVec.ofNat 64 count }
  mounts : ∃ params id, system.pending =
    [{ type := .initialise, params, id, call := .mount, cont := ⟨0, by decide⟩ }]
  held : (system.server.continuationPool ⟨0, by decide⟩).nextFree = none
  failure : system.failure = none

theorem Refusing.unconsumed (refusing : Refusing count system) (small : count ≤ fsQueueCapacity) :
    system.unconsumed = count := by
  rw [NfsSystem.unconsumed, fsQueueLengthProducer, refusing.head, refusing.tail,
    show BitVec.ofNat 64 count - 0 = BitVec.ofNat 64 count from BitVec.sub_zero _,
    BitVec.toNat_ofNat, Nat.mod_eq_of_lt (small.trans_lt (by decide))]

theorem Refusing.handle (refusing : Refusing count system) (more : count < fsQueueCapacity) :
    ∃ next, Step system (.handle accepting) next ∧ Refusing (count + 1) next := by
  have inside : BitVec.ofNat 64 count < (511 : UInt64T) := by
    rw [BitVec.lt_def, BitVec.toNat_ofNat, Nat.mod_eq_of_lt (more.trans (by decide))]
    exact more
  have room : (fsQueueLengthProducer system.server.fsCompletionQueue).toNat ≠ fsQueueCapacity :=
    (refusing.unconsumed more.le).trans_ne more.ne
  have known : CmdType.ofNumber 0 = some .initialise := rfl
  have index : BitVec.ofNat 64 count + 1 = BitVec.ofNat 64 (count + 1) :=
    (BitVec.ofNat_add count 1).symm
  refine ⟨({ system with
    processing := some ⟨511, some 511, BitVec.ofNat 64 count + 1⟩ } : NfsSystem).take accepting
      (BitVec.ofNat 64 count), ?_, ?_⟩
  · simp only [Step, perform, refusing.failure, refusing.processing, inside, if_true,
      Option.isSome_none, Bool.false_eq_true, if_false]
  · simp only [NfsSystem.take, refusing.commands, known, cmdHandler, handleInitialise,
      refusing.nfs, if_true, reply, if_neg room, after]
    exact ⟨rfl, refusing.commands, refusing.head,
      (congrArg (· + 1) refusing.tail).trans index, by rw [index], refusing.mounts, refusing.held,
      refusing.failure⟩

theorem Refusing.run {start : NfsSystem} (refusing : Refusing 0 start)
    (most : count ≤ fsQueueCapacity) :
    ∃ next, Run Step start (List.replicate count (.handle accepting)) next ∧
      Refusing count next := by
  induction count with
  | zero => exact ⟨start, Run.nil, refusing⟩
  | succ count inductionHypothesis =>
    obtain ⟨middle, before, refusing⟩ := inductionHypothesis (Nat.le_of_succ_le most)
    obtain ⟨next, last, refusing⟩ := refusing.handle most
    rw [List.replicate_succ']
    exact ⟨next, before.snoc last, refusing⟩

theorem step_callback (live : system.failure = none)
    (found : system.pending[index]? = some { type, params, id, call, cont }) :
    Step system (.callback index reply) (({ system with
      pending := system.pending.eraseIdx index } : NfsSystem).after type params id
        (callback system.server cont reply call)) := by
  simp only [Step, perform, live, found, Option.isSome_none, Bool.false_eq_true, if_false]

/-- Where no slot is left, a continuation is put back and the reply fails. -/
theorem freeAndReply_of_full {status data : UInt64T}
    (held : (server.continuationPool cont).nextFree = none)
    (full : (fsQueueLengthProducer server.fsCompletionQueue).toNat = fsQueueCapacity) :
    (freeAndReply server cont status data).progress = .failed .completionQueueFull := by
  simp only [freeAndReply, freeContinuation, continuationFree, held, if_true, reply, full, Nfs.fail]

theorem Refusing.fail (refusing : Refusing fsQueueCapacity system) :
    ∃ next, Run Step system [.publishConsumption, .callback 0 succeeding] next ∧
      next.failure = some .completionQueueFull := by
  obtain ⟨params, id, pending⟩ := refusing.mounts
  have consumes : Step system .publishConsumption { system with
      server := { system.server with
        fsCommandQueue := fsQueuePublishConsumption system.server.fsCommandQueue 511 }
      processing := none } := by
    simp only [Step, perform, refusing.failure, refusing.processing, Option.isSome_none]
    rfl
  exact ⟨_, (Run.single consumes).snoc (step_callback refusing.failure (congrArg (·[0]?) pending)),
    failed_after (freeAndReply_of_full refusing.held (refusing.unconsumed le_rfl))⟩

end NfsSystem

end LionsOS.Nfs

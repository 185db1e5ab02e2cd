/-
This file proves the rule written above `notified`: when it returns, the server
may wait for the next notification. No worker is left that could run, the slots
in use are those of workers that wait for the block device, and commands are
only left in the queue if all workers wait, or if they came after the queue was
measured, or if there is no room for their completions. What a call has measured
and dequeued is written down beside the server.
-/

import LionsOS.Fat.Completions

open Function

namespace LionsOS.Fat

open LionsOS.Fs StepRun

variable {call : NotifiedCall} {server : FatServer} {after : NotifiedCall} {state : CoState}

/-! ### What a call has measured and dequeued -/

/-- The server, with the lengths of the queues that the current call has read and the commands it
has dequeued. -/
structure CallRecord where
  server : FatServer
  commandsCounted : Option UInt64T
  completionsCounted : Option UInt64T
  dequeued : List FsCmd

namespace CallRecord

def opening (server : FatServer) : CallRecord where
  server := server
  commandsCounted := none
  completionsCounted := none
  dequeued := []

/-- What is written down when the server goes on to `next`. A new call starts a new page. -/
def note (record : CallRecord) (next : FatServer) : FatEvent → CallRecord
  | .notified => opening next
  | .readCommandQueueSize =>
    { record with
      server := next
      commandsCounted := some (fsQueueLengthConsumer record.server.fsCommandQueue) }
  | .readCompletionQueueSize =>
    { record with
      server := next
      completionsCounted := some (fsQueueLengthProducer record.server.fsCompletionQueue) }
  | event =>
    { record with
      server := next
      dequeued := record.dequeued ++ (record.server.commandOf event).toList }

def perform (record : CallRecord) (event : FatEvent) : Option CallRecord :=
  (record.server.perform event).map fun next => record.note next event

/-- The commands that were dequeued and for which a worker was started. -/
def accepted (record : CallRecord) : List FsCmd :=
  record.dequeued.filter fun command => command.type < fsNumCommands

/-- Every command that was in the queue when its length was read has been dequeued. -/
def AllDequeued (record : CallRecord) : Prop :=
  ∃ counted, record.commandsCounted = some counted ∧ record.dequeued.length = counted.toNat

/-- The completions in the queue when its length was read, and those of the commands accepted
since, fill it. -/
def BudgetUsedUp (record : CallRecord) : Prop :=
  ∃ counted, record.completionsCounted = some counted ∧
    counted + BitVec.ofNat 64 record.accepted.length = BitVec.ofNat 64 fsQueueCapacity

end CallRecord

def CallStep (record : CallRecord) (event : FatEvent) (next : CallRecord) : Prop :=
  record.perform event = some next

namespace NotifiedCall

/-- From here to the end of the call, no worker runs unless another request is popped. -/
def Settled (call : NotifiedCall) : Prop :=
  match call.stage with
  | .responses | .yielding => False
  | .reaping _ | .publishing => True
  | .popping | .counting => call.newRequestPopped = false

end NotifiedCall

namespace FatServer

variable {handle : Fin fatThreadNum}

/-! ### No worker is left that could run -/

/-- The loop itself runs in a cothread of its own, without a request. Once the workers have settled,
none is ready; and the call only ends when no handle is free or popping had to stop. -/
structure Settling (server : FatServer) : Prop where
  alone : ∀ handle, server.cothread handle = .running → handle = eventThread
  unused : (server.requestPool eventThread).stat = .free
  settled : ∀ call, server.call = some call → call.Settled →
    ∀ handle, server.cothread handle ≠ .ready
  stopped : ∀ call, server.call = some call → call.stage = .publishing →
    ¬ server.FreeHandleAvailable ∨ call.queueSizeInit = true ∧ popped call = true

variable {next : FatServer} {event : FatEvent}

theorem Initial.settling (initial : server.Initial) : server.Settling where
  alone handle running := by
    by_contra other
    rw [initial.workers handle other] at running
    cases running
  unused := initial.free eventThread
  settled call current := by
    rw [initial.idle] at current
    cases current
  stopped call current := by
    rw [initial.idle] at current
    cases current

section

variable (settling : server.Settling) (sameCothread : next.cothread = server.cothread)
  (samePool : next.requestPool eventThread = server.requestPool eventThread)
include settling sameCothread samePool

theorem Settling.of_same (sameCall : next.call = server.call) : next.Settling where
  alone := sameCothread ▸ settling.alone
  unused := samePool ▸ settling.unused
  settled := by
    rw [sameCall, sameCothread]
    exact settling.settled
  stopped := by
    have same : next.FreeHandleAvailable ↔ server.FreeHandleAvailable := by
      rw [FreeHandleAvailable, FreeHandleAvailable, sameCothread]
    rw [sameCall, same]
    exact settling.stopped

theorem Settling.of_call (current : next.call = some call) (more : call.stage ≠ .publishing)
    (settled : call.Settled → ∀ handle, server.cothread handle ≠ .ready) : next.Settling where
  alone := sameCothread ▸ settling.alone
  unused := samePool ▸ settling.unused
  settled other same := by
    rw [current, Option.some.injEq] at same
    rw [← same, sameCothread]
    exact settled
  stopped other same last := by
    rw [current, Option.some.injEq] at same
    rw [← same] at last
    exact absurd last more

end

/-- A cothread has gone on, at a stage at which they may. -/
theorem Settling.of_worker (settling : server.Settling) (notRunning : state ≠ .running)
    (sameCothread : next.cothread = update server.cothread handle state)
    (unused : (next.requestPool eventThread).stat = .free)
    (unsettled : ∀ call, next.call = some call → ¬ call.Settled ∧ call.stage ≠ .publishing) :
    next.Settling where
  alone other running := by
    rw [sameCothread] at running
    by_cases here : other = handle
    · subst here
      rw [update_self] at running
      exact absurd running notRunning
    · rw [update_of_ne here] at running
      exact settling.alone other running
  unused := unused
  settled call current settled := absurd settled (unsettled call current).1
  stopped call current last := absurd last (unsettled call current).2

theorem not_settled_of_responses (stage : call.stage = .responses) : ¬ call.Settled := by
  rw [NotifiedCall.Settled, stage]
  exact id

theorem not_settled_of_yielding (stage : call.stage = .yielding) : ¬ call.Settled := by
  rw [NotifiedCall.Settled, stage]
  exact id

theorem settled_of_reaping {slots : List (Fin fatThreadNum)} (stage : call.stage = .reaping slots) :
    call.Settled := by
  rw [NotifiedCall.Settled, stage]
  trivial

theorem settled_of_popping (stage : call.stage = .popping ∨ call.stage = .counting) :
    call.Settled ↔ call.newRequestPopped = false := by
  unfold NotifiedCall.Settled
  rcases stage with stage | stage
  · rw [stage]
  · rw [stage]

/-- A worker that may run at this stage of the call goes on. -/
theorem Settling.work (settling : server.Settling) (current : server.call = some call)
    (unsettled : ¬ call.Settled) (more : call.stage ≠ .publishing) (notRunning : state ≠ .running)
    (sameCothread : next.cothread = update server.cothread handle state)
    (unused : (next.requestPool eventThread).stat = .free) (sameCall : next.call = server.call) :
    next.Settling := by
  refine settling.of_worker notRunning sameCothread unused fun other same => ?_
  rw [sameCall, current, Option.some.injEq] at same
  subst same
  exact ⟨unsettled, more⟩

theorem step_settling (settling : server.Settling) (sound : server.PoolSound)
    (step : FatStep server event next) : next.Settling := by
  cases acts step with
  | putCommand | publishCommands
  | consumeCompletions published => exact settling.of_same rfl rfl rfl
  | notified idle =>
    exact settling.of_call rfl rfl rfl (by decide) fun settled =>
      absurd settled (not_settled_of_responses rfl)
  | blkResponse current stage blocked =>
    exact settling.work current (not_settled_of_responses stage) (by rw [stage]; decide)
      (by decide) rfl settling.unused rfl
  | yield current stage =>
    exact settling.of_call rfl rfl rfl (fun last => nomatch last) fun settled =>
      absurd settled (not_settled_of_yielding rfl)
  | block current stage ready =>
    exact settling.work current (not_settled_of_yielding stage) (by rw [stage]; decide)
      (by decide) rfl settling.unused rfl
  | @finish call handle status result current stage ready =>
    refine settling.work current (not_settled_of_yielding stage) (by rw [stage]; decide)
      (by decide) rfl ?_ rfl
    show (update server.requestPool handle _ eventThread).stat = .free
    have other : eventThread ≠ handle := by
      rintro rfl
      rw [sound.running] at ready
      cases ready
    rw [update_of_ne other]
    exact settling.unused
  | resume current stage settled =>
    exact settling.of_call rfl rfl rfl (fun last => nomatch last) fun _ => settled
  | reaped current stage =>
    exact settling.of_call rfl rfl rfl (fun last => nomatch last) fun _ =>
      settling.settled _ current (settled_of_reaping stage)
  | @respond call slot rest current stage finished =>
    refine settling.of_call rfl ?_ rfl (fun last => nomatch last) fun _ =>
      settling.settled _ current (settled_of_reaping stage)
    refine respond_requestPool_of_ne _ _ ?_
    rintro rfl
    have used := stat_of_finished finished
    rw [settling.unused] at used
    cases used
  | skip current stage unfinished =>
    exact settling.of_call rfl rfl rfl (fun last => nomatch last) fun _ =>
      settling.settled _ current (settled_of_reaping stage)
  | readCommandQueueSize current stage unknown available =>
    refine settling.of_call rfl rfl rfl (fun last => nomatch last) fun settled => ?_
    have popped := (settled_of_popping (Or.inr rfl)).mp settled
    exact settling.settled _ current ((settled_of_popping (Or.inl stage)).mpr popped)
  | readCompletionQueueSize current stage =>
    refine settling.of_call rfl rfl rfl (fun last => nomatch last) fun settled => ?_
    have popped := (settled_of_popping (Or.inl rfl)).mp settled
    exact settling.settled _ current ((settled_of_popping (Or.inr stage)).mpr popped)
  | @pop call index current stage known available more =>
    by_cases accepted : (server.nextCommand call).type < fsNumCommands
    · rw [pop_of_known index accepted]
      refine settling.of_worker (by decide : CoState.ready ≠ .running) rfl ?_ ?_
      · have other : eventThread ≠ index := by
          rintro rfl
          rw [sound.running] at available
          cases available
        show (update server.requestPool index _ eventThread).stat = .free
        rw [update_of_ne other]
        exact settling.unused
      · intro other same
        cases same
        refine ⟨fun settled => ?_, fun last => ?_⟩
        · have popped := (settled_of_popping (by exact Or.inl stage)).mp settled
          cases popped
        · rw [stage] at last
          cases last
    · rw [pop, if_pos (BitVec.not_lt.mp accepted)]
      refine settling.of_call rfl rfl rfl (fun last => ?_) fun settled => ?_
      · rw [stage] at last
        cases last
      · have popped := (settled_of_popping (Or.inl stage)).mp settled
        exact settling.settled _ current ((settled_of_popping (Or.inl stage)).mpr popped)
  | @stop call current stage done =>
    cases popped : call.newRequestPopped with
    | true =>
      exact settling.of_call rfl rfl rfl (fun last => nomatch last) fun settled =>
        absurd settled (not_settled_of_responses rfl)
    | false =>
      have quiet := settling.settled _ current ((settled_of_popping (Or.inl stage)).mpr popped)
      refine ⟨settling.alone, settling.unused, fun _ same _ => quiet, fun other same last => ?_⟩
      cases same
      exact done
  | publish current stage =>
    refine ⟨settling.alone, settling.unused, fun other same => ?_, fun other same => ?_⟩
    · cases same
    · cases same

end FatServer

/-! ### What is left in the queue -/

namespace CallRecord

/-- What the call still counts on is what was measured, less what it has dequeued, and more what it
has accepted. -/
structure Counted (record : CallRecord) (call : NotifiedCall) : Prop where
  measured : call.queueSizeInit = true → ∃ commands completions,
    record.commandsCounted = some commands ∧ record.completionsCounted = some completions ∧
    commands.toNat = record.dequeued.length + call.commandQueueSize.toNat ∧
    call.completionQueueSize = completions + BitVec.ofNat 64 record.accepted.length
  unmeasured : call.queueSizeInit = false → record.dequeued = []
  halfway : call.stage = .counting → call.queueSizeInit = false ∧
    record.commandsCounted = some call.commandQueueSize

/-- During a call, the books are those of this call. -/
def InCall (record : CallRecord) : Prop :=
  ∀ call, record.server.call = some call → record.Counted call

variable {record next : CallRecord} {event : FatEvent}

theorem callStep_eq_some (step : CallStep record event next) :
    ∃ server, FatStep record.server event server ∧ next = record.note server event := by
  obtain ⟨server, performed, same⟩ := Option.map_eq_some_iff.mp step
  exact ⟨server, performed, same.symm⟩

theorem note_server (server : FatServer) : (record.note server event).server = server := by
  cases event <;> rfl

/-- Nothing was measured or dequeued, and what the call counts on has not changed. -/
theorem Counted.of_same (counted : record.Counted call)
    (sameCommands : next.commandsCounted = record.commandsCounted)
    (sameCompletions : next.completionsCounted = record.completionsCounted)
    (sameDequeued : next.dequeued = record.dequeued)
    (sameInit : after.queueSizeInit = call.queueSizeInit)
    (sameCommandSize : after.commandQueueSize = call.commandQueueSize)
    (sameCompletionSize : after.completionQueueSize = call.completionQueueSize)
    (stage : after.stage = call.stage ∨ after.stage ≠ .counting) : next.Counted after where
  measured := by
    rw [sameInit, sameCommands, sameCompletions, sameCommandSize, sameCompletionSize, accepted,
      sameDequeued]
    exact counted.measured
  unmeasured := by
    rw [sameInit, sameDequeued]
    exact counted.unmeasured
  halfway counting := by
    rw [sameInit, sameCommands, sameCommandSize]
    rcases stage with same | other
    · exact counted.halfway (same.symm.trans counting)
    · exact absurd counting other

/-- A command was dequeued, and if it was accepted, a place is kept for its completion. -/
theorem Counted.pop {call after : NotifiedCall} (counted : record.Counted call)
    (known : call.queueSizeInit = true) (more : call.commandQueueSize ≠ 0) {command : FsCmd}
    (sameCommands : next.commandsCounted = record.commandsCounted)
    (sameCompletions : next.completionsCounted = record.completionsCounted)
    (dequeued : next.dequeued = record.dequeued ++ [command])
    (fewer : after.commandQueueSize = call.commandQueueSize - 1)
    (reserved : after.completionQueueSize = call.completionQueueSize +
      BitVec.ofNat 64 (if command.type < fsNumCommands then 1 else 0))
    (stillKnown : after.queueSizeInit = true) (stage : after.stage ≠ .counting) :
    next.Counted after where
  measured _ := by
    obtain ⟨commands, completions, read, read', left, kept⟩ := counted.measured known
    refine ⟨commands, completions, sameCommands.trans read, sameCompletions.trans read', ?_, ?_⟩
    · have positive : 1 ≤ call.commandQueueSize.toNat :=
        Nat.one_le_iff_ne_zero.mpr fun zero => more (BitVec.eq_of_toNat_eq zero)
      have one : (call.commandQueueSize - 1).toNat = call.commandQueueSize.toNat - 1 :=
        BitVec.toNat_sub_of_le positive
      rw [dequeued, List.length_append, List.length_singleton, fewer, one, left, Nat.add_assoc,
        Nat.add_sub_cancel' positive]
    · have acceptedMore : next.accepted.length =
          record.accepted.length + if command.type < fsNumCommands then 1 else 0 := by
        rw [accepted, dequeued, List.filter_append, List.length_append, List.filter_singleton]
        split_ifs with known
        · rw [decide_eq_true known]
          rfl
        · rw [decide_eq_false known]
          rfl
      rw [reserved, kept, acceptedMore, BitVec.ofNat_add, BitVec.add_assoc]
  unmeasured unknown := absurd (stillKnown.symm.trans unknown) (by decide)
  halfway counting := absurd counting stage

/-- Nothing was measured or dequeued, and the call has kept what it counts on. -/
theorem InCall.of_same (inCall : record.InCall)
    (sameCommands : next.commandsCounted = record.commandsCounted)
    (sameCompletions : next.completionsCounted = record.completionsCounted)
    (sameDequeued : next.dequeued = record.dequeued) (sameServer : next.server = server)
    (kept : ∀ after, server.call = some after → ∃ call, record.server.call = some call ∧
      after.queueSizeInit = call.queueSizeInit ∧ after.commandQueueSize = call.commandQueueSize ∧
      after.completionQueueSize = call.completionQueueSize ∧
      (after.stage = call.stage ∨ after.stage ≠ .counting)) : next.InCall := by
  intro after current
  rw [sameServer] at current
  obtain ⟨call, before, sameInit, sameCommandSize, sameCompletionSize, stage⟩ := kept after current
  exact (inCall call before).of_same sameCommands sameCompletions sameDequeued sameInit
    sameCommandSize sameCompletionSize stage

/-- What the server does to its call, when it neither measures nor dequeues. -/
theorem kept_goTo {stage : Stage} (current : server.call = some call) (other : stage ≠ .counting)
    (went : (server.goTo call stage).call = some after) :
    ∃ call, server.call = some call ∧
      after.queueSizeInit = call.queueSizeInit ∧ after.commandQueueSize = call.commandQueueSize ∧
      after.completionQueueSize = call.completionQueueSize ∧
      (after.stage = call.stage ∨ after.stage ≠ .counting) := by
  cases went
  exact ⟨call, current, rfl, rfl, rfl, Or.inr other⟩

theorem step_inCall (inCall : record.InCall) (step : CallStep record event next) :
    next.InCall := by
  obtain ⟨server, taken, rfl⟩ := callStep_eq_some step
  have nothing : record.dequeued ++ (none : Option FsCmd).toList = record.dequeued :=
    List.append_nil _
  cases FatServer.acts taken with
  | putCommand | publishCommands | consumeCompletions published
  | blkResponse current stage blocked | block current stage ready | finish current stage ready =>
    exact inCall.of_same rfl rfl nothing rfl fun after current =>
      ⟨after, current, rfl, rfl, rfl, Or.inl rfl⟩
  | yield current stage | resume current stage settled =>
    exact inCall.of_same rfl rfl nothing rfl fun after => kept_goTo current (by decide)
  | stop current stage done =>
    refine inCall.of_same rfl rfl nothing rfl fun after => kept_goTo current ?_
    split_ifs
    · decide
    · decide
  | skip current stage unfinished =>
    exact inCall.of_same rfl rfl nothing rfl fun after =>
      kept_goTo current (fun counting => nomatch counting)
  | reaped current stage | respond current stage finished =>
    refine inCall.of_same rfl rfl nothing rfl fun after went => ?_
    cases went
    exact ⟨_, current, rfl, rfl, rfl, Or.inr (fun counting => nomatch counting)⟩
  | publish current stage =>
    refine inCall.of_same rfl rfl nothing rfl fun after went => ?_
    cases went
  | notified idle =>
    intro after current
    cases current
    exact ⟨(fun measured => nomatch measured), fun _ => rfl, fun counting => nomatch counting⟩
  | @readCommandQueueSize call current stage unknown available =>
    intro after went
    cases went
    refine ⟨fun measured => ?_, (inCall call current).unmeasured, fun _ => ⟨unknown, rfl⟩⟩
    exact absurd (unknown.symm.trans measured) (by decide)
  | @readCompletionQueueSize call current stage =>
    intro after went
    cases went
    obtain ⟨unknown, counted⟩ := (inCall call current).halfway stage
    have empty := (inCall call current).unmeasured unknown
    refine ⟨fun _ => ⟨_, _, counted, rfl, ?_, ?_⟩, (fun unmeasured => nomatch unmeasured),
      fun counting => nomatch counting⟩
    · show _ = record.dequeued.length + _
      rw [empty, List.length_nil, Nat.zero_add]
    · show _ = _ + BitVec.ofNat 64 (record.dequeued.filter _).length
      rw [empty]
      exact (BitVec.add_zero _).symm
  | @pop call index current stage known available more =>
    have more : call.commandQueueSize ≠ 0 := by
      simp only [FatServer.popped, Bool.or_eq_false_iff, beq_eq_false_iff_ne] at more
      exact more.1
    have one : (record.server.commandOf (.pop index)).toList =
        [record.server.nextCommand call] := by
      rw [FatServer.commandOf, current]
      rfl
    have dequeued : (record.note (record.server.pop call index) (.pop index)).dequeued =
        record.dequeued ++ [record.server.nextCommand call] := by
      rw [← one]
      rfl
    intro after went
    by_cases accepted : (record.server.nextCommand call).type < fsNumCommands
    · rw [FatServer.pop_of_known index accepted] at went
      cases went
      refine (inCall call current).pop known more rfl rfl dequeued rfl ?_ known ?_
      · rw [if_pos accepted]
        rfl
      · rw [stage]
        decide
    · rw [FatServer.pop, if_pos (BitVec.not_lt.mp accepted)] at went
      cases went
      refine (inCall call current).pop known more rfl rfl dequeued rfl ?_ known ?_
      · rw [if_neg accepted]
        exact (BitVec.add_zero _).symm
      · rw [stage]
        decide

end CallRecord

/-! ### The rule -/

/-- A server that is between two calls waits for the next one without leaving anything behind: the
slots in use are those of workers that wait for the block device, and no worker could run. -/
structure FatServer.AtRest (server : FatServer) : Prop where
  answered : ∀ slot, (server.requestPool slot).stat = .inuse →
    server.cothread (server.requestPool slot).handle = .blocked
  nothingRuns : ∀ handle, server.cothread handle ≠ .ready

open FatServer

/-- All workers wait for the block device. -/
def FatServer.AllBlocked (server : FatServer) : Prop :=
  ∀ handle, handle ≠ eventThread → server.cothread handle = .blocked

theorem FatServer.atRest_of_publishing (settling : server.Settling) (sound : server.PoolSound)
    (current : server.call = some call) (stage : call.stage = .publishing) : server.AtRest := by
  have settled : call.Settled := by
    rw [NotifiedCall.Settled, stage]
    trivial
  refine ⟨fun slot used => ?_, settling.settled call current settled⟩
  rw [sound.own slot used]
  cases state : server.cothread slot with
  | blocked => rfl
  | ready => exact absurd state (settling.settled call current settled slot)
  | running =>
    rw [settling.alone slot state, settling.unused] at used
    cases used
  | notActive =>
    obtain ⟨other, same, mayBe⟩ := sound.active slot used state
    rw [current, Option.some.injEq] at same
    rw [← same, stage] at mayBe
    cases mayBe

theorem FatServer.allBlocked_of_full (settling : server.Settling)
    (nothingRuns : ∀ handle, server.cothread handle ≠ .ready) (full : ¬ server.FreeHandleAvailable) :
    server.AllBlocked := by
  intro handle worker
  cases state : server.cothread handle with
  | blocked => rfl
  | ready => exact absurd state (nothingRuns handle)
  | running => exact absurd (settling.alone handle state) worker
  | notActive => exact absurd ⟨handle, state⟩ full

/-- When `notified` returns, every request that is finished has been answered and no worker is left
that could run; and either all workers wait for the block device, or every command that was in the
queue when its length was read has been dequeued, or there is no room for the completion of another
one. -/
theorem notified_returns_at_rest {start : FatServer} {events : List FatEvent}
    {record next : CallRecord} (initial : start.Initial)
    (run : Run CallStep (CallRecord.opening start) events record)
    (returns : CallStep record .publish next) :
    next.server.AtRest ∧ (next.server.AllBlocked ∨ next.AllDequeued ∨ next.BudgetUsedUp) := by
  obtain ⟨⟨sound, settling⟩, inCall⟩ := run.invariant
    (fun record => (record.server.PoolSound ∧ record.server.Settling) ∧ record.InCall)
    ⟨⟨initial.poolSound, initial.settling⟩, fun call current => by
      rw [CallRecord.opening, initial.idle] at current
      cases current⟩
    fun before event after invariants step => by
      obtain ⟨⟨sound, settling⟩, inCall⟩ := invariants
      refine ⟨?_, CallRecord.step_inCall inCall step⟩
      obtain ⟨server, taken, rfl⟩ := CallRecord.callStep_eq_some step
      rw [CallRecord.note_server]
      exact ⟨FatServer.step_poolSound sound taken, FatServer.step_settling settling sound taken⟩
  obtain ⟨server, taken, rfl⟩ := CallRecord.callStep_eq_some returns
  cases FatServer.acts taken with
  | @publish call current stage =>
    have rest := FatServer.atRest_of_publishing settling sound current stage
    have unchanged : (record.note (record.server.publish call) .publish).dequeued =
        record.dequeued := List.append_nil _
    refine ⟨⟨rest.answered, rest.nothingRuns⟩, ?_⟩
    rcases settling.stopped call current stage with full | ⟨known, popped⟩
    · have blocked : record.server.AllBlocked :=
        FatServer.allBlocked_of_full settling rest.nothingRuns full
      exact Or.inl blocked
    · right
      obtain ⟨commands, completions, read, read', left, kept⟩ := (inCall call current).measured known
      simp only [FatServer.popped, Bool.or_eq_true, beq_iff_eq] at popped
      rcases popped with empty | usedUp
      · refine Or.inl ⟨commands, read, ?_⟩
        rw [unchanged, left, empty]
        rfl
      · refine Or.inr ⟨completions, read', ?_⟩
        rw [CallRecord.accepted, unchanged]
        exact kept.symm.trans usedUp

/-- A worker waits for the block device when the call returns. -/
theorem notified_returns_at_rest_of_one :
    ∃ record next, Run CallStep (CallRecord.opening started)
        (openingEvents ++ [.pop firstWorker, .stop, .yield,
          .block firstWorker, .resume, .reap, .reap, .reap, .reap, .reap, .stop])
        record ∧
      CallStep record .publish next ∧
      (next.server.requestPool firstWorker).stat = .inuse ∧ next.server.AtRest ∧
      (next.server.AllBlocked ∨ next.AllDequeued ∨ next.BudgetUsedUp) := by
  obtain ⟨record, next, run, returns, used⟩ :
      ∃ record next, Run CallStep (CallRecord.opening started)
        (openingEvents ++ [.pop firstWorker, .stop, .yield,
          .block firstWorker, .resume, .reap, .reap, .reap, .reap, .reap, .stop])
        record ∧
      CallStep record .publish next ∧
      (next.server.requestPool firstWorker).stat = .inuse := by
    refine ⟨_, _, Run.of_foldlM (fun _ _ _ performed => performed) rfl, rfl, ?_⟩
    decide
  obtain ⟨rest, done⟩ := notified_returns_at_rest started_initial run returns
  exact ⟨record, next, run, returns, used, rest, done⟩

end LionsOS.Fat

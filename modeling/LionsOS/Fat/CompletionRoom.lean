/-
This file follows the completions that the client has not consumed, published or
not, and the requests that are still to be completed. A request is accepted as
long as the completions that were published when the queues were measured, and
the requests accepted since, are fewer than the slots. Requests accepted in an
earlier call, and completions not yet published when the queues were measured,
are left out. If none is accepted without room for them too, every completion
goes to a free slot.
-/

import LionsOS.Fat.RequestPool
import LionsOS.Lib.Runs

open Function

namespace LionsOS.Fat

open LionsOS.Fs StepRun NotifiedCall FatServer Acts

namespace FatServer

variable {call : NotifiedCall}

/-! ### What is in the completion queue, and what is still to come -/

/-- The completions that are written and not yet published. -/
def unpublished (server : FatServer) : UInt32T :=
  server.call.elim 0 fsResponseEnqueued

/-- How many completions the client has not consumed, published or not. -/
def unconsumed (server : FatServer) : Nat :=
  (fsQueueLengthProducer server.fsCompletionQueue).toNat + server.unpublished.toNat

/-- The completions there are and those that will come. -/
def committed (server : FatServer) : Nat :=
  server.unconsumed + Multiset.card server.inFlight

/-- A completion is only written when fewer than all slots hold completions the client has not
consumed, and to a slot that holds none of these, provided the positions have not gone round. -/
structure WritesFree (server : FatServer) (event : FatEvent) : Prop where
  room : ∀ slot, server.Completes event slot → server.unconsumed < fsQueueCapacity
  slot : ∀ slot, server.Completes event slot →
    server.fsCompletionQueue.head.toNat ≤ server.fsCompletionQueue.tail.toNat →
    server.fsCompletionQueue.tail.toNat + server.unpublished.toNat < 2 ^ 64 →
    ∀ ahead : UInt64T, ahead.toNat < server.unconsumed →
      fsQueueIdxEmpty server.fsCompletionQueue (server.unpublished.setWidth 64) ≠
        fsQueueIdxFilled server.fsCompletionQueue ahead

/-- A request is only accepted when there is room for its completion, besides the completions there
are and those that will come. -/
def RoomWhenAccepted (server : FatServer) (event : FatEvent) : Prop :=
  ∀ command, server.Dequeues event command → command.type < fsNumCommands →
    server.committed < fsQueueCapacity

variable {server next : FatServer} {event : FatEvent}

theorem unpublished_eq (current : server.call = some call) :
    server.unpublished = call.fsResponseEnqueued := by
  rw [unpublished, current]
  rfl

theorem writesFree_of_room (room : ∀ slot, server.Completes event slot →
    server.unconsumed < fsQueueCapacity) : server.WritesFree event where
  room := room
  slot slot completes ordered straight ahead within := by
    refine fsQueueIdxEmpty_ne_fsQueueIdxFilled ordered ?_ ?_ ?_
    · exact straight
    · exact room slot completes
    · exact within

/-! ### What an event does to them -/

theorem unconsumed_congr (sameQueue : next.fsCompletionQueue = server.fsCompletionQueue)
    (sameUnpublished : next.unpublished = server.unpublished) :
    next.unconsumed = server.unconsumed := by
  rw [unconsumed, unconsumed, sameQueue, sameUnpublished]

theorem call_unconsumed {before after : NotifiedCall} (current : server.call = some before)
    (same : after.fsResponseEnqueued = before.fsResponseEnqueued) :
    unconsumed { server with call := some after } = server.unconsumed :=
  unconsumed_congr rfl (same.trans (unpublished_eq current).symm)

theorem consume_unconsumed {amount : UInt64T}
    (published : amount ≤ fsQueueLengthConsumer server.fsCompletionQueue) :
    unconsumed { server with
      fsCompletionQueue := fsQueuePublishConsumption server.fsCompletionQueue amount } ≤
        server.unconsumed := by
  refine Nat.add_le_add_right ?_ _
  show (server.fsCompletionQueue.tail - (server.fsCompletionQueue.head + amount)).toNat ≤ _
  rw [toNat_sub_add published]
  exact Nat.sub_le _ _

theorem respond_unconsumed (current : server.call = some call) (stage : Stage)
    (slot : Fin fatThreadNum) :
    (server.respond { call with stage } slot).unconsumed ≤ server.unconsumed + 1 := by
  have written : (call.fsResponseEnqueued + 1).toNat ≤ call.fsResponseEnqueued.toNat + 1 := by
    exact Nat.mod_le _ _
  rw [unconsumed, unconsumed, unpublished_eq current]
  exact Nat.add_le_add_left written _

theorem publish_unconsumed (bounded : server.unconsumed ≤ fsQueueCapacity)
    (current : server.call = some call) : (server.publish call).unconsumed = server.unconsumed := by
  have unpublished := unpublished_eq current
  have nothing : (server.publish call).unpublished = 0 := rfl
  rw [unconsumed, unconsumed, nothing, unpublished]
  rw [unconsumed, unpublished] at bounded
  by_cases none : call.fsResponseEnqueued = 0
  · simp only [publish, none, if_true]
  · have widened : (call.fsResponseEnqueued.setWidth 64).toNat = call.fsResponseEnqueued.toNat :=
      BitVec.toNat_setWidth_of_le (by decide)
    have length : (fsQueueLengthProducer (server.publish call).fsCompletionQueue).toNat =
        (fsQueueLengthProducer server.fsCompletionQueue).toNat + call.fsResponseEnqueued.toNat := by
      simp only [publish, none]
      refine (toNat_add_sub ?_).trans (by rw [widened]; rfl)
      exact Nat.lt_of_le_of_lt bounded (by decide)
    rw [length]
    rfl

theorem step_unconsumed (bounded : server.unconsumed ≤ fsQueueCapacity)
    (step : FatStep server event next) :
    ((∀ slot, ¬ server.Completes event slot) → next.unconsumed ≤ server.unconsumed) ∧
      next.unconsumed ≤ server.unconsumed + 1 := by
  have of_le : next.unconsumed ≤ server.unconsumed →
      ((∀ slot, ¬ server.Completes event slot) → next.unconsumed ≤ server.unconsumed) ∧
        next.unconsumed ≤ server.unconsumed + 1 := fun less => ⟨fun _ => less, Nat.le_succ_of_le less⟩
  cases acts step with
  | consumeCompletions published => exact of_le (consume_unconsumed published)
  | notified idle =>
    have started : unconsumed { server with call := some start } = server.unconsumed := by
      rw [unconsumed, unconsumed, unpublished, unpublished, idle]
      rfl
    exact of_le started.le
  | @respond call slot rest current stage finished =>
    refine ⟨fun never => absurd ⟨rfl, finished, call, rest, current, stage⟩ (never slot), ?_⟩
    exact respond_unconsumed current _ slot
  | @pop call index current stage known available more =>
    refine of_le (unconsumed_congr ?_ ?_).le
    · unfold pop
      dsimp only
      split_ifs
      · rfl
      · rfl
    · rw [unpublished_eq current]
      unfold pop
      dsimp only
      split_ifs
      · rfl
      · rfl
  | publish current stage => exact of_le (publish_unconsumed bounded current).le
  | putCommand | publishCommands | blkResponse | block | finish => exact of_le le_rfl
  | yield current stage => exact of_le (call_unconsumed current rfl).le
  | resume current stage settled =>
    exact of_le (call_unconsumed current rfl).le
  | reaped current stage => exact of_le (call_unconsumed current rfl).le
  | skip current stage unfinished | readCommandQueueSize current stage unknown available
  | readCompletionQueueSize current stage =>
    exact of_le (call_unconsumed current rfl).le
  | stop current stage done => exact of_le (call_unconsumed current rfl).le

theorem step_committed (sound : server.PoolSound) (bounded : server.committed ≤ fsQueueCapacity)
    (roomWhenAccepted : server.RoomWhenAccepted event) (step : FatStep server event next) :
    next.committed ≤ fsQueueCapacity := by
  have few : server.unconsumed ≤ fsQueueCapacity := Nat.le_of_add_right_le bounded
  obtain ⟨kept, grown⟩ := step_unconsumed few step
  have notReap : ∀ command, server.Dequeues event command →
      next.unconsumed ≤ server.unconsumed := by
    rintro command ⟨_, _, rfl, _⟩
    exact kept fun _ completes => by cases completes.1
  unfold committed at bounded ⊢
  cases step_changes sound step with
  | completes slot completes fewer =>
    rw [fewer, Multiset.card_add, Multiset.card_singleton] at bounded
    omega
  | accepts command dequeues known more =>
    have room := roomWhenAccepted command dequeues known
    unfold committed at room
    have same := notReap command dequeues
    rw [more, Multiset.card_add, Multiset.card_singleton]
    omega
  | rejects command dequeues unknown same =>
    rw [same]
    exact Nat.le_trans (Nat.add_le_add_right (notReap command dequeues) _) bounded
  | nothing completesNone dequeuesNone same =>
    rw [same]
    exact Nat.le_trans (Nat.add_le_add_right (kept completesNone) _) bounded

theorem room_of_committed (bounded : server.committed ≤ fsQueueCapacity) {slot : Fin fatThreadNum}
    (completes : server.Completes event slot) : server.unconsumed < fsQueueCapacity := by
  have inFlight : {(server.requestPool slot).requestId} ≤ server.inFlight := by
    have member := Places.le_total server.requestsIn slot
    rw [requestsIn, if_pos (stat_of_finished completes.2.1)] at member
    exact member
  have positive := Multiset.card_le_card inFlight
  exact Nat.lt_of_lt_of_le (Nat.lt_add_of_pos_right positive) bounded

end FatServer

/-- Whatever the client does and in whatever order the workers finish, if requests are only accepted
when there is room for their completions besides the completions the client has not consumed,
published or not, and the requests in flight, then every completion is written to a slot that holds
no completion the client has not consumed. -/
theorem completions_written_to_free_slots {start server : FatServer} {events : List FatEvent}
    (initial : start.Initial)
    (empty : start.fsCompletionQueue.head = start.fsCompletionQueue.tail)
    (run : Run (Guarded FatServer.RoomWhenAccepted FatStep) start events server) :
    Run (Guarded FatServer.WritesFree FatStep) start events server := by
  refine run.mono_of_invariant
    (fun server => server.PoolSound ∧ server.committed ≤ fsQueueCapacity) ?_ ?_
  · refine ⟨initial.poolSound, ?_⟩
    have nothing : start.committed = 0 := by
      rw [committed, unconsumed, unpublished, initial.idle,
        initial.nothingInFlight, fsQueueLengthProducer, empty, BitVec.sub_self]
      rfl
    rw [nothing]
    exact Nat.zero_le _
  · rintro server event next ⟨sound, bounded⟩ ⟨roomWhenAccepted, step⟩
    refine ⟨⟨step_poolSound sound step,
      step_committed sound bounded roomWhenAccepted step⟩, ?_, step⟩
    exact writesFree_of_room fun slot completes =>
      room_of_committed bounded completes

/-! ### A client that does not consume -/

namespace FatServer

variable {index : Fin fatThreadNum} {count : Nat} {workers : List (Fin fatThreadNum)}

/-- No call is going on, these workers wait for the block device, every command was dequeued, and
`count` completions are published and none is consumed. -/
structure Waiting (workers : List (Fin fatThreadNum)) (count : Nat) (server : FatServer) : Prop where
  idle : server.call = none
  running : server.cothread eventThread = .running
  blocked : ∀ slot ∈ workers, server.cothread slot = .blocked ∧
    (server.requestPool slot).stat = .inuse ∧ (server.requestPool slot).handle = slot
  others : ∀ slot, slot ∉ workers → (server.requestPool slot).stat = .free ∧
    (slot ≠ eventThread → server.cothread slot = .notActive)
  commands : server.fsCommandQueue.head = server.fsCommandQueue.tail
  known : ∀ slot, (server.fsCommandQueue.buffer slot).type < fsNumCommands
  head : server.fsCompletionQueue.head = 0
  tail : server.fsCompletionQueue.tail = BitVec.ofNat 64 count

variable {server : FatServer} {call : NotifiedCall}

/-- The loop finds none of these requests finished. -/
theorem run_reaped {slots : List (Fin fatThreadNum)} (stage : call.stage = .reaping slots)
    (unfinished : ∀ slot ∈ slots, server.finished slot = false) :
    ∃ events, Run FatStep (server.during call) events
      (server.during { call with stage := .popping, newRequestPopped := false }) := by
  induction slots generalizing call with
  | nil => exact ⟨[.reap], Run.single (@reaped (server.during call) call rfl stage).step⟩
  | cons slot rest inductionHypothesis =>
    have skipped := (@skip (server.during call) call slot rest rfl stage
      (unfinished slot List.mem_cons_self)).step
    obtain ⟨events, run⟩ := @inductionHypothesis { call with stage := .reaping rest } rfl
      fun other member => unfinished other (List.mem_cons_of_mem _ member)
    exact ⟨_, (Run.single skipped).trans run⟩

/-- The lengths of the queues are read. -/
theorem run_measured (stage : call.stage = .popping) (unknown : call.queueSizeInit = false)
    (available : server.FreeHandleAvailable) :
    Run FatStep (server.during call) [.readCommandQueueSize, .readCompletionQueueSize]
      (server.during { call with
        stage := .popping
        commandQueueSize := fsQueueLengthConsumer server.fsCommandQueue
        completionQueueSize := fsQueueLengthProducer server.fsCompletionQueue
        queueSizeInit := true }) := by
  have first := (@readCommandQueueSize (server.during call) call rfl stage unknown available).step
  have second := (@readCompletionQueueSize (server.during { call with
    stage := .counting
    commandQueueSize := fsQueueLengthConsumer server.fsCommandQueue }) _ rfl rfl).step
  exact (Run.single first).snoc second

/-- With all commands dequeued and nothing accepted since, the call ends. -/
theorem run_closed (stage : call.stage = .popping) (known : call.queueSizeInit = true)
    (empty : call.commandQueueSize = 0) (accepted : call.newRequestPopped = false) :
    Run FatStep (server.during call) [.stop, .publish] (server.publish call) := by
  have done : popped call = true := by rw [popped, empty]; rfl
  have stopped := (@Acts.stop (server.during call) call rfl stage (Or.inr ⟨known, done⟩)).step
  rw [accepted] at stopped
  have published := (@Acts.publish (server.during { call with stage := .publishing }) _ rfl
    rfl).step
  exact (Run.single stopped).snoc published

/-- A call that has found nothing finished and is about to pop requests. -/
def measured (server : FatServer) : NotifiedCall :=
  { start with
    stage := .popping
    newRequestPopped := false
    commandQueueSize := fsQueueLengthConsumer server.fsCommandQueue
    completionQueueSize := fsQueueLengthProducer server.fsCompletionQueue
    queueSizeInit := true }

/-- A call begins, and finds nothing finished. -/
theorem run_opened (idle : server.call = none) (settled : ∀ handle, server.cothread handle ≠ .ready)
    (unfinished : ∀ slot, server.finished slot = false) (available : server.FreeHandleAvailable) :
    ∃ events, Run FatStep server events (server.during server.measured) := by
  have notified := (notified idle).step
  have yields := (@yield (server.during start) _ rfl rfl).step
  have resumes := (@resume (server.during { start with stage := .yielding }) _
    rfl rfl settled).step
  obtain ⟨reaps, reaped⟩ := @run_reaped server
    { start with stage := .reaping workerSlots } workerSlots rfl
    fun slot _ => unfinished slot
  have measuring := @run_measured server
    { start with stage := .popping, newRequestPopped := false } rfl rfl available
  exact ⟨_, ((((Run.single notified).snoc yields).snoc resumes).trans reaped).trans measuring⟩

/-- A worker that has just been spawned waits for the block device, and the call ends. -/
theorem run_blocked (stage : call.stage = .popping) (known : call.queueSizeInit = true)
    (empty : call.commandQueueSize = 0) (accepted : call.newRequestPopped = true)
    (ready : server.cothread index = .ready)
    (settled : ∀ handle, handle ≠ index → server.cothread handle ≠ .ready)
    (unfinished : ∀ slot, (server.setCothread index .blocked).finished slot = false) :
    ∃ events, Run FatStep (server.during call) events
      (publish { server.setCothread index .blocked with blkRequestPushed := true } call) := by
  have done : popped call = true := by rw [popped, empty]; rfl
  have stops := (@stop (server.during call) call rfl stage (Or.inr ⟨known, done⟩)).step
  rw [accepted] at stops
  have yields := (@yield (server.during { call with stage := .responses }) _ rfl rfl).step
  have blocks := (@block (server.during { call with stage := .yielding }) _ index rfl rfl
    ready).step
  have allSettled : ∀ handle, (server.setCothread index .blocked).cothread handle ≠ .ready := by
    intro handle
    by_cases here : handle = index
    · rw [here, setCothread_self]
      exact fun same => by cases same
    · rw [setCothread_of_ne _ _ here]
      exact settled handle here
  have resumes := (@resume (during { server.setCothread index .blocked with
    blkRequestPushed := true } { call with stage := .yielding }) _ rfl rfl allSettled).step
  obtain ⟨reaps, reaped⟩ := @run_reaped { server.setCothread index .blocked with
    blkRequestPushed := true } { call with stage := .reaping workerSlots } workerSlots rfl
    fun slot _ => unfinished slot
  have closed := @run_closed { server.setCothread index .blocked with blkRequestPushed := true }
    { call with stage := .popping, newRequestPopped := false } rfl known empty rfl
  exact ⟨_, (((((Run.single stops).snoc yields).snoc blocks).snoc resumes).trans reaped).trans
    closed⟩

theorem Waiting.unfinished (waiting : Waiting workers count server) (slot : Fin fatThreadNum) :
    server.finished slot = false := by
  by_cases member : slot ∈ workers
  · obtain ⟨blocked, _, own⟩ := waiting.blocked slot member
    simp [finished, own, blocked]
  · simp [finished, (waiting.others slot member).1]

theorem Waiting.settled (waiting : Waiting workers count server) (handle : Fin fatThreadNum) :
    server.cothread handle ≠ .ready := by
  intro ready
  by_cases member : handle ∈ workers
  · rw [(waiting.blocked handle member).1] at ready
    cases ready
  · by_cases event : handle = eventThread
    · rw [event, waiting.running] at ready
      cases ready
    · rw [(waiting.others handle member).2 event] at ready
      cases ready

/-- As long as fewer completions are published than there are slots, one more command is accepted,
whatever is in flight. -/
theorem Waiting.accept {workers : List (Fin fatThreadNum)} {count : Nat}
    (waiting : Waiting workers count server) {index : Fin fatThreadNum} (fresh : index ∉ workers)
    (worker : index ≠ eventThread) (room : count < fsQueueCapacity) :
    ∃ events next, Run FatStep server events next ∧ Waiting (index :: workers) count next := by
  have inactive := (waiting.others index fresh).2 worker
  have publishes : FatStep server (.publishCommands 1) (server.publishCommands 1) := rfl
  obtain ⟨opens, opened⟩ := @run_opened (server.publishCommands 1) waiting.idle waiting.settled
    waiting.unfinished ⟨index, inactive⟩
  have one : server.fsCommandQueue.tail + 1 - server.fsCommandQueue.head = 1 := by
    rw [waiting.commands, BitVec.add_comm]
    exact BitVec.add_sub_cancel _ _
  have notFull : BitVec.ofNat 64 count - 0 ≠ BitVec.ofNat 64 fsQueueCapacity := by
    intro same
    have sameCount := congrArg BitVec.toNat same
    simp only [fsQueueCapacity] at room sameCount
    rw [show BitVec.ofNat 64 count - 0 = BitVec.ofNat 64 count from BitVec.sub_zero _,
      BitVec.toNat_ofNat, BitVec.toNat_ofNat] at sameCount
    omega
  have more : popped (server.publishCommands 1).measured = false := by
    have commandQueueSize : (server.publishCommands 1).measured.commandQueueSize = 1 := one
    have completionQueueSize : (server.publishCommands 1).measured.completionQueueSize =
        BitVec.ofNat 64 count - 0 := by
      rw [← waiting.tail, ← waiting.head]
      rfl
    rw [popped, commandQueueSize, completionQueueSize, beq_eq_false_iff_ne.mpr notFull]
    rfl
  obtain ⟨message, call, pops, stage, sized, left, accepted, dequeued, enqueued⟩ :
      ∃ message call, FatStep
          ((server.publishCommands 1).during (server.publishCommands 1).measured) (.pop index)
          (((server.publishCommands 1).setupRequest index message).during call) ∧
        call.stage = .popping ∧ call.queueSizeInit = true ∧ call.commandQueueSize = 1 - 1 ∧
        call.newRequestPopped = true ∧ call.fsRequestDequeued = 1 ∧
        call.fsResponseEnqueued = 0 := by
    have known : (((server.publishCommands 1).during (server.publishCommands 1).measured).nextCommand
        (server.publishCommands 1).measured).type < fsNumCommands := waiting.known _
    have popping := (@Acts.pop ((server.publishCommands 1).during (server.publishCommands 1).measured)
      _ index rfl rfl rfl inactive more).step
    rw [pop_of_known index known] at popping
    exact ⟨_, _, popping, rfl, rfl, congrArg (· - 1) one, rfl, rfl, rfl⟩
  -- The worker waits for the block device, as those before it do.
  have stillSettled : ∀ handle, handle ≠ index →
      ((server.publishCommands 1).setupRequest index message).cothread handle ≠ .ready :=
    fun handle different => by
      simp only [setupRequest, update_of_ne different]
      exact waiting.settled handle
  have cothreads : ∀ handle, handle ≠ index → (((server.publishCommands 1).setupRequest index
      message).setCothread index .blocked).cothread handle = server.cothread handle :=
    fun handle different => by
      simp only [setCothread, setupRequest, update_of_ne different]
      rfl
  have requests : ∀ slot, slot ≠ index → (((server.publishCommands 1).setupRequest index
      message).setCothread index .blocked).requestPool slot = server.requestPool slot :=
    fun slot different => by
      simp only [setCothread, setupRequest, update_of_ne different]
      rfl
  have stillUnfinished : ∀ slot, (((server.publishCommands 1).setupRequest index
      message).setCothread index .blocked).finished slot = false := fun slot => by
    by_cases here : slot = index
    · subst here
      simp [finished, setCothread, setupRequest]
    · by_cases member : slot ∈ workers
      · obtain ⟨blocked, _, own⟩ := waiting.blocked slot member
        rw [finished, requests slot here, own, cothreads slot here, blocked]
        rfl
      · rw [finished, requests slot here, (waiting.others slot member).1]
        exact Bool.and_false _
  obtain ⟨ends, ended⟩ := run_blocked stage sized left accepted (update_self _ _ _)
    stillSettled stillUnfinished
  refine ⟨_, _, (((Run.single publishes).trans opened).snoc pops).trans ended, ?_⟩
  have commandQueue : (publish { ((server.publishCommands 1).setupRequest index message).setCothread
      index .blocked with blkRequestPushed := true } call).fsCommandQueue =
      { server.fsCommandQueue with
        head := server.fsCommandQueue.head + 1
        tail := server.fsCommandQueue.tail + 1 } := by
    simp only [publish, dequeued]
    rfl
  have completionQueue : (publish { ((server.publishCommands 1).setupRequest index
      message).setCothread index .blocked with blkRequestPushed := true } call).fsCompletionQueue =
      server.fsCompletionQueue := if_pos enqueued
  refine ⟨rfl, ?_, fun slot member => ?_, fun slot outside => ?_, ?_, ?_, ?_, ?_⟩
  · exact (cothreads eventThread (Ne.symm worker)).trans waiting.running
  · by_cases here : slot = index
    · subst here
      exact ⟨setCothread_self _ _ _, by simp [publish, setCothread, setupRequest]⟩
    · have before := waiting.blocked slot ((List.mem_cons.mp member).resolve_left here)
      rw [← requests slot here, ← cothreads slot here] at before
      exact before
  · obtain ⟨here, notWaiting⟩ := not_or.mp (mt List.mem_cons.mpr outside)
    have before := waiting.others slot notWaiting
    rw [← requests slot here, ← cothreads slot here] at before
    exact before
  · rw [commandQueue, waiting.commands]
  · rw [commandQueue]
    exact waiting.known
  · rw [completionQueue]
    exact waiting.head
  · rw [completionQueue]
    exact waiting.tail

def firstWorker : Fin fatThreadNum := ⟨1, by decide⟩
def secondWorker : Fin fatThreadNum := ⟨2, by decide⟩

/-- The block request of a worker is answered. -/
theorem run_woken (stage : call.stage = .responses) (blocked : server.cothread index = .blocked)
    (own : (server.requestPool index).handle = index) :
    FatStep (server.during call) (.blkResponse index)
      ((server.setCothread index .ready).during call) := by
  have waits : (server.during call).cothread ((server.during call).requestPool index).handle =
      .blocked := (congrArg server.cothread own).trans blocked
  have wakes := (@blkResponse (server.during call) call index rfl stage waits).step
  have same : ((server.during call).requestPool index).handle = index := own
  rw [same] at wakes
  exact wakes

/-- The server when the operation of a worker is finished. -/
def done (server : FatServer) (index : Fin fatThreadNum) : FatServer :=
  (server.setResult index 0 0).setCothread index .notActive

theorem done_requestPool_of_ne {other : Fin fatThreadNum} (different : other ≠ index) :
    (server.done index).requestPool other = server.requestPool other :=
  update_of_ne different _ _

theorem done_finished (used : (server.requestPool index).stat = .inuse)
    (own : (server.requestPool index).handle = index) :
    (server.done index).finished index = true := by
  simp [finished, done, setCothread, setResult, used, own]

theorem Waiting.complete {count : Nat} (waiting : Waiting [firstWorker] count server) :
    ∃ events next, Run FatStep server events next ∧ Waiting [] (count + 1) next := by
  obtain ⟨blocked, used, own⟩ := waiting.blocked firstWorker (List.mem_singleton_self _)
  have notified := (Acts.notified waiting.idle).step
  have wakes : FatStep (server.during NotifiedCall.start) (.blkResponse firstWorker)
      ((server.setCothread firstWorker .ready).during NotifiedCall.start) :=
    run_woken rfl blocked own
  generalize woken : server.setCothread firstWorker .ready = awake at wakes
  have ready : awake.cothread firstWorker = .ready := woken ▸ setCothread_self _ _ _
  have yields := (@Acts.yield (awake.during NotifiedCall.start) _ rfl rfl).step
  have finishes := (@Acts.finish (awake.during { NotifiedCall.start with stage := .yielding }) _
    firstWorker 0 0 rfl rfl ready).step
  have others : ∀ handle, handle ≠ firstWorker →
      (awake.done firstWorker).cothread handle = server.cothread handle := fun handle different => by
    rw [done, setCothread_of_ne _ _ different, ← woken]
    exact setCothread_of_ne _ _ different
  have settled : ∀ handle, (awake.done firstWorker).cothread handle ≠ .ready := fun handle => by
    by_cases here : handle = firstWorker
    · rw [here]
      exact fun same => by cases same
    · rw [others handle here]
      exact waiting.settled handle
  have resumes := (@Acts.resume ((awake.done firstWorker).during
    { NotifiedCall.start with stage := .yielding }) _ rfl rfl settled).step
  have finished : (awake.done firstWorker).finished firstWorker = true := by
    refine done_finished ?_ ?_
    · rw [← woken]
      exact used
    · rw [← woken]
      exact own
  have responds := (@Acts.respond ((awake.done firstWorker).during
    { NotifiedCall.start with stage := .reaping workerSlots }) _ firstWorker workerSlots.tail rfl
    rfl finished).step
  obtain ⟨answered, answering, sameCothread, freed, kept, sameCommands, sameHead, sameTail⟩ :
      ∃ answered : FatServer, FatStep ((awake.done firstWorker).during
          { NotifiedCall.start with stage := .reaping workerSlots }) .reap
          (answered.during { NotifiedCall.start with
            stage := .reaping workerSlots.tail, fsResponseEnqueued := 1 }) ∧
        answered.cothread = (awake.done firstWorker).cothread ∧
        (answered.requestPool firstWorker).stat = .free ∧
        (∀ slot, slot ≠ firstWorker → answered.requestPool slot = server.requestPool slot) ∧
        answered.fsCommandQueue = server.fsCommandQueue ∧
        answered.fsCompletionQueue.head = server.fsCompletionQueue.head ∧
        answered.fsCompletionQueue.tail = server.fsCompletionQueue.tail := by
    refine ⟨((awake.done firstWorker).during { NotifiedCall.start with
      stage := .reaping workerSlots }).respond { NotifiedCall.start with
        stage := .reaping workerSlots.tail } firstWorker, responds, rfl, ?_,
      fun slot different => ?_, ?_, ?_, ?_⟩
    · simp [respond]
    · simp only [respond, update_of_ne different]
      rw [← woken]
      exact done_requestPool_of_ne different
    · rw [← woken]
      rfl
    · rw [← woken]
      rfl
    · rw [← woken]
      rfl
  have free : ∀ slot, (answered.requestPool slot).stat = .free := fun slot => by
    by_cases here : slot = firstWorker
    · rw [here]
      exact freed
    · rw [kept slot here]
      exact (waiting.others slot fun member => here (List.mem_singleton.mp member)).1
  have unfinished : ∀ slot, answered.finished slot = false := fun slot => by
    rw [FatServer.finished, free slot]
    exact Bool.and_false _
  obtain ⟨reaps, reaped⟩ := @run_reaped answered { NotifiedCall.start with
    stage := .reaping workerSlots.tail, fsResponseEnqueued := 1 } _ rfl fun slot _ =>
      unfinished slot
  have inactive : answered.cothread firstWorker = .notActive := by
    rw [sameCothread]
    exact setCothread_self _ _ _
  have measuring := @run_measured answered { NotifiedCall.start with
    stage := .popping, newRequestPopped := false, fsResponseEnqueued := 1 } rfl rfl
    ⟨firstWorker, inactive⟩
  have empty : fsQueueLengthConsumer answered.fsCommandQueue = 0 := by
    rw [fsQueueLengthConsumer, sameCommands, waiting.commands]
    exact BitVec.sub_self _
  have closed := @run_closed answered { NotifiedCall.start with
    stage := .popping, newRequestPopped := false, fsResponseEnqueued := 1
    commandQueueSize := fsQueueLengthConsumer answered.fsCommandQueue
    completionQueueSize := fsQueueLengthProducer answered.fsCompletionQueue
    queueSizeInit := true } rfl rfl empty rfl
  refine ⟨_, _, ((((((((Run.single notified).snoc wakes).snoc yields).snoc finishes).snoc
    resumes).snoc answering).trans reaped).trans measuring).trans closed, ?_⟩
  refine ⟨rfl, ?_, fun slot member => absurd member List.not_mem_nil,
    fun slot _ => ⟨free slot, fun worker => ?_⟩, ?_, fun slot => ?_, ?_, ?_⟩
  · show answered.cothread eventThread = .running
    rw [sameCothread, others eventThread (by decide)]
    exact waiting.running
  · show answered.cothread slot = .notActive
    by_cases here : slot = firstWorker
    · rw [here]
      exact inactive
    · rw [sameCothread, others slot here]
      exact (waiting.others slot fun member => here (List.mem_singleton.mp member)).2 worker
  · show answered.fsCommandQueue.head = answered.fsCommandQueue.tail
    rw [sameCommands]
    exact waiting.commands
  · show (answered.fsCommandQueue.buffer slot).type < fsNumCommands
    rw [sameCommands]
    exact waiting.known slot
  · exact sameHead.trans waiting.head
  · show answered.fsCompletionQueue.tail + 1 = BitVec.ofNat 64 (count + 1)
    rw [sameTail, waiting.tail, BitVec.ofNat_add]
    rfl

theorem Waiting.fill (waiting : Waiting [] 0 server) {count : Nat} (room : count ≤ fsQueueCapacity) :
    ∃ events next, Run FatStep server events next ∧ Waiting [] count next := by
  induction count with
  | zero => exact ⟨[], server, Run.nil, waiting⟩
  | succ count inductionHypothesis =>
    obtain ⟨before, filled, run, waiting⟩ := inductionHypothesis (Nat.le_of_succ_le room)
    obtain ⟨accepts, accepted, accepting, oneWaiting⟩ :=
      @Waiting.accept filled [] count waiting firstWorker List.not_mem_nil (by decide) room
    obtain ⟨completes, completed, completing, noneWaiting⟩ := oneWaiting.complete
    exact ⟨_, completed, (run.trans accepting).trans completing, noneWaiting⟩

theorem Waiting.completeTwo (small : count < 2 ^ 64)
    (waiting : Waiting [secondWorker, firstWorker] count server) :
    ∃ events next, Run FatStep server events next ∧ next.Completes .reap secondWorker ∧
      next.unconsumed = count + 1 := by
  obtain ⟨blocked₁, used₁, own₁⟩ := waiting.blocked firstWorker (by decide)
  obtain ⟨blocked₂, used₂, own₂⟩ := waiting.blocked secondWorker (by decide)
  have notified := (Acts.notified waiting.idle).step
  have wakes₁ : FatStep (server.during NotifiedCall.start) (.blkResponse firstWorker)
      ((server.setCothread firstWorker .ready).during NotifiedCall.start) :=
    run_woken rfl blocked₁ own₁
  have stillBlocked : (server.setCothread firstWorker .ready).cothread secondWorker = .blocked :=
    (setCothread_of_ne _ _ (by decide)).trans blocked₂
  have wakes₂ : FatStep ((server.setCothread firstWorker .ready).during NotifiedCall.start)
      (.blkResponse secondWorker) (((server.setCothread firstWorker .ready).setCothread secondWorker
        .ready).during NotifiedCall.start) := run_woken rfl stillBlocked own₂
  generalize woken : (server.setCothread firstWorker .ready).setCothread secondWorker .ready = awake
    at wakes₂
  have pool : awake.requestPool = server.requestPool := by rw [← woken]; rfl
  have ready₁ : awake.cothread firstWorker = .ready := by
    rw [← woken, setCothread_of_ne _ _ (by decide)]
    exact setCothread_self _ _ _
  have awake₂ : awake.cothread secondWorker = .ready := woken ▸ setCothread_self _ _ _
  have ready₂ : (awake.done firstWorker).cothread secondWorker = .ready := by
    exact awake₂
  have yields := (@Acts.yield (awake.during NotifiedCall.start) _ rfl rfl).step
  have finishes₁ := (@Acts.finish (awake.during { NotifiedCall.start with stage := .yielding }) _
    firstWorker 0 0 rfl rfl ready₁).step
  have finishes₂ : FatStep ((awake.done firstWorker).during
      { NotifiedCall.start with stage := .yielding }) (.finish secondWorker 0 0)
      (((awake.done firstWorker).done secondWorker).during
        { NotifiedCall.start with stage := .yielding }) :=
    (@Acts.finish ((awake.done firstWorker).during { NotifiedCall.start with stage := .yielding }) _
      secondWorker 0 0 rfl rfl ready₂).step
  have finished₁ : ((awake.done firstWorker).done secondWorker).finished firstWorker = true := by
    have before : (awake.done firstWorker).finished firstWorker = true :=
      done_finished (pool ▸ used₁) (pool ▸ own₁)
    have own : ((awake.done firstWorker).requestPool firstWorker).handle = firstWorker := by
      simp [done, setCothread, setResult, pool, own₁]
    rw [finished, done_requestPool_of_ne (by decide), own]
    rw [finished, own] at before
    exact before
  have finished₂ : ((awake.done firstWorker).done secondWorker).finished secondWorker = true := by
    refine done_finished ?_ ?_
    · rw [done_requestPool_of_ne (by decide), pool]
      exact used₂
    · rw [done_requestPool_of_ne (by decide), pool]
      exact own₂
  have settled : ∀ handle, ((awake.done firstWorker).done secondWorker).cothread handle ≠
      .ready := fun handle => by
    by_cases second : handle = secondWorker
    · rw [second]
      exact fun same => by cases same
    by_cases first : handle = firstWorker
    · rw [first]
      exact fun same => by cases same
    · rw [done, setCothread_of_ne _ _ second]
      show (awake.done firstWorker).cothread handle ≠ .ready
      rw [done, setCothread_of_ne _ _ first]
      show awake.cothread handle ≠ .ready
      rw [← woken, setCothread_of_ne _ _ second, setCothread_of_ne _ _ first]
      exact waiting.settled handle
  have queue : ((awake.done firstWorker).done secondWorker).fsCompletionQueue =
      server.fsCompletionQueue := by rw [← woken]; rfl
  generalize (awake.done firstWorker).done secondWorker = finishedBoth at *
  have resumes := (@Acts.resume (finishedBoth.during { NotifiedCall.start with stage := .yielding })
    _ rfl rfl settled).step
  have responds := (@Acts.respond (finishedBoth.during { NotifiedCall.start with
    stage := .reaping workerSlots }) _ firstWorker workerSlots.tail rfl rfl finished₁).step
  refine ⟨_, _, ((((((((Run.single notified).snoc wakes₁).snoc wakes₂).snoc yields).snoc
    finishes₁).snoc finishes₂).snoc resumes).snoc responds), ⟨rfl, ?_, _, [_, _], rfl, rfl⟩, ?_⟩
  · exact finished₂
  · have length : (finishedBoth.fsCompletionQueue.tail -
        finishedBoth.fsCompletionQueue.head).toNat = count := by
      rw [queue, waiting.tail, waiting.head,
        show BitVec.ofNat 64 count - 0 = BitVec.ofNat 64 count from BitVec.sub_zero _,
        BitVec.toNat_ofNat, Nat.mod_eq_of_lt small]
    exact congrArg (· + 1) length

/-- The server as it starts, with zeroed queues and request pool. -/
def started : FatServer where
  fsCommandQueue :=
    { head := 0, tail := 0, buffer := fun _ => { id := 0, type := 0, params := fun _ => 0 } }
  fsCompletionQueue :=
    { head := 0, tail := 0, buffer := fun _ => { id := 0, status := 0, data := 0 } }
  requestPool _ :=
    { cmd := 0
      sharedData := { params := fun _ => 0, status := 0, result := 0 }
      requestId := 0
      handle := eventThread
      stat := .free }
  cothread handle := if handle = eventThread then .running else .notActive
  blkRequestPushed := false
  clientNotified := false
  blkNotified := false
  call := none

theorem started_initial : started.Initial where
  idle := rfl
  free _ := rfl
  running := rfl
  workers _ different := if_neg different

theorem started_waiting : Waiting [] 0 started where
  idle := rfl
  running := rfl
  blocked _ member := absurd member List.not_mem_nil
  others slot _ := ⟨rfl, fun worker => if_neg worker⟩
  commands := rfl
  known _ := (by decide : (0 : UInt64T) < fsNumCommands)
  head := rfl
  tail := rfl

end FatServer

/-- If the client consumes nothing, 510 completions are published and two commands are accepted in
two calls, then all 511 slots are taken when the second of them is completed. -/
theorem completion_overwrites_unconsumed :
    started.Initial ∧ ∃ events server, Run FatStep started events server ∧
      server.Completes .reap secondWorker ∧ server.unconsumed = fsQueueCapacity := by
  obtain ⟨fills, filled, filling, waiting⟩ :=
    @FatServer.Waiting.fill _ started_waiting 510 (by decide)
  obtain ⟨accepts₁, accepted₁, accepting₁, waiting₁⟩ :=
    @FatServer.Waiting.accept filled [] 510 waiting firstWorker List.not_mem_nil
      (by decide) (by decide)
  obtain ⟨accepts₂, accepted₂, accepting₂, waiting₂⟩ :=
    @FatServer.Waiting.accept accepted₁ _ 510 waiting₁ secondWorker (by decide)
      (by decide) (by decide)
  obtain ⟨completes, server, completing, overruns, full⟩ := waiting₂.completeTwo (by decide)
  exact ⟨started_initial, _, server,
    ((filling.trans accepting₁).trans accepting₂).trans completing, overruns, full⟩

/-- A command is published, the server is notified, and measures the queues. -/
def openingEvents : List FatEvent :=
  [.publishCommands 1, .notified, .yield, .resume, .reap, .reap, .reap, .reap, .reap,
    .readCommandQueueSize, .readCompletionQueueSize]

/-- A command that is accepted. -/
theorem completions_written_to_free_slots_of_one :
    ∃ server, Run (Guarded FatServer.WritesFree FatStep) started
      (openingEvents ++ [.pop firstWorker]) server ∧
      server.inFlight = {0} := by
  obtain ⟨measured, server, opened, pops, nothing, one⟩ :
      ∃ measured server, Run FatStep started openingEvents measured ∧
        FatStep measured (.pop firstWorker) server ∧ measured.committed = 0 ∧
        server.inFlight = {0} := by
    refine ⟨_, _, Run.of_foldlM (fun _ _ _ performed => performed) rfl, rfl, ?_, ?_⟩
    · decide
    · decide
  have guarded : Run (Guarded FatServer.RoomWhenAccepted FatStep) started openingEvents
      measured := opened.guarded_of_labels fun event member server command dequeues => by
    obtain ⟨call, index, rfl, _⟩ := dequeues
    simp [openingEvents] at member
  have room : measured.RoomWhenAccepted (.pop firstWorker) := fun _ _ _ => by
    rw [nothing]
    decide
  exact ⟨server, completions_written_to_free_slots started_initial rfl
    (guarded.snoc ⟨room, pops⟩), one⟩

end LionsOS.Fat

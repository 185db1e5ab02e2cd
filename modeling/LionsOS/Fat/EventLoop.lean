/-
This file embeds the event loop of `event.c`: a call of `notified` as the steps
it takes, with the client and the worker cothreads acting in between. The client
owns the tail of the command queue, its messages, and the head of the completion
queue, and changes them whenever it likes. Workers only run while the loop
yields, each until it waits for the block device or its operation is finished;
what they do to files is not part of this file. Of the cothread library, a handle
is free when its cothread is not active, and a spawned cothread gets the handle
that was reported free.
-/

import LionsOS.Fs.Protocol
import Mathlib.Data.List.FinRange

open Function

namespace LionsOS.Fat

open LionsOS.Fs

/-! ### State -/

def fatWorkerThreadNum : Nat := 4
def fatThreadNum : Nat := fatWorkerThreadNum + 1

inductive CoState where
  | notActive
  | ready
  | blocked
  | running
  deriving DecidableEq

inductive SpaceStatus where
  | free
  | inuse
  deriving DecidableEq

structure CoData where
  params : Fin 48 → UInt8T
  status : UInt64T
  result : UInt64T

structure FsRequest where
  cmd : UInt64T
  sharedData : CoData
  requestId : UInt64T
  handle : Fin fatThreadNum
  stat : SpaceStatus

/-- Where a call of `notified` is. -/
inductive Stage where
  /-- Dequeuing block responses. -/
  | responses
  /-- The workers run. -/
  | yielding
  /-- Looking for finished requests, in these slots. -/
  | reaping (slots : List (Fin fatThreadNum))
  /-- Popping requests. -/
  | popping
  /-- Popping, after the length of the command queue was read but not that of the completion
  queue. -/
  | counting
  | publishing
  deriving DecidableEq

/-- A call of `notified`, with its local variables. -/
structure NotifiedCall where
  stage : Stage
  newRequestPopped : Bool
  queueSizeInit : Bool
  commandQueueSize : UInt64T
  completionQueueSize : UInt64T
  fsRequestDequeued : UInt32T
  fsResponseEnqueued : UInt32T

structure FatServer where
  fsCommandQueue : FsQueue FsCmd
  fsCompletionQueue : FsQueue FsCmpl
  requestPool : Fin fatThreadNum → FsRequest
  cothread : Fin fatThreadNum → CoState
  blkRequestPushed : Bool
  clientNotified : Bool
  blkNotified : Bool
  call : Option NotifiedCall

/-- The slot and handle of the event loop itself. -/
def eventThread : Fin fatThreadNum := ⟨0, by decide⟩

/-- The slots of the workers. -/
def workerSlots : List (Fin fatThreadNum) :=
  (List.finRange fatThreadNum).tail

theorem mem_workerSlots : ∀ slot, slot ∈ workerSlots ↔ slot ≠ eventThread := by
  decide

namespace NotifiedCall

/-- The start of a call. The sizes are not initialised, and not read before they are. -/
def start : NotifiedCall where
  stage := .responses
  newRequestPopped := true
  queueSizeInit := false
  commandQueueSize := 0
  completionQueueSize := 0
  fsRequestDequeued := 0
  fsResponseEnqueued := 0

end NotifiedCall

inductive FatEvent where
  /-- The client writes a slot of the command queue. -/
  | putCommand (slot : Fin fsQueueCapacity) (command : FsCmd)
  | publishCommands (amount : UInt64T)
  | consumeCompletions (amount : UInt64T)
  /-- The server is notified by the client or the block virtualiser. -/
  | notified
  /-- A block response is dequeued. -/
  | blkResponse (id : Fin fatThreadNum)
  | yield
  /-- A worker waits for the block device. -/
  | block (handle : Fin fatThreadNum)
  /-- A worker's operation is finished. -/
  | finish (handle : Fin fatThreadNum) (status result : UInt64T)
  | resume
  /-- One round of looking for finished requests. -/
  | reap
  | readCommandQueueSize
  | readCompletionQueueSize
  /-- One round of popping requests, with this free handle. -/
  | pop (index : Fin fatThreadNum)
  /-- No more requests are popped. -/
  | stop
  | publish

namespace FatServer

/-! ### The client -/

def putCommand (server : FatServer) (slot : Fin fsQueueCapacity) (command : FsCmd) : FatServer :=
  { server with fsCommandQueue := server.fsCommandQueue.write slot command }

def publishCommands (server : FatServer) (amount : UInt64T) : FatServer :=
  { server with fsCommandQueue := fsQueuePublishProduction server.fsCommandQueue amount }

/-- The client consumes completions that were published. -/
def consumeCompletions (server : FatServer) (amount : UInt64T) : Option FatServer :=
  if amount ≤ fsQueueLengthConsumer server.fsCompletionQueue then
    some { server with
      fsCompletionQueue := fsQueuePublishConsumption server.fsCompletionQueue amount }
  else none

/-! ### The workers -/

/-- The cothread of a handle goes on to another state. -/
def setCothread (server : FatServer) (handle : Fin fatThreadNum) (state : CoState) : FatServer :=
  { server with cothread := update server.cothread handle state }

theorem setCothread_self (server : FatServer) (handle : Fin fatThreadNum) (state : CoState) :
    (server.setCothread handle state).cothread handle = state :=
  update_self _ _ _

theorem setCothread_of_ne (server : FatServer) {handle other : Fin fatThreadNum} (state : CoState)
    (different : other ≠ handle) :
    (server.setCothread handle state).cothread other = server.cothread other :=
  update_of_ne different _ _

/-- A worker fills in what the client will be told. -/
def setResult (server : FatServer) (index : Fin fatThreadNum) (status result : UInt64T) :
    FatServer :=
  let request := server.requestPool index
  { server with
    requestPool := update server.requestPool index
      { request with sharedData := { request.sharedData with status, result } } }

/-- Whether a cothread can be spawned. -/
def FreeHandleAvailable (server : FatServer) : Prop :=
  ∃ handle, server.cothread handle = .notActive

instance (server : FatServer) : Decidable server.FreeHandleAvailable :=
  inferInstanceAs (Decidable (∃ handle, server.cothread handle = .notActive))

/-! ### Finished requests -/

def fillClientResponse (finishedRequest : FsRequest) : FsCmpl where
  id := finishedRequest.requestId
  status := finishedRequest.sharedData.status
  data := finishedRequest.sharedData.result

/-- Whether the request of a slot is finished and not yet answered. -/
def finished (server : FatServer) (slot : Fin fatThreadNum) : Bool :=
  server.cothread (server.requestPool slot).handle == .notActive &&
    (server.requestPool slot).stat == .inuse

/-- Answer the request of a slot, behind the completions that are there already. -/
def respond (server : FatServer) (call : NotifiedCall) (slot : Fin fatThreadNum) : FatServer :=
  let request := server.requestPool slot
  { server with
    fsCompletionQueue := server.fsCompletionQueue.write
      (fsQueueIdxEmpty server.fsCompletionQueue (call.fsResponseEnqueued.setWidth 64))
      (fillClientResponse request)
    requestPool := update server.requestPool slot { request with stat := .free }
    call := some { call with fsResponseEnqueued := call.fsResponseEnqueued + 1 } }

theorem respond_requestPool_of_ne (server : FatServer) (call : NotifiedCall)
    {slot other : Fin fatThreadNum} (different : other ≠ slot) :
    (server.respond call slot).requestPool other = server.requestPool other :=
  update_of_ne different _ _

/-- One round of the loop over the slots, or its end. -/
def reap (server : FatServer) (call : NotifiedCall) : List (Fin fatThreadNum) → FatServer
  | [] => { server with call := some { call with stage := .popping, newRequestPopped := false } }
  | slot :: rest =>
    let call := { call with stage := .reaping rest }
    if server.finished slot then server.respond call slot else { server with call := some call }

/-! ### New requests -/

/-- Set up a request in the pool and spawn a worker for it. -/
def setupRequest (server : FatServer) (index : Fin fatThreadNum) (message : FsCmd) : FatServer :=
  let request := server.requestPool index
  { server with
    requestPool := update server.requestPool index
      { request with
        requestId := message.id
        cmd := message.type
        sharedData := { request.sharedData with params := message.params }
        handle := index
        stat := .inuse }
    cothread := update server.cothread index .ready }

/-- The command that is next to be dequeued. -/
def nextCommand (server : FatServer) (call : NotifiedCall) : FsCmd :=
  server.fsCommandQueue.buffer
    (fsQueueIdxFilled server.fsCommandQueue (call.fsRequestDequeued.setWidth 64))

/-- Dequeue a command. One with a wrong type is not processed. -/
def pop (server : FatServer) (call : NotifiedCall) (index : Fin fatThreadNum) : FatServer :=
  let clientReq := server.nextCommand call
  let call := { call with
    fsRequestDequeued := call.fsRequestDequeued + 1
    commandQueueSize := call.commandQueueSize - 1 }
  if fsNumCommands ≤ clientReq.type then { server with call := some call }
  else
    { server.setupRequest index clientReq with
      call := some { call with
        newRequestPopped := true
        completionQueueSize := call.completionQueueSize + 1 } }

theorem pop_of_known {server : FatServer} {call : NotifiedCall} (index : Fin fatThreadNum)
    (known : (server.nextCommand call).type < fsNumCommands) :
    server.pop call index = { server.setupRequest index (server.nextCommand call) with
      call := some { call with
        fsRequestDequeued := call.fsRequestDequeued + 1
        commandQueueSize := call.commandQueueSize - 1
        newRequestPopped := true
        completionQueueSize := call.completionQueueSize + 1 } } :=
  if_neg (BitVec.not_le.mpr known)

/-- Whether popping has to stop although a handle is free. -/
def popped (call : NotifiedCall) : Bool :=
  call.commandQueueSize == 0 || call.completionQueueSize == BitVec.ofNat 64 fsQueueCapacity

/-- Publish what was dequeued and enqueued, and notify. -/
def publish (server : FatServer) (call : NotifiedCall) : FatServer :=
  { server with
    fsCommandQueue := if call.fsRequestDequeued = 0 then server.fsCommandQueue
      else fsQueuePublishConsumption server.fsCommandQueue (call.fsRequestDequeued.setWidth 64)
    fsCompletionQueue := if call.fsResponseEnqueued = 0 then server.fsCompletionQueue
      else fsQueuePublishProduction server.fsCompletionQueue (call.fsResponseEnqueued.setWidth 64)
    clientNotified := server.clientNotified || call.fsResponseEnqueued != 0
    blkNotified := server.blkNotified || server.blkRequestPushed
    blkRequestPushed := false
    call := none }

/-! ### Events -/

/-- The server during a call. -/
def during (server : FatServer) (call : NotifiedCall) : FatServer :=
  { server with call := some call }

/-- Go to another stage of the call. -/
def goTo (server : FatServer) (call : NotifiedCall) (stage : Stage) : FatServer :=
  { server with call := some { call with stage } }

/-- What an event of the server does during a call. -/
def performIn (server : FatServer) (call : NotifiedCall) : FatEvent → Option FatServer
  | .blkResponse id =>
    let handle := (server.requestPool id).handle
    if call.stage = .responses ∧ server.cothread handle = .blocked then
      some (server.setCothread handle .ready)
    else none
  | .yield => if call.stage = .responses then some (server.goTo call .yielding) else none
  | .block handle =>
    if call.stage = .yielding ∧ server.cothread handle = .ready then
      some { server.setCothread handle .blocked with blkRequestPushed := true }
    else none
  | .finish handle status result =>
    if call.stage = .yielding ∧ server.cothread handle = .ready then
      some ((server.setResult handle status result).setCothread handle .notActive)
    else none
  | .resume =>
    if call.stage = .yielding ∧ ∀ handle, server.cothread handle ≠ .ready then
      some (server.goTo call (.reaping workerSlots))
    else none
  | .reap =>
    match call.stage with
    | .reaping slots => some (server.reap call slots)
    | _ => none
  | .readCommandQueueSize =>
    if call.stage = .popping ∧ call.queueSizeInit = false ∧ server.FreeHandleAvailable then
      some (server.goTo
        { call with commandQueueSize := fsQueueLengthConsumer server.fsCommandQueue } .counting)
    else none
  | .readCompletionQueueSize =>
    if call.stage = .counting then
      some (server.goTo
        { call with
          completionQueueSize := fsQueueLengthProducer server.fsCompletionQueue
          queueSizeInit := true } .popping)
    else none
  | .pop index =>
    if call.stage = .popping ∧ call.queueSizeInit = true ∧ server.cothread index = .notActive ∧
        popped call = false then
      some (server.pop call index)
    else none
  | .stop =>
    if call.stage = .popping ∧
        (¬ server.FreeHandleAvailable ∨ call.queueSizeInit = true ∧ popped call = true) then
      some (server.goTo call (if call.newRequestPopped then .responses else .publishing))
    else none
  | .publish => if call.stage = .publishing then some (server.publish call) else none
  | _ => none

/-- What an event does, `none` when it cannot happen. -/
def perform (server : FatServer) : FatEvent → Option FatServer
  | .putCommand slot command => some (server.putCommand slot command)
  | .publishCommands amount => some (server.publishCommands amount)
  | .consumeCompletions amount => server.consumeCompletions amount
  | .notified =>
    match server.call with
    | none => some { server with call := some NotifiedCall.start }
    | some _ => none
  | event => server.call.bind fun call => server.performIn call event

end FatServer

def FatStep (server : FatServer) (event : FatEvent) (next : FatServer) : Prop :=
  server.perform event = some next

namespace FatServer

/-- The events that can happen, each with what it does. -/
inductive Acts (server : FatServer) : FatEvent → FatServer → Prop
  | putCommand {slot : Fin fsQueueCapacity} {command : FsCmd} :
    Acts server (.putCommand slot command) (server.putCommand slot command)
  | publishCommands {amount : UInt64T} :
    Acts server (.publishCommands amount) (server.publishCommands amount)
  | consumeCompletions {amount : UInt64T}
    (published : amount ≤ fsQueueLengthConsumer server.fsCompletionQueue) :
    Acts server (.consumeCompletions amount)
      { server with
        fsCompletionQueue := fsQueuePublishConsumption server.fsCompletionQueue amount }
  | notified (idle : server.call = none) :
    Acts server .notified { server with call := some NotifiedCall.start }
  | blkResponse {call : NotifiedCall} {id : Fin fatThreadNum} (current : server.call = some call)
    (stage : call.stage = .responses)
    (blocked : server.cothread (server.requestPool id).handle = .blocked) :
    Acts server (.blkResponse id) (server.setCothread (server.requestPool id).handle .ready)
  | yield {call : NotifiedCall} (current : server.call = some call)
    (stage : call.stage = .responses) : Acts server .yield (server.goTo call .yielding)
  | block {call : NotifiedCall} {handle : Fin fatThreadNum} (current : server.call = some call)
    (stage : call.stage = .yielding) (ready : server.cothread handle = .ready) :
    Acts server (.block handle) { server.setCothread handle .blocked with blkRequestPushed := true }
  | finish {call : NotifiedCall} {handle : Fin fatThreadNum} {status result : UInt64T}
    (current : server.call = some call) (stage : call.stage = .yielding)
    (ready : server.cothread handle = .ready) :
    Acts server (.finish handle status result)
      ((server.setResult handle status result).setCothread handle .notActive)
  | resume {call : NotifiedCall} (current : server.call = some call)
    (stage : call.stage = .yielding) (settled : ∀ handle, server.cothread handle ≠ .ready) :
    Acts server .resume (server.goTo call (.reaping workerSlots))
  | reaped {call : NotifiedCall} (current : server.call = some call)
    (stage : call.stage = .reaping []) :
    Acts server .reap
      { server with call := some { call with stage := .popping, newRequestPopped := false } }
  | respond {call : NotifiedCall} {slot : Fin fatThreadNum} {rest : List (Fin fatThreadNum)}
    (current : server.call = some call) (stage : call.stage = .reaping (slot :: rest))
    (finished : server.finished slot = true) :
    Acts server .reap (server.respond { call with stage := .reaping rest } slot)
  | skip {call : NotifiedCall} {slot : Fin fatThreadNum} {rest : List (Fin fatThreadNum)}
    (current : server.call = some call) (stage : call.stage = .reaping (slot :: rest))
    (unfinished : server.finished slot = false) :
    Acts server .reap (server.goTo call (.reaping rest))
  | readCommandQueueSize {call : NotifiedCall} (current : server.call = some call)
    (stage : call.stage = .popping) (unknown : call.queueSizeInit = false)
    (available : server.FreeHandleAvailable) :
    Acts server .readCommandQueueSize (server.goTo
      { call with commandQueueSize := fsQueueLengthConsumer server.fsCommandQueue } .counting)
  | readCompletionQueueSize {call : NotifiedCall} (current : server.call = some call)
    (stage : call.stage = .counting) :
    Acts server .readCompletionQueueSize (server.goTo
      { call with
        completionQueueSize := fsQueueLengthProducer server.fsCompletionQueue
        queueSizeInit := true } .popping)
  | pop {call : NotifiedCall} {index : Fin fatThreadNum} (current : server.call = some call)
    (stage : call.stage = .popping) (known : call.queueSizeInit = true)
    (available : server.cothread index = .notActive) (more : popped call = false) :
    Acts server (.pop index) (server.pop call index)
  | stop {call : NotifiedCall} (current : server.call = some call) (stage : call.stage = .popping)
    (done : ¬ server.FreeHandleAvailable ∨ call.queueSizeInit = true ∧ popped call = true) :
    Acts server .stop
      (server.goTo call (if call.newRequestPopped then .responses else .publishing))
  | publish {call : NotifiedCall} (current : server.call = some call)
    (stage : call.stage = .publishing) : Acts server .publish (server.publish call)

variable {server next : FatServer} {event : FatEvent}

theorem acts (step : FatStep server event next) : server.Acts event next := by
  unfold FatStep at step
  cases event with
  | putCommand slot command =>
    cases step
    exact Acts.putCommand
  | publishCommands amount =>
    cases step
    exact Acts.publishCommands
  | consumeCompletions amount =>
    simp only [perform, consumeCompletions, Option.ite_none_right_eq_some,
      Option.some.injEq] at step
    obtain ⟨published, rfl⟩ := step
    exact Acts.consumeCompletions published
  | notified =>
    cases idle : server.call with
    | some call => simp [perform, idle] at step
    | none =>
      simp only [perform, idle, Option.some.injEq] at step
      subst step
      exact Acts.notified idle
  | reap =>
    obtain ⟨call, current, performed⟩ := Option.bind_eq_some_iff.mp step
    simp only [performIn] at performed
    split at performed
    case h_2 => cases performed
    case h_1 slots stage =>
      cases performed
      cases slots with
      | nil => exact Acts.reaped current stage
      | cons slot rest =>
        cases finished : server.finished slot with
        | true =>
          simp only [reap, finished]
          exact Acts.respond current stage finished
        | false =>
          simp only [reap, finished]
          exact Acts.skip current stage finished
  | _ =>
    obtain ⟨call, current, performed⟩ := Option.bind_eq_some_iff.mp step
    simp only [performIn, Option.ite_none_right_eq_some, Option.some.injEq] at performed
    obtain ⟨allowed, rfl⟩ := performed
    first
    | exact Acts.yield current allowed
    | exact Acts.readCompletionQueueSize current allowed
    | exact Acts.publish current allowed
    | exact Acts.blkResponse current allowed.1 allowed.2
    | exact Acts.block current allowed.1 allowed.2
    | exact Acts.finish current allowed.1 allowed.2
    | exact Acts.resume current allowed.1 allowed.2
    | exact Acts.stop current allowed.1 allowed.2
    | exact Acts.readCommandQueueSize current allowed.1 allowed.2.1 allowed.2.2
    | exact Acts.pop current allowed.1 allowed.2.1 allowed.2.2.1 allowed.2.2.2

theorem Acts.step (acts : server.Acts event next) : FatStep server event next := by
  cases acts with
  | putCommand => rfl
  | publishCommands => rfl
  | consumeCompletions published => exact if_pos published
  | notified idle => simp [FatStep, perform, idle]
  | reaped current stage => simp [FatStep, perform, performIn, current, stage, reap]
  | respond current stage finished =>
    simp [FatStep, perform, performIn, current, stage, reap, finished]
  | skip current stage unfinished =>
    simp [FatStep, perform, performIn, current, stage, reap, unfinished, goTo]
  | blkResponse current stage blocked =>
    simp [FatStep, perform, performIn, current, stage, blocked]
  | yield current stage => simp [FatStep, perform, performIn, current, stage]
  | block current stage ready
  | finish current stage ready => simp [FatStep, perform, performIn, current, stage, ready]
  | resume current stage settled => simp [FatStep, perform, performIn, current, stage, settled]
  | readCommandQueueSize current stage unknown available =>
    simp [FatStep, perform, performIn, current, stage, unknown, available]
  | readCompletionQueueSize current stage => simp [FatStep, perform, performIn, current, stage]
  | pop current stage known available more =>
    simp [FatStep, perform, performIn, current, stage, known, available, more]
  | stop current stage done => simp [FatStep, perform, performIn, current, stage, done]
  | publish current stage => simp [FatStep, perform, performIn, current, stage]

end FatServer

end LionsOS.Fat

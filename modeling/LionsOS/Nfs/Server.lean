/-
This file is about the NFS server among its client and libnfs. A call of
`process_commands` is the steps it takes, and the client may act between any two
of them; libnfs may invoke the callback of a pending call at any time, even from
within the function that submits it, and never twice for one call. What was taken
from the command queue, what was replied and what was accessed of the share is
kept beside the state.
-/

import LionsOS.Nfs.Handlers
import LionsOS.Lib.Runs

namespace LionsOS.Nfs

open LionsOS.Fs StepRun

/-! ### The server among the others -/

/-- A call that libnfs has accepted, with the command it was submitted for. -/
structure Pending where
  type : CmdType
  params : CmdParams
  id : UInt64T
  call : NfsCall
  cont : Fin maxConcurrentOps

/-- A call of `process_commands`, with its local variables. -/
structure ProcessCommands where
  commandCount : UInt64T
  toConsume : Option UInt64T
  index : UInt64T

structure NfsSystem where
  server : NfsServer
  processing : Option ProcessCommands
  pending : List Pending
  /-- The ids of the commands taken so far. -/
  taken : List UInt64T
  /-- The completions put in the queue so far. -/
  replies : List FsCmpl
  accesses : List ShareAccess
  failure : Option NfsFailure

inductive NfsEvent where
  | putCommand (slot : Fin fsQueueCapacity) (command : FsCmd)
  | publishCommands (amount : UInt64T)
  | consumeCompletions (amount : UInt64T)
  | writeShare (share : Nat → UInt8T)
  | readCommandCount
  | readCompletionSpace
  /-- The next command is taken and handled. -/
  | handle (answer : NfsAnswer)
  | publishConsumption
  /-- libnfs invokes the callback of one of the pending calls. -/
  | callback (index : Nat) (reply : NfsReply)

namespace NfsSystem

/-- The server after a handler or a callback, for a command of this type. -/
def after (system : NfsSystem) (type : CmdType) (params : CmdParams) (id : UInt64T)
    (outcome : Outcome) : NfsSystem :=
  let system := { system with
    server := outcome.server
    accesses := system.accesses ++ outcome.ranges.map fun range => { type, params, range } }
  match outcome.progress with
  | .submitted call cont =>
    { system with pending := { type, params, id, call, cont } :: system.pending }
  | .replied cmpl => { system with replies := system.replies ++ [cmpl] }
  | .silent => system
  | .failed failure => { system with failure := some failure }

/-- The command at an index of the queue is taken. One of no type accesses nothing, so it does not
matter for which type its accesses are kept. -/
def take (system : NfsSystem) (answer : NfsAnswer) (index : UInt64T) : NfsSystem :=
  let cmd := system.server.fsCommandQueue.buffer
    (fsQueueIdxFilled system.server.fsCommandQueue index)
  let system := { system with taken := system.taken ++ [cmd.id] }
  match CmdType.ofNumber cmd.type with
  | none =>
    system.after .initialise cmd.params cmd.id
      (reply system.server (cmplOf cmd.id fsStatusInvalidCommand))
  | some type =>
    system.after type cmd.params cmd.id (cmdHandler system.server answer cmd.id cmd.params type)

/-- The client acts. -/
def client (system : NfsSystem) (server : NfsServer) : NfsSystem :=
  { system with server }

/-- One step, unless it is not possible now or an assertion has failed. -/
def perform (system : NfsSystem) (event : NfsEvent) : Option NfsSystem :=
  if system.failure.isSome then none
  else match event with
  | .putCommand slot command =>
    some (system.client { system.server with
      fsCommandQueue := system.server.fsCommandQueue.write slot command })
  | .publishCommands amount =>
    some (system.client { system.server with
      fsCommandQueue := fsQueuePublishProduction system.server.fsCommandQueue amount })
  | .consumeCompletions amount =>
    if amount ≤ fsQueueLengthConsumer system.server.fsCompletionQueue then
      some (system.client { system.server with
        fsCompletionQueue := fsQueuePublishConsumption system.server.fsCompletionQueue amount })
    else none
  | .writeShare share => some (system.client { system.server with share })
  | .readCommandCount =>
    match system.processing with
    | none => some { system with
        processing := some {
          commandCount := fsQueueLengthConsumer system.server.fsCommandQueue
          toConsume := none
          index := 0 } }
    | some _ => none
  | .readCompletionSpace =>
    match system.processing with
    | some { commandCount, toConsume := none, index } =>
      let completionSpace := BitVec.ofNat 64 fsQueueCapacity -
        fsQueueLengthProducer system.server.fsCompletionQueue
      let toConsume := if commandCount < completionSpace then commandCount else completionSpace
      some { system with processing := some { commandCount, toConsume := some toConsume, index } }
    | _ => none
  | .handle answer =>
    match system.processing with
    | some { commandCount, toConsume := some toConsume, index } =>
      if index < toConsume then
        some ({ system with
          processing := some { commandCount, toConsume := some toConsume, index := index + 1 } }.take
            answer index)
      else none
    | _ => none
  | .publishConsumption =>
    match system.processing with
    | some { commandCount := _, toConsume := some toConsume, index } =>
      if index = toConsume then
        some { system with
          server := { system.server with
            fsCommandQueue := fsQueuePublishConsumption system.server.fsCommandQueue toConsume }
          processing := none }
      else none
    | _ => none
  | .callback index reply =>
    match system.pending[index]? with
    | some { type, params, id, call, cont } =>
      some ({ system with pending := system.pending.eraseIdx index }.after type params id
        (callback system.server cont reply call))
    | none => none

def Step (system : NfsSystem) (event : NfsEvent) (next : NfsSystem) : Prop :=
  system.perform event = some next

theorem live_of_step {system next : NfsSystem} {event : NfsEvent} (step : Step system event next) :
    system.failure = none := by
  unfold Step perform at step
  split at step
  · cases step
  · rename_i went
    exact Option.not_isSome_iff_eq_none.mp went

/-! ### What a step can do -/

/-- Only the queues, the share and what is being processed may be other than before, and no
completion was added. -/
structure SameHandling (system next : NfsSystem) : Prop where
  table : next.server.table = system.server.table
  pool : next.server.continuationPool = system.server.continuationPool
  first : next.server.firstFreeCont = system.server.firstFreeCont
  pending : next.pending = system.pending
  taken : next.taken = system.taken
  replies : next.replies = system.replies
  accesses : next.accesses = system.accesses
  failure : next.failure = system.failure
  completions : (fsQueueLengthProducer next.server.fsCompletionQueue).toNat ≤
    (fsQueueLengthProducer system.server.fsCompletionQueue).toNat

/-- The client or the event loop goes on, a command is taken and handled, or a callback is
invoked. -/
inductive Steps (system : NfsSystem) : NfsEvent → NfsSystem → Prop
  | goesOn {event : NfsEvent} {next : NfsSystem} (same : SameHandling system next)
      (notHandled : ∀ answer, event ≠ .handle answer)
      (notCalled : ∀ index reply, event ≠ .callback index reply) : Steps system event next
  | handles {answer : NfsAnswer} {commandCount toConsume index : UInt64T}
      (processing : system.processing = some { commandCount, toConsume := some toConsume, index })
      (more : index < toConsume) :
      Steps system (.handle answer) (({ system with
        processing := some { commandCount, toConsume := some toConsume, index := index + 1 } } :
          NfsSystem).take answer index)
  | calls {index : Nat} {reply : NfsReply} {type : CmdType} {params : CmdParams} {id : UInt64T}
      {call : NfsCall} {cont : Fin maxConcurrentOps}
      (found : system.pending[index]? = some { type, params, id, call, cont }) :
      Steps system (.callback index reply)
        (({ system with pending := system.pending.eraseIdx index } : NfsSystem).after type params id
          (callback system.server cont reply call))

theorem steps_of_step {system next : NfsSystem} {event : NfsEvent}
    (step : Step system event next) : Steps system event next := by
  unfold Step perform at step
  split at step
  · cases step
  · cases event with
    | putCommand slot command | publishCommands amount | writeShare share =>
      cases step
      exact .goesOn ⟨rfl, rfl, rfl, rfl, rfl, rfl, rfl, rfl, le_rfl⟩ nofun nofun
    | consumeCompletions amount =>
      obtain ⟨enough, ⟨⟩⟩ := Option.ite_none_right_eq_some.mp step
      refine .goesOn ⟨rfl, rfl, rfl, rfl, rfl, rfl, rfl, rfl, ?_⟩ nofun nofun
      exact (toNat_sub_add enough).trans_le (Nat.sub_le _ _)
    | readCommandCount | readCompletionSpace =>
      simp only at step
      split at step
      · cases step
        exact .goesOn ⟨rfl, rfl, rfl, rfl, rfl, rfl, rfl, rfl, le_rfl⟩ nofun nofun
      · cases step
    | publishConsumption =>
      simp only at step
      split at step
      · obtain ⟨_, ⟨⟩⟩ := Option.ite_none_right_eq_some.mp step
        exact .goesOn ⟨rfl, rfl, rfl, rfl, rfl, rfl, rfl, rfl, le_rfl⟩ nofun nofun
      · cases step
    | handle answer =>
      simp only at step
      split at step
      · rename_i processing
        obtain ⟨more, ⟨⟩⟩ := Option.ite_none_right_eq_some.mp step
        exact .handles processing more
      · cases step
    | callback index reply =>
      simp only at step
      split at step
      · rename_i found
        cases step
        exact .calls found
      · cases step

/-! ### The start -/

/-- The links of the continuation pool after it has been initialised. -/
def initialContinuation (index : Fin maxConcurrentOps) : Continuation where
  requestId := 0
  data := fun _ => 0
  nextFree := if more : index.val + 1 < maxConcurrentOps then some ⟨index.val + 1, more⟩ else none

/-- The server before the first command. -/
structure Initial (system : NfsSystem) : Prop where
  nfs : system.server.nfs = false
  table : system.server.table =
    fun _ => { state := .free, handle := 0, busyCount := 0, generation := 0 }
  continuationPool : system.server.continuationPool = initialContinuation
  firstFreeCont : system.server.firstFreeCont = some ⟨0, by decide⟩
  commandHead : system.server.fsCommandQueue.head = 0
  commandTail : system.server.fsCommandQueue.tail = 0
  completionHead : system.server.fsCompletionQueue.head = 0
  completionTail : system.server.fsCompletionQueue.tail = 0
  processing : system.processing = none
  pending : system.pending = []
  taken : system.taken = []
  replies : system.replies = []
  accesses : system.accesses = []
  failure : system.failure = none

/-- The server as it starts, with zeroed queues and an empty share. -/
def started : NfsSystem where
  server :=
    { nfs := false
      table := fun _ => { state := .free, handle := 0, busyCount := 0, generation := 0 }
      pathBuffer := fun _ => 0
      continuationPool := initialContinuation
      firstFreeCont := some ⟨0, by decide⟩
      fsCommandQueue :=
        { head := 0, tail := 0, buffer := fun _ => { id := 0, type := 0, params := fun _ => 0 } }
      fsCompletionQueue :=
        { head := 0, tail := 0, buffer := fun _ => { id := 0, status := 0, data := 0 } }
      share := fun _ => 0 }
  processing := none
  pending := []
  taken := []
  replies := []
  accesses := []
  failure := none

theorem started_initial : started.Initial := by
  constructor <;> rfl

end NfsSystem

end LionsOS.Nfs

/-
This file embeds the client side of the file system protocol of `helpers.c`:
request ids that are recycled, commands that are issued, completions that are
stored under their id, and calls of `fs_command_blocking` that wait for theirs.
A call goes on between two waits without another one coming in between. The
server reads the commands in order, publishes that it has consumed them and
completes each of them once, in whatever order it likes; the queues between the
two are first in, first out. Every message is marked with the call it belongs
to, which neither side can see.
-/

import LionsOS.Fs.Protocol
import LionsOS.Lib.Runs
import Mathlib.Data.List.FinRange

open Function

namespace LionsOS.Fs

open StepRun Option

/-! ### State -/

def requestIdMaximum : UInt64T := BitVec.ofNat 64 (fsQueueCapacity - 1)

structure RequestMetadata where
  command : FsCmd
  completion : FsCmpl
  used : Bool
  complete : Bool

/-- A message with the call it belongs to. -/
structure OfCall (Msg : Type) where
  call : Nat
  message : Msg

/-- A call of `fs_process_completions`, with its local variables. -/
structure Processing where
  toConsume : Nat
  i : Nat

structure FsSystem where
  requestMetadata : Fin fsQueueCapacity → RequestMetadata
  /-- The request id of a call that waits. -/
  waiting : Nat → Option (Fin fsQueueCapacity)
  /-- How many calls there have been. -/
  calls : Nat
  processing : Option Processing
  /-- The commands that the server has not published as consumed. -/
  commandQueue : List (OfCall FsCmd)
  /-- How many of these it has read. -/
  read : Nat
  /-- The commands it has read and not completed. -/
  inServer : List (OfCall FsCmd)
  completionQueue : List (OfCall FsCmpl)
  /-- The completion of each call's command, once there is one. -/
  answers : Nat → Option FsCmpl
  /-- The completion each call has returned. -/
  results : Nat → Option FsCmpl
  /-- An assertion has fired. -/
  failed : Bool

inductive ClientEvent where
  | fsCommandBlocking (cmd : FsCmd)
  /-- A call that waits looks whether its request is complete. -/
  | wake (call : Nat)
  | fsProcessCompletions
  | processCompletion
  | completionsProcessed
  /-- The server reads a command. -/
  | readCommand
  | publishConsumption (amount : Nat)
  /-- The server completes one of the commands it has read. -/
  | complete (index : Nat) (status data : UInt64T)

namespace FsSystem

/-! ### The client -/

/-- The request of an id, if it is one of the table. -/
def requestOf (requestId : UInt64T) : Option (Fin fsQueueCapacity) :=
  if small : requestId ≤ requestIdMaximum then some ⟨requestId.toNat, Nat.lt_succ_of_le small⟩
  else none

def requestIdOf (request : Fin fsQueueCapacity) : UInt64T :=
  BitVec.ofNat 64 request

def setRequest (system : FsSystem) (request : Fin fsQueueCapacity) (metadata : RequestMetadata) :
    FsSystem :=
  { system with requestMetadata := update system.requestMetadata request metadata }

/-- The first request that is not used. Without one, the search leaves the table. -/
def fsRequestAllocate (system : FsSystem) : Option (Fin fsQueueCapacity) :=
  (List.finRange fsQueueCapacity).find? fun request => !(system.requestMetadata request).used

/-- `none` when an assertion fires. -/
def fsRequestFree (system : FsSystem) (requestId : UInt64T) : Option FsSystem :=
  (requestOf requestId).bind fun request =>
    let metadata := system.requestMetadata request
    if metadata.used then
      some (system.setRequest request { metadata with used := false, complete := false })
    else none

/-- `none` when an assertion fires. -/
def fsCommandIssue (system : FsSystem) (cmd : OfCall FsCmd) : Option FsSystem :=
  (requestOf cmd.message.id).bind fun request =>
    let metadata := system.requestMetadata request
    if metadata.used ∧ system.commandQueue.length ≠ fsQueueCapacity then
      some { system.setRequest request { metadata with command := cmd.message } with
        commandQueue := system.commandQueue ++ [cmd] }
    else none

/-- `none` when an assertion fires. -/
def fsCommandComplete (system : FsSystem) (request : Fin fsQueueCapacity) : Option FsCmpl :=
  let metadata := system.requestMetadata request
  if metadata.complete then some metadata.completion else none

/-- Go on if no assertion has fired. -/
def asserting (system : FsSystem) (next : Option FsSystem) : FsSystem :=
  next.getD { system with failed := true }

/-- A new call, up to its first wait. -/
def beginCall (system : FsSystem) (request : Fin fsQueueCapacity) (cmd : FsCmd) : FsSystem :=
  let allocated := { system.setRequest request
    { system.requestMetadata request with used := true } with
      waiting := update system.waiting system.calls (some request)
      calls := system.calls + 1 }
  system.asserting (allocated.fsCommandIssue ⟨system.calls, { cmd with id := requestIdOf request }⟩)

/-- The end of a call, from its last wait on. -/
def endCall (system : FsSystem) (call : Nat) (request : Fin fsQueueCapacity) : FsSystem :=
  system.asserting ((system.fsCommandComplete request).bind fun completion =>
    (system.fsRequestFree (requestIdOf request)).map fun freed =>
      { freed with
        waiting := update system.waiting call none
        results := update system.results call (some completion) })

/-- Store a completion under its id. One with an id that is none is dropped. -/
def store (system : FsSystem) (completion : FsCmpl) : FsSystem :=
  match requestOf completion.id with
  | some request =>
    system.setRequest request
      { system.requestMetadata request with completion := completion, complete := true }
  | none => system

/-! ### Events -/

/-- What an event does, `none` when it cannot happen. -/
def perform (system : FsSystem) : ClientEvent → Option FsSystem
  | .fsCommandBlocking cmd =>
    system.fsRequestAllocate.map fun request => system.beginCall request cmd
  | .wake call =>
    (system.waiting call).map fun request =>
      if (system.requestMetadata request).complete then system.endCall call request else system
  | .fsProcessCompletions =>
    match system.processing with
    | none =>
      some { system with processing := some ⟨system.completionQueue.length, 0⟩ }
    | some _ => none
  | .processCompletion =>
    system.processing.bind fun processing =>
      if processing.i < processing.toConsume then
        system.completionQueue[processing.i]?.map fun completion =>
          { system.store completion.message with
            processing := some { processing with i := processing.i + 1 } }
      else none
  | .completionsProcessed =>
    system.processing.bind fun processing =>
      if processing.i < processing.toConsume then none
      else
        some { system with
          processing := none
          completionQueue := system.completionQueue.drop processing.toConsume }
  | .readCommand =>
    system.commandQueue[system.read]?.map fun cmd =>
      { system with read := system.read + 1, inServer := cmd :: system.inServer }
  | .publishConsumption amount =>
    if amount ≤ system.read then
      some { system with
        commandQueue := system.commandQueue.drop amount
        read := system.read - amount }
    else none
  | .complete index status data =>
    system.inServer[index]?.map fun cmd =>
      let completion := { id := cmd.message.id, status, data }
      { system with
        inServer := system.inServer.eraseIdx index
        completionQueue := system.completionQueue ++ [⟨cmd.call, completion⟩]
        answers := update system.answers cmd.call (some completion) }

end FsSystem

/-- The system takes a step, as long as no assertion has fired. -/
def ClientStep (system : FsSystem) (event : ClientEvent) (next : FsSystem) : Prop :=
  system.failed = false ∧ system.perform event = some next

namespace FsSystem

/-- The events that can happen, each with what it does. -/
inductive Acts (system : FsSystem) : ClientEvent → FsSystem → Prop
  | fsCommandBlocking {request : Fin fsQueueCapacity} {cmd : FsCmd}
    (allocated : system.fsRequestAllocate = some request) :
    Acts system (.fsCommandBlocking cmd) (system.beginCall request cmd)
  | waits {call : Nat} {request : Fin fsQueueCapacity} (waits : system.waiting call = some request)
    (incomplete : (system.requestMetadata request).complete = false) :
    Acts system (.wake call) system
  | returns {call : Nat} {request : Fin fsQueueCapacity} (waits : system.waiting call = some request)
    (complete : (system.requestMetadata request).complete = true) :
    Acts system (.wake call) (system.endCall call request)
  | fsProcessCompletions (idle : system.processing = none) :
    Acts system .fsProcessCompletions
      { system with processing := some ⟨system.completionQueue.length, 0⟩ }
  | processCompletion {processing : Processing} {completion : OfCall FsCmpl}
    (current : system.processing = some processing) (more : processing.i < processing.toConsume)
    (next : system.completionQueue[processing.i]? = some completion) :
    Acts system .processCompletion
      { system.store completion.message with
        processing := some { processing with i := processing.i + 1 } }
  | completionsProcessed {processing : Processing} (current : system.processing = some processing)
    (all : processing.toConsume ≤ processing.i) :
    Acts system .completionsProcessed
      { system with
        processing := none
        completionQueue := system.completionQueue.drop processing.toConsume }
  | readCommand {cmd : OfCall FsCmd} (next : system.commandQueue[system.read]? = some cmd) :
    Acts system .readCommand
      { system with read := system.read + 1, inServer := cmd :: system.inServer }
  | publishConsumption {amount : Nat} (readAll : amount ≤ system.read) :
    Acts system (.publishConsumption amount)
      { system with
        commandQueue := system.commandQueue.drop amount
        read := system.read - amount }
  | complete {index : Nat} {status data : UInt64T} {cmd : OfCall FsCmd}
    (accepted : system.inServer[index]? = some cmd) :
    Acts system (.complete index status data)
      { system with
        inServer := system.inServer.eraseIdx index
        completionQueue := system.completionQueue ++
          [⟨cmd.call, { id := cmd.message.id, status, data }⟩]
        answers := update system.answers cmd.call
          (some { id := cmd.message.id, status, data }) }

variable {system next : FsSystem} {event : ClientEvent} {request : Fin fsQueueCapacity}

theorem acts (step : ClientStep system event next) : system.Acts event next := by
  obtain ⟨_, performed⟩ := step
  cases event with
  | fsCommandBlocking cmd =>
    simp only [perform, map_eq_some_iff] at performed
    obtain ⟨request, allocated, rfl⟩ := performed
    exact Acts.fsCommandBlocking allocated
  | wake call =>
    obtain ⟨request, waits, rfl⟩ := map_eq_some_iff.mp performed
    split_ifs with complete
    · exact Acts.returns waits complete
    · exact Acts.waits waits (Bool.eq_false_of_not_eq_true complete)
  | fsProcessCompletions =>
    cases idle : system.processing with
    | some processing => simp [perform, idle] at performed
    | none =>
      simp only [perform, idle, some.injEq] at performed
      subst performed
      exact Acts.fsProcessCompletions idle
  | processCompletion =>
    obtain ⟨processing, current, performed⟩ := bind_eq_some_iff.mp performed
    obtain ⟨more, performed⟩ := ite_none_right_eq_some.mp performed
    obtain ⟨completion, next, rfl⟩ := map_eq_some_iff.mp performed
    exact Acts.processCompletion current more next
  | completionsProcessed =>
    obtain ⟨processing, current, performed⟩ := bind_eq_some_iff.mp performed
    obtain ⟨all, same⟩ := ite_none_left_eq_some.mp performed
    cases same
    exact Acts.completionsProcessed current (Nat.le_of_not_lt all)
  | readCommand =>
    obtain ⟨cmd, next, rfl⟩ := map_eq_some_iff.mp performed
    exact Acts.readCommand next
  | publishConsumption amount =>
    obtain ⟨readAll, same⟩ := ite_none_right_eq_some.mp performed
    cases same
    exact Acts.publishConsumption readAll
  | complete index status data =>
    obtain ⟨cmd, accepted, rfl⟩ := map_eq_some_iff.mp performed
    exact Acts.complete accepted

/-! ### What a call does -/

theorem requestOf_requestIdOf (request : Fin fsQueueCapacity) :
    requestOf (requestIdOf request) = some request := by
  have small : (requestIdOf request).toNat = request := by
    exact Nat.mod_eq_of_lt (request.isLt.trans (by decide))
  have within : requestIdOf request ≤ requestIdMaximum :=
    BitVec.le_def.mpr (small.symm ▸ Nat.le_of_lt_succ request.isLt)
  rw [requestOf, dif_pos within]
  exact congrArg some (Fin.ext small)

theorem requestIdOf_injective {other : Fin fsQueueCapacity}
    (same : requestIdOf request = requestIdOf other) : request = other :=
  some.inj (by rw [← requestOf_requestIdOf, same, requestOf_requestIdOf])

theorem unused_of_allocated (allocated : system.fsRequestAllocate = some request) :
    (system.requestMetadata request).used = false := by
  have found := List.find?_some allocated
  rwa [Bool.not_eq_true'] at found

/-- A call whose command has been issued. -/
def issued (system : FsSystem) (request : Fin fsQueueCapacity) (cmd : FsCmd) : FsSystem :=
  let message := { cmd with id := requestIdOf request }
  { system with
    requestMetadata := update system.requestMetadata request
      { system.requestMetadata request with used := true, command := message }
    waiting := update system.waiting system.calls (some request)
    calls := system.calls + 1
    commandQueue := system.commandQueue ++ [⟨system.calls, message⟩] }

theorem beginCall_eq (system : FsSystem) (request : Fin fsQueueCapacity) (cmd : FsCmd) :
    system.beginCall request cmd =
      if system.commandQueue.length ≠ fsQueueCapacity then system.issued request cmd
      else { system with failed := true } := by
  unfold beginCall fsCommandIssue
  rw [requestOf_requestIdOf]
  simp only [bind_some, setRequest, update_self, true_and]
  split_ifs
  · rw [update_idem]
    rfl
  · rfl

/-- A call that has returned. -/
def collected (system : FsSystem) (call : Nat) (request : Fin fsQueueCapacity) : FsSystem :=
  { system with
    requestMetadata := update system.requestMetadata request
      { system.requestMetadata request with used := false, complete := false }
    waiting := update system.waiting call none
    results := update system.results call (some (system.requestMetadata request).completion) }

theorem endCall_eq (call : Nat) (complete : (system.requestMetadata request).complete = true)
    (used : (system.requestMetadata request).used = true) :
    system.endCall call request = system.collected call request := by
  simp only [endCall, fsCommandComplete, complete, if_true, bind_some, fsRequestFree,
    requestOf_requestIdOf, used, asserting]
  rfl

end FsSystem

end LionsOS.Fs

/-
This file is about the continuations in one handler and in one callback. A handler
that replies leaves the list of free continuations as it found it, also when it
took one and had to put it back; one that submits a call has taken the first. A
callback puts its continuation in front of the list and replies with the id kept
in it, except that of a directory's removal, which leaves its own continuation out.
-/

import LionsOS.Nfs.Handlers
import LionsOS.Lib.FreeList

open Function

namespace LionsOS.Nfs

open LionsOS.Fs

variable {fd : UInt64T} {rest : UInt64T → NfsServer → Outcome} {data : List UInt64T}
  {cont : Fin maxConcurrentOps} {other : NfsServer} {next : NfsServer} {buf : FsBuffer}
  {kind : OfKind}

/-! ### The list of free continuations -/

/-- The free continuations, first one first. -/
structure NfsServer.Free (server : NfsServer) (free : List (Fin maxConcurrentOps)) : Prop where
  listed : FreeList.Listed (fun cont => (server.continuationPool cont).nextFree)
    server.firstFreeCont free
  distinct : free.Nodup

/-- The completion queue with one more completion. -/
def pushed (queue : FsQueue FsCmpl) (cmpl : FsCmpl) : FsQueue FsCmpl :=
  fsQueuePublishProduction (queue.write (fsQueueIdxEmpty queue 0) cmpl) 1

/-- As far as requests are concerned, nothing has changed since `before` but the contents of free
continuations. -/
structure Steady (before : NfsServer) (free : List (Fin maxConcurrentOps)) (server : NfsServer) :
    Prop where
  listed : server.Free free
  kept : ∀ cont, cont ∉ free → server.continuationPool cont = before.continuationPool cont
  completions : server.fsCompletionQueue = before.fsCompletionQueue
  commands : server.fsCommandQueue = before.fsCommandQueue

/-- What has to be so where an assertion fails. -/
def Possible (before : NfsServer) (free : List (Fin maxConcurrentOps)) : NfsFailure → Prop
  | .noContinuation | .nullContinuation => free = []
  | .completionQueueFull =>
    (fsQueueLengthProducer before.fsCompletionQueue).toNat = fsQueueCapacity
  | .continuationNotTaken => False
  | .noOperation | .longName => True

/-- How a handler can end. -/
inductive Answered (before : NfsServer) (free : List (Fin maxConcurrentOps)) (id : UInt64T) :
    Outcome → Prop
  | replied {pathWrites : List PathWrite} {accesses : List Bytes.Range} {server : NfsServer}
      {cmpl : FsCmpl} (own : cmpl.id = id) (listed : server.Free free)
      (kept : ∀ cont, cont ∉ free → server.continuationPool cont = before.continuationPool cont)
      (room : (fsQueueLengthProducer before.fsCompletionQueue).toNat ≠ fsQueueCapacity)
      (completions : server.fsCompletionQueue = pushed before.fsCompletionQueue cmpl)
      (commands : server.fsCommandQueue = before.fsCommandQueue) :
      Answered before free id { accesses, pathWrites, server, progress := .replied cmpl }
  | submitted {accesses : List Bytes.Range} {pathWrites : List PathWrite} {server : NfsServer}
      {call : NfsCall} {cont : Fin maxConcurrentOps} {rest : List (Fin maxConcurrentOps)}
      (first : free = cont :: rest) (listed : server.Free rest)
      (kept : ∀ cont, cont ∉ free → server.continuationPool cont = before.continuationPool cont)
      (taken : (server.continuationPool cont).nextFree = none)
      (own : (server.continuationPool cont).requestId = id)
      (completions : server.fsCompletionQueue = before.fsCompletionQueue)
      (commands : server.fsCommandQueue = before.fsCommandQueue) :
      Answered before free id { accesses, pathWrites, server, progress := .submitted call cont }
  | failed {accesses : List Bytes.Range} {pathWrites : List PathWrite} {server : NfsServer}
      {failure : NfsFailure}
      (possible : Possible before free failure) :
      Answered before free id { accesses, pathWrites, server, progress := .failed failure }

/-- How a callback that is given a continuation can end. -/
inductive Returned (before : NfsServer) (free : List (Fin maxConcurrentOps))
    (cont : Fin maxConcurrentOps) : Outcome → Prop
  | replied {accesses : List Bytes.Range} {pathWrites : List PathWrite} {server : NfsServer}
      {cmpl : FsCmpl}
      (own : cmpl.id = (before.continuationPool cont).requestId) (listed : server.Free (cont :: free))
      (kept : ∀ other, other ∉ cont :: free →
        server.continuationPool other = before.continuationPool other)
      (room : (fsQueueLengthProducer before.fsCompletionQueue).toNat ≠ fsQueueCapacity)
      (completions : server.fsCompletionQueue = pushed before.fsCompletionQueue cmpl)
      (commands : server.fsCommandQueue = before.fsCommandQueue) :
      Returned before free cont { accesses, pathWrites, server, progress := .replied cmpl }
  | failed {accesses : List Bytes.Range} {pathWrites : List PathWrite} {server : NfsServer}
      {failure : NfsFailure}
      (possible : Possible before free failure) (notSought : failure ≠ .noContinuation) :
      Returned before free cont { accesses, pathWrites, server, progress := .failed failure }

variable {before server : NfsServer} {free : List (Fin maxConcurrentOps)} {id : UInt64T}
  {outcome : Outcome}

theorem NfsServer.Free.congr (listed : server.Free free)
    (pool : other.continuationPool = server.continuationPool)
    (first : other.firstFreeCont = server.firstFreeCont) : other.Free free where
  listed := by
    rw [pool, first]
    exact listed.listed
  distinct := listed.distinct

theorem NfsServer.Free.steady (listed : before.Free free) : Steady before free before where
  listed
  kept := fun _ _ => rfl
  completions := rfl
  commands := rfl

theorem Answered.accessing (answered : Answered before free id outcome)
    (accesses : List Bytes.Range) (pathWrites : List PathWrite) :
    Answered before free id { outcome with accesses, pathWrites } := by
  cases answered with
  | replied own listed kept room completions commands =>
    exact .replied own listed kept room completions commands
  | submitted first listed kept taken own completions commands =>
    exact .submitted first listed kept taken own completions commands
  | failed possible => exact .failed possible

theorem Returned.accessing (returned : Returned before free cont outcome)
    (accesses : List Bytes.Range) : Returned before free cont { outcome with accesses } := by
  cases returned with
  | replied own listed kept room completions commands =>
    exact .replied own listed kept room completions commands
  | failed possible notSought => exact .failed possible notSought

namespace Steady

section

variable (steady : Steady before free server)
include steady

/-- Nothing else of the server matters. -/
theorem congr (pool : other.continuationPool = server.continuationPool)
    (first : other.firstFreeCont = server.firstFreeCont)
    (completions : other.fsCompletionQueue = server.fsCompletionQueue)
    (commands : other.fsCommandQueue = server.fsCommandQueue) : Steady before free other where
  listed := steady.listed.congr pool first
  kept := pool ▸ steady.kept
  completions := completions.trans steady.completions
  commands := commands.trans steady.commands

theorem setTable (table : Option OfTable) : Steady before free (server.setTable table) :=
  steady.congr rfl rfl rfl rfl

theorem withTable (table : OfTable) : Steady before free { server with table } :=
  steady.congr rfl rfl rfl rfl

theorem writePath (slot : Fin 2) (path : List UInt8T) :
    Steady before free (server.writePath slot path) :=
  steady.congr rfl rfl rfl rfl

theorem withShare (share : Nat → UInt8T) : Steady before free { server with share } :=
  steady.congr rfl rfl rfl rfl

/-! ### Parts of handlers -/

theorem answered_reply {cmpl : FsCmpl} (own : cmpl.id = id) :
    Answered before free id (reply server cmpl) := by
  unfold reply
  split
  case isTrue full =>
    rw [steady.completions] at full
    exact .failed full
  case isFalse room =>
    rw [steady.completions] at room
    refine .replied own (steady.listed.congr rfl rfl) steady.kept room ?_ steady.commands
    rw [← steady.completions]
    rfl

theorem answered_withPath {slot : Fin 2} {rest : NfsServer → Outcome}
    (answered : ∀ server, Steady before free server → Answered before free id (rest server)) :
    Answered before free id (withPath server id slot buf rest) := by
  unfold withPath
  split
  · exact steady.answered_reply rfl
  · exact (answered _ (steady.writePath _ _)).accessing _ _

theorem answered_withBuffer {least : Nat} {rest : UInt64T → Outcome}
    (answered : ∀ data, Answered before free id (rest data)) :
    Answered before free id (withBuffer server id buf least rest) := by
  unfold withBuffer
  split
  · exact steady.answered_reply rfl
  · split
    · exact steady.answered_reply rfl
    · exact answered _

theorem answered_withOp
    (answered : ∀ handle server, Steady before free server →
      Answered before free id (rest handle server)) :
    Answered before free id (withOp kind server id fd rest) := by
  unfold withOp
  split
  · exact steady.answered_reply rfl
  · exact answered _ _ (steady.withTable _)

theorem answered_endOp {rest : NfsServer → Outcome}
    (answered : ∀ server, Steady before free server → Answered before free id (rest server)) :
    Answered before free id (endOp server fd rest) := by
  unfold endOp
  split
  · exact .failed trivial
  · exact answered _ (steady.withTable _)

end

/-- A continuation taken from the front. -/
theorem continuationAlloc_eq_some (listed : server.Free free)
    (allocated : continuationAlloc server = some (cont, next)) :
    ∃ rest, free = cont :: rest ∧ next.Free rest ∧
      (∀ other, other ≠ cont → next.continuationPool other = server.continuationPool other) ∧
        next.continuationPool cont = { server.continuationPool cont with nextFree := none } ∧
          next = { server with
            firstFreeCont := next.firstFreeCont, continuationPool := next.continuationPool } := by
  obtain ⟨first, found, same⟩ := Option.map_eq_some_iff.mp allocated
  cases same
  have chain := listed.listed
  rw [found] at chain
  obtain ⟨rest, rfl, restChain⟩ := chain.take
  have outside : cont ∉ rest := (List.nodup_cons.mp listed.distinct).1
  have restDistinct := (List.nodup_cons.mp listed.distinct).2
  refine ⟨rest, rfl, ⟨restChain.congr fun other member => ?_, restDistinct⟩,
    fun other different => update_of_ne different _ _, update_self _ _ _, rfl⟩
  exact congrArg Continuation.nextFree (update_of_ne (ne_of_mem_of_not_mem member outside) _ _)

theorem continuationAlloc_eq_none (listed : server.Free free)
    (none : continuationAlloc server = none) : free = [] := by
  have chain := listed.listed
  rw [Option.map_eq_none_iff.mp none] at chain
  exact chain.eq_nil

/-- A continuation that is in nobody's list goes to the front. -/
theorem free_continuationFree (listed : server.Free free) (outside : cont ∉ free)
    (freed : continuationFree server cont = some next) :
    next.Free (cont :: free) ∧
      (∀ other, other ≠ cont → next.continuationPool other = server.continuationPool other) ∧
        next = { server with
          firstFreeCont := next.firstFreeCont, continuationPool := next.continuationPool } := by
  obtain ⟨_, ⟨⟩⟩ := Option.ite_none_right_eq_some.mp freed
  refine ⟨⟨?_, List.nodup_cons.mpr ⟨outside, listed.distinct⟩⟩,
    fun other different => update_of_ne different _ _, rfl⟩
  refine (listed.listed.put outside).congr fun other _ => ?_
  exact congrFun (Function.comp_update Continuation.nextFree server.continuationPool cont _) other

end Steady

/-- The first continuation has been taken for a request, and nothing else has changed. -/
structure Lent (before : NfsServer) (free : List (Fin maxConcurrentOps))
    (cont : Fin maxConcurrentOps) (rest : List (Fin maxConcurrentOps)) (id : UInt64T)
    (server : NfsServer) : Prop where
  first : free = cont :: rest
  outside : cont ∉ rest
  listed : server.Free rest
  kept : ∀ other, other ∉ free → server.continuationPool other = before.continuationPool other
  taken : (server.continuationPool cont).nextFree = none
  own : (server.continuationPool cont).requestId = id
  completions : server.fsCompletionQueue = before.fsCompletionQueue
  commands : server.fsCommandQueue = before.fsCommandQueue

theorem Steady.answered_withContinuation (steady : Steady before free server)
    {next : Fin maxConcurrentOps → NfsServer → Outcome}
    (answered : ∀ cont rest server, Lent before free cont rest id server →
      Answered before free id (next cont server)) :
    Answered before free id (withContinuation server id data next) := by
  unfold withContinuation
  split
  case h_1 none => exact .failed (continuationAlloc_eq_none steady.listed none)
  case h_2 cont taken allocated =>
    obtain ⟨rest, first, listed, others, self, same⟩ :=
      continuationAlloc_eq_some steady.listed allocated
    have outside : cont ∉ rest := (List.nodup_cons.mp (first ▸ steady.listed.distinct)).1
    refine answered cont rest _ ⟨first, outside, ⟨?_, listed.distinct⟩, ?_, ?_, ?_, ?_, ?_⟩
    · -- What is stored in the continuation is no part of the list.
      refine listed.listed.congr fun other member => congrArg Continuation.nextFree ?_
      exact update_of_ne (ne_of_mem_of_not_mem member outside) _ _
    · intro other notFree
      have different : other ≠ cont := by
        rintro rfl
        exact notFree (first ▸ List.mem_cons_self)
      exact (update_of_ne different _ _).trans
        ((others other different).trans (steady.kept other notFree))
    · simp only [update_self, self]
    · simp only [update_self]
    · rw [same]
      exact steady.completions
    · rw [same]
      exact steady.commands

/-- A continuation that is put back at once leaves the list as it was. -/
theorem Lent.answered_freeContinuation {rest : List (Fin maxConcurrentOps)}
    (lent : Lent before free cont rest id server) {next : NfsServer → Outcome}
    (answered : ∀ server, Steady before free server → Answered before free id (next server)) :
    Answered before free id (freeContinuation server cont next) := by
  unfold freeContinuation
  split
  case h_1 refused =>
    exact absurd refused (by rw [continuationFree, if_pos lent.taken]; simp)
  case h_2 freed again =>
    obtain ⟨back, others, same⟩ := Steady.free_continuationFree lent.listed lent.outside again
    refine answered freed ⟨lent.first ▸ back, fun other notFree => ?_, ?_, ?_⟩
    · have different : other ≠ cont := by
        rintro rfl
        exact notFree (lent.first ▸ List.mem_cons_self)
      exact (others other different).trans (lent.kept other notFree)
    · rw [same]
      exact lent.completions
    · rw [same]
      exact lent.commands

namespace Steady

variable {answer : NfsAnswer} {call : List UInt8T → NfsCall} {params : CmdParams}

section

variable (steady : Steady before free server)
include steady

/-- Submitting either gives the first continuation to the call or leaves all as it was. -/
theorem answered_submitWith {call : NfsCall} {undo : NfsServer → (NfsServer → Outcome) → Outcome}
    (undone : ∀ server (rest : NfsServer → Outcome), Steady before free server →
      (∀ server, Steady before free server → Answered before free id (rest server)) →
      Answered before free id (undo server rest)) :
    Answered before free id (submitWith server answer id data call undo) := by
  refine steady.answered_withContinuation fun cont rest server lent => ?_
  unfold submit
  split
  · exact .submitted lent.first lent.listed lent.kept lent.taken lent.own lent.completions
      lent.commands
  · refine lent.answered_freeContinuation fun server steady => undone server _ steady ?_
    exact fun server steady => steady.answered_reply rfl

theorem answered_submitWith_nothing {call : NfsCall} :
    Answered before free id (submitWith server answer id data call nothing) :=
  steady.answered_submitWith fun server _ steady answered => answered server steady

theorem answered_fileCall {call : UInt64T → NfsCall} :
    Answered before free id (fileCall server answer id fd data call) := by
  refine steady.answered_withOp fun file server steady => ?_
  exact steady.answered_submitWith fun server _ steady answered => steady.answered_endOp answered

theorem answered_openCall : Answered before free id (openCall server answer id params call) := by
  refine steady.answered_withPath fun server steady => ?_
  split
  · exact steady.answered_reply rfl
  · refine (steady.withTable _).answered_submitWith fun server _ steady answered => ?_
    exact answered _ (steady.setTable _)

theorem answered_withUnset
    (answered : ∀ handle server, Steady before free server →
      Answered before free id (rest handle server)) :
    Answered before free id (withUnset server id kind fd rest) := by
  refine steady.answered_withOp fun handle server steady =>
    steady.answered_endOp fun server steady => ?_
  split
  · exact steady.answered_reply rfl
  · exact answered handle _ (steady.withTable _)

theorem answered_pathCall : Answered before free id (pathCall server answer id params call) :=
  steady.answered_withPath fun _ steady => steady.answered_submitWith_nothing

theorem answered_dirCall {data : UInt64T} :
    Answered before free id (dirCall server id params data) := by
  refine steady.answered_withOp fun handle server steady =>
    steady.answered_endOp fun server steady => ?_
  exact steady.answered_reply rfl

theorem answered_handleDirRead :
    Answered before free id (handleDirRead server answer id params) := by
  refine steady.answered_withBuffer fun buf => steady.answered_withOp fun dir server steady => ?_
  split
  · exact steady.answered_endOp fun server steady => steady.answered_reply rfl
  · split
    · exact .failed trivial
    · refine Answered.accessing ?_ _ _
      exact (steady.withShare _).answered_endOp fun server steady => steady.answered_reply rfl

end

end Steady

/-! ### Handlers -/

theorem answered_cmdHandler (listed : server.Free free) (answer : NfsAnswer) (id : UInt64T)
    (params : CmdParams) {type : CmdType} (replies : type ≠ .deinitialise) :
    Answered server free id (cmdHandler server answer id params type) := by
  have steady := listed.steady
  cases type with
  | initialise =>
    simp only [cmdHandler, handleInitialise]
    split
    · exact steady.answered_reply rfl
    · split
      · have begun : Steady server free { server with nfs := true } :=
          steady.congr rfl rfl rfl rfl
        exact begun.answered_submitWith_nothing
      · exact steady.answered_reply rfl
  | deinitialise => exact absurd rfl replies
  | fileOpen | dirOpen =>
    simp only [cmdHandler]
    exact steady.answered_openCall
  | fileClose =>
    simp only [cmdHandler, handleFileClose]
    refine steady.answered_withUnset fun file server steady => ?_
    exact steady.answered_submitWith fun server _ steady answered =>
      answered _ (steady.setTable _)
  | stat =>
    simp only [cmdHandler, handleStat]
    refine steady.answered_withPath fun server steady => steady.answered_withBuffer fun data => ?_
    exact steady.answered_submitWith_nothing
  | fileRead | fileWrite =>
    exact steady.answered_withBuffer fun data => steady.answered_fileCall
  | fileSize | fileSync | fileTruncate =>
    exact steady.answered_fileCall
  | rename =>
    refine steady.answered_withPath fun server steady =>
      steady.answered_withPath fun server steady => ?_
    exact steady.answered_submitWith_nothing
  | fileRemove | dirCreate | dirRemove =>
    exact steady.answered_pathCall
  | dirClose =>
    simp only [cmdHandler, handleDirClose]
    refine steady.answered_withUnset fun dir server steady => ?_
    exact (steady.setTable _).answered_reply rfl
  | dirRead => exact steady.answered_handleDirRead
  | dirSeek | dirTell | dirRewind =>
    exact steady.answered_dirCall

/-! ### Callbacks -/

namespace Steady

section

variable (steady : Steady before free server) (outside : cont ∉ free)
  (held : (before.continuationPool cont).nextFree = none)
include steady outside held

theorem returned_freeAndReply {status data : UInt64T} :
    Returned before free cont (freeAndReply server cont status data) := by
  have same := steady.kept cont outside
  unfold freeAndReply freeContinuation
  split
  case h_1 refused =>
    have taken : (server.continuationPool cont).nextFree = none := by rw [same, held]
    exact absurd refused (by rw [continuationFree, if_pos taken]; simp)
  case h_2 freed again =>
    obtain ⟨back, others, sameRest⟩ := free_continuationFree steady.listed outside again
    have completions : freed.fsCompletionQueue = before.fsCompletionQueue := by
      rw [sameRest]
      exact steady.completions
    show Returned before free cont
      (reply freed { id := (server.continuationPool cont).requestId, status, data })
    unfold reply
    split
    case isTrue full =>
      rw [completions] at full
      exact .failed full nofun
    case isFalse room =>
      rw [completions] at room
      refine .replied (congrArg Continuation.requestId same) (back.congr rfl rfl) ?_ room ?_ ?_
      · intro other notThere
        obtain ⟨different, notFree⟩ := not_or.mp (mt List.mem_cons.mpr notThere)
        exact (others other different).trans (steady.kept other notFree)
      · rw [← completions]
        rfl
      · rw [sameRest]
        exact steady.commands

theorem returned_endAndReply {status data : UInt64T} :
    Returned before free cont (endAndReply server cont status data) := by
  unfold endAndReply endOp
  split
  · exact .failed trivial nofun
  · exact (steady.withTable _).returned_freeAndReply outside held

end

end Steady

/-- Every callback but that of a directory's removal puts its continuation back and replies. -/
theorem returned_callback (listed : server.Free free) (outside : cont ∉ free)
    (held : (server.continuationPool cont).nextFree = none) (answer : NfsReply) {call : NfsCall}
    (notRemoval : ∀ path, call ≠ .rmdir path) :
    Returned server free cont (callback server cont answer call) := by
  have steady := listed.steady
  cases call with
  | mount | rename | unlink | mkdir => exact steady.returned_freeAndReply outside held
  | stat path =>
    simp only [callback, statCb]
    split
    · exact ((steady.withShare _).returned_freeAndReply outside held).accessing _
    · exact steady.returned_freeAndReply outside held
  | fstat file | fsync file | ftruncate file length =>
    exact steady.returned_endAndReply outside held
  | open2 path flags | opendir path | close file =>
    simp only [callback, openCb, fileCloseCb]
    split <;> exact (steady.setTable _).returned_freeAndReply outside held
  | pread file buf count offset | pwrite file buf count offset =>
    simp only [callback, transferCb]
    split <;> exact steady.returned_endAndReply outside held
  | rmdir path => exact absurd rfl (notRemoval path)

theorem returned_dirRemoveCb (listed : server.Free free) (answer : NfsReply) :
    (free = [] ∧ ∃ accesses after, dirRemoveCb server answer =
        { accesses, server := after, progress := .failed .nullContinuation }) ∨
      ∃ cont rest, free = cont :: rest ∧ Returned server rest cont (dirRemoveCb server answer) := by
  unfold dirRemoveCb
  split
  case h_1 none =>
    exact Or.inl ⟨Steady.continuationAlloc_eq_none listed none, _, _, rfl⟩
  case h_2 cont taken allocated =>
    obtain ⟨rest, split, restListed, others, self, same⟩ :=
      Steady.continuationAlloc_eq_some listed allocated
    refine Or.inr ⟨cont, rest, split, ?_⟩
    have outside : cont ∉ rest := (List.nodup_cons.mp (split ▸ listed.distinct)).1
    have held : (taken.continuationPool cont).nextFree = none := by rw [self]
    have returned : Returned taken rest cont (freeAndReply taken cont (statusOf answer) 0) :=
      restListed.steady.returned_freeAndReply outside held
    generalize freeAndReply taken cont (statusOf answer) 0 = outcome at returned ⊢
    have completions : taken.fsCompletionQueue = server.fsCompletionQueue := by rw [same]
    have commands : taken.fsCommandQueue = server.fsCommandQueue := by rw [same]
    cases returned with
    | replied own back kept room queue unchanged =>
      rw [completions] at room queue
      refine .replied (own.trans ?_) back (fun other notThere => ?_) room queue
        (unchanged.trans commands)
      · rw [self]
      · have different := (not_or.mp (mt List.mem_cons.mpr notThere)).1
        exact (kept other notThere).trans (others other different)
    | failed possible notSought =>
      refine .failed ?_ notSought
      rename_i accesses after failure
      cases failure with
      | completionQueueFull =>
        show (fsQueueLengthProducer server.fsCompletionQueue).toNat = fsQueueCapacity
        rw [← completions]
        exact possible
      | _ => exact possible

end LionsOS.Nfs

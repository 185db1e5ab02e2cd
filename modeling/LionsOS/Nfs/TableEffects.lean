/-
This file says exactly what the handlers and callbacks of the NFS server do to the
table of open files. A handler that replies leaves the table as it found it, but
for the generation of a descriptor that it had to free again and for a directory
that it has closed; one that submits a call leaves the descriptor of the call in
the continuation, busy or allocated, for the callback to end what was begun.
-/

import LionsOS.Fs.SlotCounts
import LionsOS.Nfs.Handlers

open Function

namespace LionsOS.Nfs

open LionsOS.Fs

variable {call : List UInt8T → NfsCall} {data : UInt64T} {cont : Fin maxConcurrentOps}
  {server : NfsServer} {status : UInt64T} {table : OfTable} {buf : FsBuffer} {kind : OfKind}

/-! ### What a call holds -/

/-- The calls in an operation on an open file. -/
def NfsCall.operates : NfsCall → Bool
  | .fstat _ | .fsync _ | .ftruncate _ _ | .pread _ _ _ _ | .pwrite _ _ _ _ => true
  | _ => false

/-- The calls that open or close something, for which a slot is allocated. -/
def NfsCall.reserves : NfsCall → Bool
  | .open2 _ _ | .opendir _ | .close _ => true
  | _ => false

/-- The commands for which a descriptor is allocated. -/
def opensSomething : CmdType → Bool
  | .fileOpen | .dirOpen => true
  | _ => false

/-- What the slot of a closed directory is afterwards. -/
def closedSlot (slot : OftableSlot) : OftableSlot :=
  { slot with state := .free, handle := 0, generation := slot.generation + 1 }

/-! ### Handlers -/

/-- What a handler does to the table, and what its continuation says of it. -/
inductive HandlerEffect (table : OfTable) (type : CmdType) (params : CmdParams)
    (outcome : Outcome) : Prop
  | failed {failure : NfsFailure} (ended : outcome.progress = .failed failure)
      (ends : failure ≠ .noOperation) : HandlerEffect table type params outcome
  | silent (ended : outcome.progress = .silent) (same : outcome.server.table = table) :
      HandlerEffect table type params outcome
  | replied {cmpl : FsCmpl} (ended : outcome.progress = .replied cmpl)
      (same : outcome.server.table = table) : HandlerEffect table type params outcome
  | refused {cmpl : FsCmpl} {fd : UInt64T} {allocated : OfTable}
      (ended : outcome.progress = .replied cmpl) (opens : opensSomething type = true)
      (alloc : fdAlloc table = some (fd, allocated))
      (freed : outcome.server.table = (fdFree allocated fd).getD allocated) :
      HandlerEffect table type params outcome
  | dirClosed {cmpl : FsCmpl} (ended : outcome.progress = .replied cmpl)
      (success : cmpl.status = fsStatusSuccess)
      (opened : (table (slotOf (paramWord params 0))).state = .opened .dir)
      (closed : outcome.server.table = update table (slotOf (paramWord params 0))
        (closedSlot (table (slotOf (paramWord params 0))))) :
      HandlerEffect table type params outcome
  | submitted {call : NfsCall} {cont : Fin maxConcurrentOps}
      (ended : outcome.progress = .submitted call cont) (operates : call.operates = false)
      (reserves : call.reserves = false) (same : outcome.server.table = table) :
      HandlerEffect table type params outcome
  | operating {call : NfsCall} {cont : Fin maxConcurrentOps} {fd file : UInt64T}
      (ended : outcome.progress = .submitted call cont) (operates : call.operates = true)
      (reserves : call.reserves = false)
      (begun : fdBeginOp .file table fd = some (file, outcome.server.table))
      (data : (outcome.server.continuationPool cont).data 0 = fd) :
      HandlerEffect table type params outcome
  | opening {call : NfsCall} {cont : Fin maxConcurrentOps} {fd : UInt64T}
      (ended : outcome.progress = .submitted call cont) (operates : call.operates = false)
      (reserves : call.reserves = true) (notClose : ∀ file, call ≠ .close file)
      (opens : opensSomething type = true)
      (alloc : fdAlloc table = some (fd, outcome.server.table))
      (data : (outcome.server.continuationPool cont).data 0 = fd) :
      HandlerEffect table type params outcome
  | closing {cont : Fin maxConcurrentOps}
      (ended : outcome.progress =
        .submitted (.close (table (slotOf (paramWord params 0))).handle) cont)
      (notPassed : (table (slotOf (paramWord params 0))).generation ≤
        fdGeneration (paramWord params 0))
      (opened : (table (slotOf (paramWord params 0))).state = .opened .file)
      (unset : outcome.server.table = table.unsetAt (paramWord params 0))
      (data : (outcome.server.continuationPool cont).data 0 = paramWord params 0)
      (file : (outcome.server.continuationPool cont).data 1 =
        (table (slotOf (paramWord params 0))).handle) :
      HandlerEffect table type params outcome

variable {type : CmdType} {params : CmdParams} {id : UInt64T} {answer : NfsAnswer}
  {outcome : Outcome}

theorem HandlerEffect.accessing (effect : HandlerEffect table type params outcome)
    (accesses : List Bytes.Range) (pathWrites : List PathWrite) :
    HandlerEffect table type params { outcome with accesses, pathWrites } := by
  cases effect with
  | failed ended ends => exact .failed ended ends
  | silent ended same => exact .silent ended same
  | replied ended same => exact .replied ended same
  | refused ended opens alloc freed => exact .refused ended opens alloc freed
  | dirClosed ended success opened closed => exact .dirClosed ended success opened closed
  | submitted ended operates reserves same => exact .submitted ended operates reserves same
  | operating ended operates reserves begun data =>
    exact .operating ended operates reserves begun data
  | opening ended operates reserves notClose opens alloc data =>
    exact .opening ended operates reserves notClose opens alloc data
  | closing ended notPassed opened unset data file =>
    exact .closing ended notPassed opened unset data file

/-- A reply, or the failure of its assertion, leaves the table alone. -/
theorem reply_cases (server : NfsServer) (cmpl : FsCmpl) :
    (reply server cmpl).server.table = server.table ∧
      ((∃ failure, (reply server cmpl).progress = .failed failure ∧ failure ≠ .noOperation) ∨
        (reply server cmpl).progress = .replied cmpl) := by
  unfold reply
  split
  · exact ⟨rfl, .inl ⟨_, rfl, by simp⟩⟩
  · exact ⟨rfl, .inr rfl⟩

theorem handlerEffect_reply (same : server.table = table) (cmpl : FsCmpl) :
    HandlerEffect table type params (reply server cmpl) := by
  obtain ⟨kept, ⟨failure, ended, ends⟩ | ended⟩ := reply_cases server cmpl
  · exact .failed ended ends
  · exact .replied ended (kept.trans same)

theorem handlerEffect_withPath {slot : Fin 2} {rest : NfsServer → Outcome}
    (same : server.table = table)
    (effect : ∀ server, server.table = table → HandlerEffect table type params (rest server)) :
    HandlerEffect table type params (withPath server id slot buf rest) := by
  unfold withPath
  split
  · exact handlerEffect_reply same _
  · exact (effect (server.writePath slot _) same).accessing _ _

theorem handlerEffect_withBuffer {least : Nat} {rest : UInt64T → Outcome}
    (same : server.table = table) (effect : ∀ data, HandlerEffect table type params (rest data)) :
    HandlerEffect table type params (withBuffer server id buf least rest) := by
  unfold withBuffer
  split
  · exact handlerEffect_reply same _
  · split
    · exact handlerEffect_reply same _
    · exact effect _

/-- Submitting a call fails an assertion, or leaves the data in the continuation, or is undone. -/
theorem submitWith_cases (server : NfsServer) (answer : NfsAnswer) (id : UInt64T)
    (data : List UInt64T) (call : NfsCall) (undo : NfsServer → (NfsServer → Outcome) → Outcome) :
    (∃ failure, (submitWith server answer id data call undo).progress = .failed failure ∧
      failure ≠ .noOperation) ∨
    (∃ cont, (submitWith server answer id data call undo).progress = .submitted call cont ∧
      (submitWith server answer id data call undo).server.table = server.table ∧
      ∀ (index : Fin 4) (word : UInt64T), data[index]? = some word →
        ((submitWith server answer id data call undo).server.continuationPool cont).data index =
          word) ∨
    ∃ back, back.table = server.table ∧ submitWith server answer id data call undo =
      undo back fun server => reply server (cmplOf id fsStatusError) := by
  unfold submitWith withContinuation
  split
  case h_1 => exact .inl ⟨_, rfl, by simp⟩
  case h_2 cont taken allocated =>
    obtain ⟨_, _, same⟩ := Option.map_eq_some_iff.mp allocated
    cases same
    unfold submit
    split
    · refine .inr (.inl ⟨cont, rfl, rfl, fun index word here => ?_⟩)
      simp only [update_self, here, Option.getD_some]
    · unfold freeContinuation
      dsimp only
      split
      · exact .inl ⟨_, rfl, by simp⟩
      · rename_i freed again
        obtain ⟨_, ⟨⟩⟩ := Option.ite_none_right_eq_some.mp again
        refine .inr (.inr ⟨_, ?_, rfl⟩)
        rfl

theorem handlerEffect_submitWith_nothing {data : List UInt64T} {call : NfsCall}
    (same : server.table = table) (operates : call.operates = false)
    (reserves : call.reserves = false) :
    HandlerEffect table type params (submitWith server answer id data call nothing) := by
  rcases submitWith_cases server answer id data call nothing with
    ⟨failure, ended, ends⟩ | ⟨cont, ended, kept, _⟩ | ⟨back, kept, undone⟩
  · exact .failed ended ends
  · exact .submitted ended operates reserves (kept.trans same)
  · rw [undone]
    exact handlerEffect_reply (kept.trans same) _

theorem handlerEffect_pathCall (same : server.table = table)
    (operates : ∀ path, (call path).operates = false)
    (reserves : ∀ path, (call path).reserves = false) :
    HandlerEffect table type params (pathCall server answer id params call) :=
  handlerEffect_withPath same fun _ same =>
    handlerEffect_submitWith_nothing same (operates _) (reserves _)

section Counted

variable {operations : Fin maxOpenFiles → Nat} (counted : table.Counted operations)
  (room : ∀ slot, operations slot + 1 < 2 ^ 64)

variable {fd : UInt64T}

include counted room

theorem endOp_of_begun {handle : UInt64T} {begun : OfTable}
    (begins : fdBeginOp kind table fd = some (handle, begun)) (same : server.table = begun)
    (rest : NfsServer → Outcome) : endOp server fd rest = rest { server with table } := by
  unfold endOp
  rw [same, counted.endOp_of_beginOp room begins]

section

variable (same : server.table = table)
include same

theorem handlerEffect_fileCall {data : List UInt64T} {call : UInt64T → NfsCall}
    (operates : ∀ file, (call file).operates = true)
    (reserves : ∀ file, (call file).reserves = false) :
    HandlerEffect table type params (fileCall server answer id fd data call) := by
  unfold fileCall withOp
  rw [same]
  split
  · exact handlerEffect_reply same _
  · rename_i file begun begins
    dsimp only
    rcases submitWith_cases { server with table := begun } answer id (fd :: data) (call file)
      (endingOp fd) with ⟨failure, ended, ends⟩ | ⟨cont, ended, kept, stored⟩ | ⟨back, kept, undone⟩
    · exact .failed ended ends
    · have begins : fdBeginOp .file table fd = some (file,
          (submitWith { server with table := begun } answer id (fd :: data) (call file)
            (endingOp fd)).server.table) := by
        rw [kept]
        exact begins
      exact .operating ended (operates _) (reserves _) begins (stored 0 fd rfl)
    · rw [undone, endingOp, endOp_of_begun counted room begins kept]
      refine handlerEffect_reply ?_ _
      rfl

theorem handlerEffect_dirCall :
    HandlerEffect table type params (dirCall server id params data) := by
  unfold dirCall withOp
  dsimp only
  rw [same]
  split
  · exact handlerEffect_reply same _
  · rename_i dir begun begins
    rw [endOp_of_begun counted room begins rfl]
    refine handlerEffect_reply ?_ _
    rfl

theorem handlerEffect_handleDirRead :
    HandlerEffect table type params (handleDirRead server answer id params) := by
  refine handlerEffect_withBuffer same fun buf => ?_
  unfold withOp
  rw [same]
  split
  · exact handlerEffect_reply same _
  · rename_i dir begun begins
    dsimp only
    split
    · rw [endOp_of_begun counted room begins rfl]
      refine handlerEffect_reply ?_ _
      rfl
    · split
      · exact .failed rfl (by simp)
      · rw [endOp_of_begun counted room begins rfl]
        refine (handlerEffect_reply ?_ _).accessing _ _
        rfl

/-- A descriptor is unset if it is that of an open object on which no operation is begun; otherwise
nothing is done. -/
theorem withUnset_cases {rest : UInt64T → NfsServer → Outcome} :
    (∃ cmpl, withUnset server id kind fd rest = reply server cmpl) ∨
    ((table (slotOf fd)).generation ≤ fdGeneration fd ∧ (table (slotOf fd)).state = .opened kind ∧
      withUnset server id kind fd rest =
        rest (table (slotOf fd)).handle { server with table := table.unsetAt fd }) := by
  unfold withUnset withOp
  rw [same]
  split
  · exact .inl ⟨_, rfl⟩
  · rename_i handle begun begins
    dsimp only
    rw [endOp_of_begun counted room begins rfl]
    split
    · refine .inl ⟨cmplOf id fsStatusOutstandingOperations, ?_⟩
      rw [← same]
    · rename_i next unset
      obtain ⟨opened, rfl⟩ := (fdUnset_eq_some_iff begins).mp unset
      rw [handle_of_fdBeginOp begins]
      exact .inr ⟨(fdBeginOp_eq_some begins).1, opened, rfl⟩

theorem handlerEffect_handleFileClose :
    HandlerEffect table type params (handleFileClose server answer id params) := by
  unfold handleFileClose
  rcases withUnset_cases counted room same with ⟨cmpl, replies⟩ | ⟨notPassed, opened, unsets⟩
  · rw [replies]
    exact handlerEffect_reply same _
  · rw [unsets]
    rcases submitWith_cases { server with table := table.unsetAt (paramWord params 0) } answer id _
      _ _ with ⟨failure, ended, ends⟩ | ⟨cont, ended, kept, stored⟩ | ⟨back, kept, undone⟩
    · exact .failed ended ends
    · exact .closing ended notPassed opened kept (stored 0 _ rfl) (stored 1 _ rfl)
    · rw [undone]
      refine handlerEffect_reply ?_ _
      rw [kept]
      exact congrArg (fun set => Option.getD set _) (fdSet_unsetAt notPassed opened)

theorem handlerEffect_handleDirClose :
    HandlerEffect table type params (handleDirClose server id params) := by
  unfold handleDirClose
  rcases withUnset_cases counted room same with ⟨cmpl, replies⟩ | ⟨notPassed, opened, unsets⟩
  · rw [replies]
    exact handlerEffect_reply same _
  · rw [unsets]
    have freed : (fdFree (table.unsetAt (paramWord params 0)) (paramWord params 0)).getD
        (table.unsetAt (paramWord params 0)) = update table (slotOf (paramWord params 0))
          (closedSlot (table (slotOf (paramWord params 0)))) := by
      have left : table.unsetAt (paramWord params 0) (slotOf (paramWord params 0)) =
        (table (slotOf (paramWord params 0))).unset := update_self _ _ _
      have current : ¬ fdGeneration (paramWord params 0) <
        (table (slotOf (paramWord params 0))).unset.generation := BitVec.not_lt.mpr notPassed
      rw [fdFree, onSlot, fdToOf_eq, left, if_neg current, Option.bind_some, left]
      exact update_idem _ _ _
    rcases reply_cases (NfsServer.setTable
      { server with table := table.unsetAt (paramWord params 0) }
      (fdFree (table.unsetAt (paramWord params 0)) (paramWord params 0)))
      (cmplOf id fsStatusSuccess) with ⟨kept, ⟨failure, ended, ends⟩ | ended⟩
    · exact .failed ended ends
    · exact .dirClosed ended rfl opened (kept.trans freed)

end

omit counted room in
theorem handlerEffect_openCall (same : server.table = table) (opens : opensSomething type = true)
    (operates : ∀ path, (call path).operates = false)
    (reserves : ∀ path, (call path).reserves = true)
    (notClose : ∀ path file, call path ≠ .close file) :
    HandlerEffect table type params (openCall server answer id params call) := by
  refine handlerEffect_withPath same fun server same => ?_
  rw [same]
  split
  · exact handlerEffect_reply same _
  · rename_i fd allocated alloc
    dsimp only
    rcases submitWith_cases { server with table := allocated } answer id _ _ _
      with ⟨failure, ended, ends⟩ | ⟨cont, ended, kept, stored⟩ | ⟨back, kept, undone⟩
    · exact .failed ended ends
    · exact .opening ended (operates _) (reserves _) (notClose _) opens
        (alloc.trans (by rw [kept])) (stored 0 fd rfl)
    · rw [undone]
      rcases reply_cases (back.setTable (fdFree back.table fd)) (cmplOf id fsStatusError)
        with ⟨unchanged, ⟨failure, ended, ends⟩ | ended⟩
      · exact .failed ended ends
      · refine .refused ended opens alloc (unchanged.trans ?_)
        show (fdFree back.table fd).getD back.table = _
        rw [kept]

theorem handlerEffect_cmdHandler (same : server.table = table) :
    HandlerEffect table type params (cmdHandler server answer id params type) := by
  cases type with
  | initialise =>
    simp only [cmdHandler, handleInitialise]
    split
    · exact handlerEffect_reply same _
    · split
      · exact handlerEffect_submitWith_nothing same rfl rfl
      · exact handlerEffect_reply same _
  | deinitialise => exact .silent rfl same
  | fileOpen | dirOpen =>
    simp only [cmdHandler]
    exact handlerEffect_openCall same rfl (fun _ => rfl) (fun _ => rfl) fun _ _ => by rintro ⟨⟩
  | fileClose => exact handlerEffect_handleFileClose counted room same
  | stat =>
    simp only [cmdHandler, handleStat]
    refine handlerEffect_withPath same fun server same => ?_
    refine handlerEffect_withBuffer same fun data => ?_
    exact handlerEffect_submitWith_nothing same rfl rfl
  | fileRead | fileWrite =>
    refine handlerEffect_withBuffer same fun data => ?_
    exact handlerEffect_fileCall counted room same (fun _ => rfl) fun _ => rfl
  | fileSize | fileSync | fileTruncate =>
    exact handlerEffect_fileCall counted room same (fun _ => rfl) fun _ => rfl
  | rename =>
    simp only [cmdHandler]
    refine handlerEffect_withPath same fun server same => ?_
    refine handlerEffect_withPath same fun _ same => ?_
    exact handlerEffect_submitWith_nothing same rfl rfl
  | fileRemove | dirCreate | dirRemove =>
    exact handlerEffect_pathCall same (fun _ => rfl) fun _ => rfl
  | dirClose => exact handlerEffect_handleDirClose counted room same
  | dirRead => exact handlerEffect_handleDirRead counted room same
  | dirSeek | dirTell | dirRewind =>
    exact handlerEffect_dirCall counted room same

end Counted

theorem HandlerEffect.ends (effect : HandlerEffect table type params outcome) :
    outcome.progress ≠ .failed .noOperation := by
  intro progress
  cases effect with
  | failed ended ends =>
    rw [progress] at ended
    cases ended
    exact ends rfl
  | silent ended | replied ended | refused ended | dirClosed ended | submitted ended
  | operating ended | opening ended | closing ended =>
    rw [progress] at ended
    cases ended

/-- A command that fails at once leaves every slot as it was. -/
theorem HandlerEffect.sameUse {cmpl : FsCmpl} (effect : HandlerEffect table type params outcome)
    (fresh : opensSomething type = true → ∀ fd allocated, fdAlloc table = some (fd, allocated) →
      (allocated (slotOf fd)).generation.toNat < 2 ^ 64 / maxOpenFiles)
    (replied : outcome.progress = .replied cmpl) (failed : cmpl.status ≠ fsStatusSuccess)
    (slot : Fin maxOpenFiles) : OftableSlot.SameUse (table slot) (outcome.server.table slot) := by
  cases effect with
  | replied ended same =>
    rw [same]
    exact ⟨rfl, rfl, rfl⟩
  | refused ended opens alloc freed =>
    rename_i other fd allocated
    obtain ⟨free, rfl, generation⟩ := fdAlloc_current alloc (fresh opens _ _ alloc)
    rw [freed, fdFree_of_allocated (by rw [update_self])
      (by rw [update_self, generation]; exact BitVec.le_refl _), Option.getD_some,
      update_idem, update_self]
    rcases eq_or_ne slot (slotOf fd) with rfl | different
    · rw [update_self]
      exact ⟨free.symm, rfl, rfl⟩
    · rw [update_of_ne different]
      exact ⟨rfl, rfl, rfl⟩
  | dirClosed ended success opened closed =>
    rw [replied] at ended
    cases ended
    exact absurd success failed
  | failed ended | silent ended | submitted ended | operating ended | opening ended
  | closing ended =>
    rw [replied] at ended
    cases ended

/-- A file whose close is submitted was open, with the handle that is closed. -/
theorem HandlerEffect.opened {file : UInt64T} {cont : Fin maxConcurrentOps}
    (effect : HandlerEffect table type params outcome)
    (submitted : outcome.progress = .submitted (.close file) cont) :
    (table (slotOf (paramWord params 0))).state = .opened .file ∧
      (table (slotOf (paramWord params 0))).handle = file := by
  cases effect with
  | closing ended notPassed opened =>
    rw [submitted] at ended
    cases ended
    exact ⟨opened, rfl⟩
  | submitted ended operates reserves =>
    rw [submitted] at ended
    cases ended
    cases reserves
  | operating ended operates =>
    rw [submitted] at ended
    cases ended
    cases operates
  | opening ended operates reserves notClose =>
    rw [submitted] at ended
    cases ended
    exact absurd rfl (notClose _)
  | failed ended | silent ended | replied ended | refused ended | dirClosed ended =>
    rw [submitted] at ended
    cases ended

/-! ### Callbacks -/

/-- The table after a callback, `none` where the end of its operation fails. -/
def callbackTable (server : NfsServer) (cont : Fin maxConcurrentOps) (answer : NfsReply) :
    NfsCall → Option OfTable
  | .fstat _ | .fsync _ | .ftruncate _ _ | .pread _ _ _ _ | .pwrite _ _ _ _ =>
    fdEndOp server.table ((server.continuationPool cont).data 0)
  | .open2 _ _ =>
    let fd := (server.continuationPool cont).data 0
    some ((if answer.status = 0 then fdSetFile server.table fd answer.handle
      else fdFree server.table fd).getD server.table)
  | .opendir _ =>
    let fd := (server.continuationPool cont).data 0
    some ((if answer.status = 0 then fdSetDir server.table fd answer.handle
      else fdFree server.table fd).getD server.table)
  | .close _ =>
    let fd := (server.continuationPool cont).data 0
    some ((if answer.status = 0 then fdFree server.table fd
      else fdSetFile server.table fd ((server.continuationPool cont).data 1)).getD server.table)
  | _ => some server.table

theorem freeAndReply_table (server : NfsServer) (cont : Fin maxConcurrentOps)
    (status data : UInt64T) :
    (freeAndReply server cont status data).server.table = server.table := by
  unfold freeAndReply freeContinuation
  split
  · rfl
  · rename_i freed again
    obtain ⟨_, ⟨⟩⟩ := Option.ite_none_right_eq_some.mp again
    exact (reply_cases _ _).1

theorem endAndReply_table
    (live : ∀ failure, (endAndReply server cont status data).progress ≠ .failed failure) :
    fdEndOp server.table ((server.continuationPool cont).data 0) =
      some (endAndReply server cont status data).server.table := by
  unfold endAndReply endOp at live ⊢
  split
  · rename_i refused
    rw [refused] at live
    exact absurd rfl (live _)
  · rename_i table ended
    rw [freeAndReply_table]
    exact ended

/-- How a callback ends that does not fail to end an operation. -/
def Outcome.Ends (outcome : Outcome) : Prop :=
  (∃ cmpl, outcome.progress = .replied cmpl) ∨
    ∃ failure, outcome.progress = .failed failure ∧ failure ≠ .noOperation

theorem freeAndReply_ends (server : NfsServer) (cont : Fin maxConcurrentOps)
    (status data : UInt64T) : (freeAndReply server cont status data).Ends := by
  unfold freeAndReply freeContinuation
  split
  · exact .inr ⟨_, rfl, by simp⟩
  · rcases (reply_cases _ _).2 with failed | replied
    · exact .inr failed
    · exact .inl ⟨_, replied⟩

theorem callback_table {answer : NfsReply} {call : NfsCall}
    (live : ∀ failure, (callback server cont answer call).progress ≠ .failed failure) :
    callbackTable server cont answer call =
      some (callback server cont answer call).server.table := by
  cases call with
  | mount | rename | unlink | mkdir => exact congrArg some (freeAndReply_table _ _ _ _).symm
  | stat path =>
    simp only [callback, callbackTable, statCb]
    split
    · rw [freeAndReply_table]
    · rw [freeAndReply_table]
  | fstat file | fsync file | ftruncate file length => exact endAndReply_table live
  | pread file buf count offset | pwrite file buf count offset =>
    simp only [callback, transferCb] at live ⊢
    split at live
    · rename_i transferred
      rw [if_pos transferred]
      exact endAndReply_table live
    · rename_i failed
      rw [if_neg failed]
      exact endAndReply_table live
  | open2 path flags | opendir path | close file =>
    simp only [callback, callbackTable, openCb, fileCloseCb]
    split
    · rw [freeAndReply_table]
      rfl
    · rw [freeAndReply_table]
      rfl
  | rmdir path =>
    simp only [callback, callbackTable, dirRemoveCb]
    split
    · rfl
    · rename_i taken allocated
      obtain ⟨_, _, same⟩ := Option.map_eq_some_iff.mp allocated
      cases same
      rw [freeAndReply_table]

theorem endAndReply_ends
    (ended : fdEndOp server.table ((server.continuationPool cont).data 0) = some table) :
    (endAndReply server cont status data).Ends := by
  rw [endAndReply, endOp, ended]
  exact freeAndReply_ends _ _ _ _

theorem callback_ends {answer : NfsReply} {call : NfsCall}
    (ended : callbackTable server cont answer call = some table) :
    (callback server cont answer call).Ends := by
  cases call with
  | mount | rename | unlink | mkdir => exact freeAndReply_ends _ _ _ _
  | stat path =>
    simp only [callback, statCb]
    split
    · exact freeAndReply_ends _ _ _ _
    · exact freeAndReply_ends _ _ _ _
  | fstat file | fsync file | ftruncate file length => exact endAndReply_ends ended
  | pread file buf count offset | pwrite file buf count offset =>
    simp only [callback, transferCb]
    split
    · exact endAndReply_ends ended
    · exact endAndReply_ends ended
  | open2 path flags | opendir path | close file =>
    simp only [callback, openCb, fileCloseCb]
    split
    · exact freeAndReply_ends _ _ _ _
    · exact freeAndReply_ends _ _ _ _
  | rmdir path =>
    simp only [callback, dirRemoveCb]
    split
    · exact .inr ⟨_, rfl, by simp⟩
    · exact freeAndReply_ends _ _ _ _

end LionsOS.Nfs

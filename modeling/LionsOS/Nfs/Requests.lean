/-
This file proves which runs of the NFS server answer each command once and lose no
continuation: those in which no command to deinitialise is taken and no callback
of a directory's removal is invoked. The handler of the first never replies; the
callback of the second takes a free continuation, replies with the id that was
left in it and leaves its own out of the list for good.
-/

import LionsOS.Nfs.Continuations
import LionsOS.Nfs.Server
import Mathlib.Data.List.Perm.Basic

open Function

namespace LionsOS.Nfs

open LionsOS.Fs StepRun

namespace NfsSystem

variable {system next : NfsSystem} {free : List (Fin maxConcurrentOps)} {toConsume : Option UInt64T}
  {commandCount : UInt64T} {outcome : Outcome}

variable {pending : Pending} {id : UInt64T} {params : CmdParams} {type : CmdType} {index : Nat}
  {cont : Fin maxConcurrentOps} {event : NfsEvent}

/-- The continuations that pending calls hold. -/
def lent (system : NfsSystem) : List (Fin maxConcurrentOps) :=
  system.pending.map Pending.cont

/-- Whoever is in the list or holds a continuation is alone in this, and what a pending call holds
knows the id of its command. -/
structure Owned (system : NfsSystem) (free : List (Fin maxConcurrentOps)) : Prop where
  listed : system.server.Free free
  distinct : (free ++ system.lent).Nodup
  held : ∀ pending ∈ system.pending,
    (system.server.continuationPool pending.cont).nextFree = none ∧
      (system.server.continuationPool pending.cont).requestId = pending.id

/-- Each command taken is answered or waits for a pending call, once, and each continuation is free
or held by a pending call, once. -/
structure AnsweredOnce (system : NfsSystem) : Prop where
  ids : (system.replies.map FsCmpl.id ++ system.pending.map Pending.id).Perm system.taken
  continuations : ∃ free, system.server.Free free ∧
    (free ++ system.lent).Perm (List.finRange maxConcurrentOps)

/-- How many completions the client has not consumed. -/
def unconsumed (system : NfsSystem) : Nat :=
  (fsQueueLengthProducer system.server.fsCompletionQueue).toNat

/-- The command that is handled next. -/
def nextCommand (system : NfsSystem) : Option FsCmd :=
  system.processing.map fun processing =>
    system.server.fsCommandQueue.buffer
      (fsQueueIdxFilled system.server.fsCommandQueue processing.index)

theorem nextCommand_of_processing {index : UInt64T}
    (processing : system.processing = some { commandCount, toConsume, index }) :
    system.nextCommand = some (system.server.fsCommandQueue.buffer
      (fsQueueIdxFilled system.server.fsCommandQueue index)) := by
  rw [nextCommand, processing]
  rfl

/-- No command to deinitialise is taken, and no callback of a directory's removal is invoked. -/
def Answerable (system : NfsSystem) : NfsEvent → Prop
  | .handle _ => ∀ command ∈ system.nextCommand, CmdType.ofNumber command.type ≠ some .deinitialise
  | .callback index _ => ∀ pending ∈ system.pending[index]?, ∀ path, pending.call ≠ .rmdir path
  | _ => True

/-- A step in which no assertion fails. -/
def LiveStep (system : NfsSystem) (event : NfsEvent) (next : NfsSystem) : Prop :=
  Step system event next ∧ next.failure = none

/-! ### The start -/

theorem owned_of_initial (initial : system.Initial) :
    system.Owned (List.finRange maxConcurrentOps) where
  listed := by
    refine ⟨?_, List.nodup_finRange _⟩
    rw [initial.firstFreeCont, initial.continuationPool]
    exact FreeList.listed_finRange _ (fun _ => rfl) _
  distinct := by
    rw [lent, initial.pending, List.map_nil, List.append_nil]
    exact List.nodup_finRange _
  held := by
    rw [initial.pending]
    exact fun _ none => nomatch none

theorem answeredOnce_of_initial (initial : system.Initial) : system.AnsweredOnce where
  ids := by
    rw [initial.replies, initial.pending, initial.taken]
    rfl
  continuations := by
    refine ⟨_, (owned_of_initial initial).listed, ?_⟩
    rw [lent, initial.pending, List.map_nil, List.append_nil]

/-! ### What a step does to requests -/

/-- The continuations as they are to the server and to the pending calls. -/
structure SameRequests (system next : NfsSystem) : Prop where
  pool : next.server.continuationPool = system.server.continuationPool
  first : next.server.firstFreeCont = system.server.firstFreeCont
  pending : next.pending = system.pending
  taken : next.taken = system.taken
  replies : next.replies = system.replies
  completions : next.unconsumed ≤ system.unconsumed

/-- What a step that fails no assertion does to the requests. -/
inductive RequestStep (system : NfsSystem) (free : List (Fin maxConcurrentOps))
    (next : NfsSystem) : NfsEvent → Prop
  /-- Nothing. -/
  | other {event : NfsEvent} (same : SameRequests system next)
      (answerable : system.Answerable event) : RequestStep system free next event
  | replied {answer : NfsAnswer} {id : UInt64T} {cmpl : FsCmpl} (own : cmpl.id = id)
      (owned : next.Owned free) (pending : next.pending = system.pending)
      (taken : next.taken = system.taken ++ [id])
      (replies : next.replies = system.replies ++ [cmpl])
      (completions : next.server.fsCompletionQueue = pushed system.server.fsCompletionQueue cmpl)
      (answerable : system.Answerable (.handle answer)) :
      RequestStep system free next (.handle answer)
  | submitted {answer : NfsAnswer} {id : UInt64T} {pending : Pending}
      {rest : List (Fin maxConcurrentOps)} (own : pending.id = id)
      (first : free = pending.cont :: rest) (owned : next.Owned rest)
      (more : next.pending = pending :: system.pending)
      (taken : next.taken = system.taken ++ [id]) (replies : next.replies = system.replies)
      (completions : next.server.fsCompletionQueue = system.server.fsCompletionQueue)
      (answerable : system.Answerable (.handle answer)) :
      RequestStep system free next (.handle answer)
  /-- A command to deinitialise is taken. -/
  | silent {answer : NfsAnswer} {id : UInt64T}
      (same : SameRequests { system with taken := system.taken ++ [id] } next)
      (unanswerable : ¬system.Answerable (.handle answer)) :
      RequestStep system free next (.handle answer)
  | called {index : Nat} {reply : NfsReply} {pending : Pending} {cmpl : FsCmpl}
      (found : system.pending[index]? = some pending) (own : cmpl.id = pending.id)
      (owned : next.Owned (pending.cont :: free))
      (fewer : next.pending = system.pending.eraseIdx index) (taken : next.taken = system.taken)
      (replies : next.replies = system.replies ++ [cmpl])
      (completions : next.server.fsCompletionQueue = pushed system.server.fsCompletionQueue cmpl)
      (answerable : system.Answerable (.callback index reply)) :
      RequestStep system free next (.callback index reply)
  /-- The callback of a directory's removal is invoked. -/
  | lost {index : Nat} {reply : NfsReply} {pending : Pending} {cmpl : FsCmpl}
      (found : system.pending[index]? = some pending) (owned : next.Owned free)
      (fewer : next.pending = system.pending.eraseIdx index)
      (completions : next.server.fsCompletionQueue = pushed system.server.fsCompletionQueue cmpl)
      (unanswerable : ¬system.Answerable (.callback index reply)) :
      RequestStep system free next (.callback index reply)

theorem Owned.of_same (owned : system.Owned free) (same : SameRequests system next) :
    next.Owned free where
  listed := owned.listed.congr same.pool same.first
  distinct := by
    rw [lent, same.pending]
    exact owned.distinct
  held := by
    rw [same.pending, same.pool]
    exact owned.held

theorem Owned.outside (owned : system.Owned free) (member : pending ∈ system.pending) :
    pending.cont ∉ free := fun inFree =>
  (List.nodup_append.mp owned.distinct).2.2 _ inFree _ (List.mem_map_of_mem member) rfl

/-- How a command that is taken leaves the requests. -/
theorem Owned.after_answered (owned : system.Owned free)
    (answered : Answered system.server free id outcome)
    (live : (system.after type params id outcome).failure = none) :
    (∃ cmpl : FsCmpl, cmpl.id = id ∧ (system.after type params id outcome).Owned free ∧
      (system.after type params id outcome).pending = system.pending ∧
      (system.after type params id outcome).taken = system.taken ∧
      (system.after type params id outcome).replies = system.replies ++ [cmpl] ∧
      (system.after type params id outcome).server.fsCompletionQueue =
        pushed system.server.fsCompletionQueue cmpl) ∨
    ∃ pending rest, pending.id = id ∧ free = pending.cont :: rest ∧
      (system.after type params id outcome).Owned rest ∧
      (system.after type params id outcome).pending = pending :: system.pending ∧
      (system.after type params id outcome).taken = system.taken ∧
      (system.after type params id outcome).replies = system.replies ∧
      (system.after type params id outcome).server.fsCompletionQueue =
        system.server.fsCompletionQueue := by
  cases answered with
  | replied own listed kept room completions commands =>
    refine Or.inl ⟨_, own, ⟨listed, owned.distinct, fun pending member => ?_⟩, rfl, rfl, rfl,
      completions⟩
    have same := kept _ (owned.outside member)
    exact same ▸ owned.held pending member
  | submitted first listed kept taken own completions commands =>
    rename_i accesses server call cont rest
    refine Or.inr ⟨{ type, params, id, call, cont }, rest, rfl, first, ⟨listed, ?_, ?_⟩, rfl, rfl,
      rfl, completions⟩
    · have distinct := owned.distinct
      rw [first] at distinct
      exact (List.perm_middle.nodup_iff).mpr distinct
    · refine List.forall_mem_cons.mpr ⟨⟨taken, own⟩, fun pending member => ?_⟩
      have same := kept _ (owned.outside member)
      exact same ▸ owned.held pending member
  | failed possible => cases live

theorem pending_perm (found : system.pending[index]? = some pending) :
    (pending :: system.pending.eraseIdx index).Perm system.pending := by
  obtain ⟨inside, rfl⟩ := List.getElem?_eq_some_iff.mp found
  exact List.getElem_cons_eraseIdx_perm inside

theorem Owned.without (owned : system.Owned free) (found : system.pending[index]? = some pending) :
    (pending.cont :: free ++ (system.pending.eraseIdx index).map Pending.cont).Nodup := by
  have split : (pending.cont :: free ++ (system.pending.eraseIdx index).map Pending.cont).Perm
      (free ++ system.lent) :=
    List.perm_middle.symm.trans (((pending_perm found).map Pending.cont).append_left free)
  exact split.nodup_iff.mpr owned.distinct

/-- How a callback leaves the requests, given the continuation that it frees. -/
theorem Owned.after_returned (owned : system.Owned free) {rest : List (Fin maxConcurrentOps)}
    (returned : Returned system.server rest cont outcome)
    (distinct : (cont :: rest ++ (system.pending.eraseIdx index).map Pending.cont).Nodup)
    (live : (({ system with pending := system.pending.eraseIdx index } : NfsSystem).after type
      params id outcome).failure = none) :
    ∃ cmpl : FsCmpl, cmpl.id = (system.server.continuationPool cont).requestId ∧
      (({ system with pending := system.pending.eraseIdx index } : NfsSystem).after type params id
        outcome).Owned (cont :: rest) ∧
      (({ system with pending := system.pending.eraseIdx index } : NfsSystem).after type params id
        outcome).pending = system.pending.eraseIdx index ∧
      (({ system with pending := system.pending.eraseIdx index } : NfsSystem).after type params id
        outcome).taken = system.taken ∧
      (({ system with pending := system.pending.eraseIdx index } : NfsSystem).after type params id
        outcome).replies = system.replies ++ [cmpl] ∧
      (({ system with pending := system.pending.eraseIdx index } : NfsSystem).after type params id
        outcome).server.fsCompletionQueue = pushed system.server.fsCompletionQueue cmpl := by
  cases returned with
  | replied own listed kept room completions commands =>
    refine ⟨_, own, ⟨listed, distinct, fun pending member => ?_⟩, rfl, rfl, rfl, completions⟩
    have notThere : pending.cont ∉ cont :: rest := fun there =>
      (List.nodup_append.mp distinct).2.2 _ there _ (List.mem_map_of_mem member) rfl
    have same := kept _ notThere
    exact same ▸ owned.held pending ((List.eraseIdx_subset member))
  | failed possible notSought => cases live

theorem SameHandling.sameRequests (same : SameHandling system next) : SameRequests system next :=
  ⟨same.pool, same.first, same.pending, same.taken, same.replies, same.completions⟩

theorem Owned.congr (owned : system.Owned free) (server : next.server = system.server)
    (pending : next.pending = system.pending) : next.Owned free where
  listed := server ▸ owned.listed
  distinct := by
    rw [lent, pending]
    exact owned.distinct
  held := by
    rw [server, pending]
    exact owned.held

/-- Taking a command. -/
theorem Owned.take (owned : system.Owned free) {answer : NfsAnswer} {commandCount : UInt64T}
    {toConsume : Option UInt64T} {index : UInt64T}
    (processing : system.processing = some { commandCount, toConsume, index })
    (live : (({ system with
      processing := some { commandCount, toConsume, index := index + 1 } } : NfsSystem).take
        answer index).failure = none) :
    RequestStep system free (({ system with
      processing := some { commandCount, toConsume, index := index + 1 } } : NfsSystem).take
        answer index) (.handle answer) := by
  have following := nextCommand_of_processing processing
  unfold NfsSystem.take at live ⊢
  generalize system.server.fsCommandQueue.buffer
    (fsQueueIdxFilled system.server.fsCommandQueue index) = cmd at following live ⊢
  -- Noting the command's id does not change who holds which continuation.
  have noted : ({ system with
      processing := some { commandCount, toConsume, index := index + 1 }
      taken := system.taken ++ [cmd.id] } : NfsSystem).Owned free := owned.congr rfl rfl
  have answerable_of : CmdType.ofNumber cmd.type ≠ some .deinitialise →
      system.Answerable (.handle answer) := by
    intro replies command found
    rw [following] at found
    cases found
    exact replies
  cases type : CmdType.ofNumber cmd.type with
  | none =>
    simp only [type] at live ⊢
    have answered : Answered system.server free cmd.id
        (reply system.server (cmplOf cmd.id fsStatusInvalidCommand)) :=
      owned.listed.steady.answered_reply rfl
    rcases noted.after_answered answered live with replied | submitted
    · obtain ⟨cmpl, own, nextOwned, pending, taken, replies, completions⟩ := replied
      exact .replied own nextOwned pending taken replies completions
        (answerable_of (by rw [type]; simp))
    · obtain ⟨pending, rest, own, first, nextOwned, more, taken, replies, completions⟩ := submitted
      exact .submitted own first nextOwned more taken replies completions
        (answerable_of (by rw [type]; simp))
  | some known =>
    simp only [type] at live ⊢
    by_cases replies : known = .deinitialise
    · subst replies
      refine .silent ⟨rfl, rfl, rfl, rfl, rfl, le_rfl⟩ fun answerable => ?_
      exact answerable cmd following type
    · have answerable := answerable_of (by rw [type]; simpa using replies)
      have answered := answered_cmdHandler owned.listed answer cmd.id cmd.params replies
      rcases noted.after_answered answered live with replied | submitted
      · obtain ⟨cmpl, own, nextOwned, pending, taken, replies, completions⟩ := replied
        exact .replied own nextOwned pending taken replies completions answerable
      · obtain ⟨pending, rest, own, first, nextOwned, more, taken, replies, completions⟩ := submitted
        exact .submitted own first nextOwned more taken replies completions answerable

theorem Owned.calledBack (owned : system.Owned free) {reply : NfsReply} {call : NfsCall}
    (found : system.pending[index]? = some { type, params, id, call, cont })
    (live : (({ system with pending := system.pending.eraseIdx index } : NfsSystem).after type
      params id (callback system.server cont reply call)).failure = none) :
    RequestStep system free
      (({ system with pending := system.pending.eraseIdx index } : NfsSystem).after type
        params id (callback system.server cont reply call)) (.callback index reply) := by
  have member := List.mem_of_getElem? found
  have distinct := owned.without found
  by_cases removal : ∃ path, call = .rmdir path
  · obtain ⟨path, rfl⟩ := removal
    have unanswerable : ¬system.Answerable (.callback index reply) := fun answerable =>
      answerable _ found path rfl
    rcases returned_dirRemoveCb owned.listed reply with ⟨_, accesses, after, failed⟩ | returned
    · simp only [callback, failed] at live
      cases live
    · obtain ⟨other, rest, rfl, returned⟩ := returned
      have distinct := (List.nodup_cons.mp distinct).2
      obtain ⟨cmpl, _, nextOwned, fewer, _, _, completions⟩ :=
        owned.after_returned returned distinct live
      exact .lost found nextOwned fewer completions unanswerable
  · have ordinary : ∀ path, call ≠ .rmdir path := fun path same => removal ⟨path, same⟩
    have returned := returned_callback owned.listed (owned.outside member)
      (owned.held _ member).1 reply ordinary
    obtain ⟨cmpl, own, nextOwned, fewer, taken, replies, completions⟩ :=
      owned.after_returned returned distinct live
    refine .called found (own.trans (owned.held _ member).2) nextOwned fewer taken replies
      completions ?_
    intro pending here
    rw [found] at here
    cases here
    exact ordinary

theorem Owned.step (owned : system.Owned free) (step : LiveStep system event next) :
    RequestStep system free next event := by
  obtain ⟨performed, live⟩ := step
  cases steps_of_step performed with
  | goesOn same notHandled notCalled =>
    refine .other same.sameRequests ?_
    cases event with
    | handle answer => exact (notHandled answer rfl).elim
    | callback index reply => exact (notCalled index reply rfl).elim
    | _ => trivial
  | handles processing => exact owned.take processing live
  | calls found => exact owned.calledBack found live

/-! ### Runs -/

theorem answeredOnce_iff (owned : system.Owned free) :
    system.AnsweredOnce ↔
      (system.replies.map FsCmpl.id ++ system.pending.map Pending.id).Perm system.taken ∧
        (free ++ system.lent).Perm (List.finRange maxConcurrentOps) := by
  constructor
  · rintro ⟨ids, other, listed, all⟩
    rw [owned.listed.listed.unique listed.listed]
    exact ⟨ids, all⟩
  · rintro ⟨ids, all⟩
    exact ⟨ids, free, owned.listed, all⟩

theorem RequestStep.owned (step : RequestStep system free next event) (owned : system.Owned free) :
    ∃ free, next.Owned free := by
  cases step with
  | other same answerable => exact ⟨free, owned.of_same same⟩
  | replied own owned pending taken replies completions answerable => exact ⟨free, owned⟩
  | submitted own first owned more taken replies completions answerable => exact ⟨_, owned⟩
  | silent same unanswerable =>
    rename_i answer id
    have noted : ({ system with taken := system.taken ++ [id] } : NfsSystem).Owned free :=
      owned.congr rfl rfl
    exact ⟨free, noted.of_same same⟩
  | called found own owned fewer taken replies completions answerable => exact ⟨_, owned⟩
  | lost found owned fewer completions unanswerable => exact ⟨free, owned⟩

theorem RequestStep.answeredOnce_iff (step : RequestStep system free next event)
    (owned : system.Owned free) (before : system.AnsweredOnce) :
    next.AnsweredOnce ↔ system.Answerable event := by
  obtain ⟨ids, all⟩ := (NfsSystem.answeredOnce_iff owned).mp before
  cases step with
  | other same answerable =>
    refine iff_of_true ((NfsSystem.answeredOnce_iff (owned.of_same same)).mpr ?_) answerable
    rw [lent, same.replies, same.pending, same.taken]
    exact ⟨ids, all⟩
  | replied own nextOwned pending taken replies completions answerable =>
    refine iff_of_true ((NfsSystem.answeredOnce_iff nextOwned).mpr ?_) answerable
    rw [lent, replies, pending, taken]
    refine ⟨?_, all⟩
    rw [List.map_append, List.map_singleton, own, List.append_assoc]
    refine (List.perm_append_comm.append_left _).trans ?_
    rw [← List.append_assoc]
    exact ids.append_right _
  | submitted own first nextOwned more taken replies completions answerable =>
    refine iff_of_true ((NfsSystem.answeredOnce_iff nextOwned).mpr ?_) answerable
    rw [lent, replies, more, taken, List.map_cons, own]
    constructor
    · exact (List.perm_middle.trans (ids.cons _)).trans (List.perm_append_singleton _ _).symm
    · rw [first] at all
      exact List.perm_middle.trans all
  | silent same unanswerable =>
    refine iff_of_false (fun after => ?_) unanswerable
    have lengths := after.ids.length_eq
    rw [same.replies, same.pending, same.taken, ids.length_eq, List.length_append] at lengths
    exact Nat.succ_ne_self _ lengths.symm
  | called found own nextOwned fewer taken replies completions answerable =>
    have split := pending_perm found
    refine iff_of_true ((NfsSystem.answeredOnce_iff nextOwned).mpr ?_) answerable
    rw [lent, replies, fewer, taken]
    constructor
    · rw [List.map_append, List.map_singleton, own, List.append_assoc]
      exact ((split.map Pending.id).append_left _).trans ids
    · exact (List.perm_middle.symm.trans ((split.map Pending.cont).append_left free)).trans all
  | lost found nextOwned fewer completions unanswerable =>
    refine iff_of_false (fun after => ?_) unanswerable
    have allAfter := ((NfsSystem.answeredOnce_iff nextOwned).mp after).2
    have lengths := (allAfter.trans all.symm).length_eq
    have split := (pending_perm found).length_eq
    simp only [lent, fewer, List.length_append, List.length_map, List.length_cons] at lengths split
    omega

/-- In the runs of the server in which no assertion fails, each command taken is answered once, with
its id, or still waits for one pending call, and each continuation is free or held by one, in every
state, exactly if no command to deinitialise is ever taken and no callback of a directory's removal
is ever invoked. -/
theorem answered_once_iff_answerable {start : NfsSystem} (initial : start.Initial)
    {events : List NfsEvent} :
    Run (Within AnsweredOnce LiveStep) start events system ↔
      Run (Guarded Answerable LiveStep) start events system := by
  refine run_within_iff_guarded (fun state => ∃ free, state.Owned free)
    ⟨_, owned_of_initial initial⟩ (answeredOnce_of_initial initial) ?_ ?_
  · rintro state event next ⟨free, owned⟩ step
    exact (owned.step step).owned owned
  · rintro state event next ⟨free, owned⟩ before step
    exact (owned.step step).answeredOnce_iff owned before

theorem run_live {start : NfsSystem} {events : List NfsEvent}
    (run : Run Step start events system) (live : system.failure = none) :
    Run LiveStep start events system := by
  induction run with
  | nil => exact Run.nil
  | snoc before last inductionHypothesis =>
    exact (inductionHypothesis (live_of_step last)).snoc ⟨last, live⟩

/-! ### Two slips -/

/-- The client puts a command in the queue, with a path of one byte at the start of the share, and
the server measures the queues. -/
def offering (slot : Fin fsQueueCapacity) (id type : UInt64T) : List NfsEvent :=
  [.putCommand slot { id, type, params := paramsOf [0, 1] }, .publishCommands 1,
    .readCommandCount, .readCompletionSpace]

/-- Whatever is submitted is accepted. -/
def accepting : NfsAnswer where
  context := true
  submitted := true
  dirent := none
  location := 0

def succeeding : NfsReply where
  status := 0
  handle := 0
  size := 0
  stat := fun _ => 0

/-- The client initialises the server, with a path in the share, and its mount succeeds. -/
def mounting : List NfsEvent :=
  .writeShare (fun _ => 97) :: offering ⟨0, by decide⟩ 6 0 ++
    [.handle accepting, .publishConsumption, .callback 0 succeeding]

/-- Where the list begins with the second continuation and goes on as at the start, the first is not
in it. -/
theorem not_all_free {server : NfsServer} (first : server.firstFreeCont = some ⟨1, by decide⟩)
    (links : ∀ cont, cont ≠ ⟨0, by decide⟩ →
      (server.continuationPool cont).nextFree = (initialContinuation cont).nextFree) :
    ¬∃ free, server.Free free ∧ free.Perm (List.finRange maxConcurrentOps) := by
  rintro ⟨free, listed, all⟩
  have others : FreeList.Listed (fun cont => (server.continuationPool cont).nextFree)
      (some ⟨1, by decide⟩) ((List.finRange maxConcurrentOps).drop 1) := by
    refine (FreeList.listed_drop_finRange (fun _ => rfl)
      (by decide : 1 ≤ maxConcurrentOps)).congr fun cont member => links cont ?_
    rintro rfl
    obtain ⟨index, inside, same⟩ := List.getElem_of_mem member
    rw [List.getElem_drop, List.getElem_finRange] at same
    have zero : 1 + index = 0 := congrArg Fin.val same
    omega
  have same := listed.listed.unique (first ▸ others)
  have length := all.length_eq
  rw [same, List.length_drop, List.length_finRange] at length
  exact absurd length (by decide)

/-- A directory's removal is answered with another id than its own, and no call is pending, but one
of the continuations is not free. -/
theorem dirRemove_loses_continuation :
    started.Initial ∧ ∃ system, Run LiveStep started
        (mounting ++ offering ⟨1, by decide⟩ 7 12 ++
          [.handle accepting, .publishConsumption, .callback 0 succeeding]) system ∧
      system.processing = none ∧ system.pending = [] ∧ system.taken = [6, 7] ∧
      system.replies.map FsCmpl.id = [6, 0] ∧ ¬system.AnsweredOnce ∧
      ¬∃ free, system.server.Free free ∧ free.Perm (List.finRange maxConcurrentOps) := by
  refine ⟨started_initial, _, run_live (Run.of_foldlM (fun _ _ _ performed => performed) rfl) rfl,
    rfl, rfl, rfl, rfl, fun answered => ?_, not_all_free rfl fun cont other => ?_⟩
  · exact absurd (answered.ids.mem_iff.mpr (by decide : (7 : UInt64T) ∈ [6, 7])) (by decide)
  · by_cases second : cont = ⟨1, by decide⟩
    · subst second
      rfl
    · show (update (update (update (update (update
        (update (update initialContinuation _ _) _ _) _ _) _ _) _ _) _ _) _ _ cont).nextFree = _
      simp only [update_of_ne second, update_of_ne other]

/-- A command whose call succeeds. -/
theorem answered_once_of_dirCreate :
    ∃ system, Run (Within AnsweredOnce LiveStep) started
        (offering ⟨0, by decide⟩ 7 11 ++ [.handle accepting] ++ [.publishConsumption] ++
          [.callback 0 succeeding]) system ∧
      system.pending = [] ∧ system.replies.map FsCmpl.id = [7] := by
  obtain ⟨offered, offers, command, following, known, handled, handles, published, publishes,
      pending, path, one, creates, system, returns, ended⟩ :
      ∃ offered, Run LiveStep started (offering ⟨0, by decide⟩ 7 11) offered ∧
        ∃ command, offered.nextCommand = some command ∧ command.type = 11 ∧
        ∃ handled, LiveStep offered (.handle accepting) handled ∧
        ∃ published, LiveStep handled .publishConsumption published ∧
        ∃ pending path, published.pending = [pending] ∧ pending.call = .mkdir path ∧
        ∃ system, LiveStep published (.callback 0 succeeding) system ∧
          system.pending = [] ∧ system.replies.map FsCmpl.id = [7] := by
    refine ⟨_, run_live (Run.of_foldlM (fun _ _ _ performed => performed) rfl) rfl, ?_⟩
    exact ⟨_, rfl, rfl, _, ⟨rfl, rfl⟩, _, ⟨rfl, rfl⟩, _, _, rfl, rfl, _, ⟨rfl, rfl⟩, rfl, rfl⟩
  have guarded : Run (Guarded Answerable LiveStep) started (offering ⟨0, by decide⟩ 7 11)
      offered := offers.guarded_of_labels fun event member state => by
    simp only [offering, List.mem_cons, List.not_mem_nil, or_false] at member
    rcases member with rfl | rfl | rfl | rfl <;> trivial
  have answerable : offered.Answerable (.handle accepting) := fun other found => by
    rw [following] at found
    cases found
    rw [known]
    decide
  have consumed : handled.Answerable .publishConsumption := trivial
  have ordinary : published.Answerable (.callback 0 succeeding) := fun other found path => by
    rw [one] at found
    cases found
    rw [creates]
    exact NfsCall.noConfusion
  exact ⟨system, (answered_once_iff_answerable started_initial).mpr
    (((guarded.snoc ⟨answerable, handles⟩).snoc ⟨consumed, publishes⟩).snoc ⟨ordinary, returns⟩),
    ended⟩

end NfsSystem

end LionsOS.Nfs

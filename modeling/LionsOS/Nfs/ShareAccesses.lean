/-
This file proves that the NFS server keeps to the buffers that its clients name.
A handler checks a buffer before it accesses it or gives it to libnfs; only the
result of a stat is written later, by a callback, to a buffer that its handler has
checked and put in the continuation. As no other request gets this continuation in
between, the callback finds the same buffer there.
-/

import LionsOS.Nfs.Requests

namespace LionsOS.Nfs

open LionsOS.Fs StepRun List

variable {outcome : Outcome} {rest : NfsServer → Outcome} {fd : UInt64T} {call : NfsCall}
  {data : List UInt64T} {cont : Fin maxConcurrentOps} {free : List (Fin maxConcurrentOps)}
  {params : CmdParams} {buf : FsBuffer} {type : CmdType} {kind : OfKind} {id : UInt64T}

/-! ### Outcomes -/

/-- An outcome accesses only the buffers, and the continuation of a stat that it submits has the
start of one that is long enough. -/
structure OutcomeAllowed (buffers : List FsBuffer) (outcome : Outcome) : Prop where
  ranges : ∀ range ∈ outcome.ranges, Allowed clientShareSize buffers range
  stored : ∀ path cont, outcome.progress = .submitted (.stat path) cont →
    Allowed clientShareSize buffers
      ⟨((outcome.server.continuationPool cont).data 0).toNat, 136⟩

variable {buffers : List FsBuffer} {server : NfsServer} {answer : NfsAnswer}

theorem outcomeAllowed_fail {failure : NfsFailure} :
    OutcomeAllowed buffers (fail server failure) where
  ranges := by rintro _ ⟨⟩
  stored := by rintro _ _ ⟨⟩

theorem outcomeAllowed_reply {cmpl : FsCmpl} : OutcomeAllowed buffers (reply server cmpl) := by
  unfold reply
  split
  · exact outcomeAllowed_fail
  · exact ⟨by rintro _ ⟨⟩, by rintro _ _ ⟨⟩⟩

theorem OutcomeAllowed.cons (allowed : OutcomeAllowed buffers outcome) {range : Bytes.Range}
    (one : Allowed clientShareSize buffers range) {pathWrites : List PathWrite} :
    OutcomeAllowed buffers { outcome with accesses := range :: outcome.accesses, pathWrites } where
  ranges := by
    intro access member
    have more : access ∈ range :: outcome.ranges := by
      obtain ⟨accesses, written, server, progress⟩ := outcome
      cases progress <;> exact member
    rcases mem_cons.mp more with rfl | before
    · exact one
    · exact allowed.ranges access before
  stored := allowed.stored

theorem outcomeAllowed_withPath {slot : Fin 2} (named : buf ∈ buffers)
    (allowed : ∀ server, OutcomeAllowed buffers (rest server)) :
    OutcomeAllowed buffers (withPath server id slot buf rest) := by
  unfold withPath
  split
  · exact outcomeAllowed_reply
  · rename_i path copied
    exact (allowed _).cons (allowed_of_copied named copied)

theorem outcomeAllowed_withBuffer (named : buf ∈ buffers) {least : Nat} {rest : UInt64T → Outcome}
    (allowed : ∀ data, Allowed clientShareSize buffers ⟨data.toNat, buf.size.toNat⟩ →
      least ≤ buf.size.toNat → OutcomeAllowed buffers (rest data)) :
    OutcomeAllowed buffers (withBuffer server id buf least rest) := by
  unfold withBuffer
  split
  · exact outcomeAllowed_reply
  · rename_i data checked
    split
    · exact outcomeAllowed_reply
    · rename_i long
      exact allowed data (allowed_of_checked named checked le_rfl) (Nat.not_lt.mp long)

theorem outcomeAllowed_withOp {rest : UInt64T → NfsServer → Outcome}
    (allowed : ∀ handle server, OutcomeAllowed buffers (rest handle server)) :
    OutcomeAllowed buffers (withOp kind server id fd rest) := by
  unfold withOp
  split
  · exact outcomeAllowed_reply
  · exact allowed _ _

theorem outcomeAllowed_endOp (allowed : ∀ server, OutcomeAllowed buffers (rest server)) :
    OutcomeAllowed buffers (endOp server fd rest) := by
  unfold endOp
  split
  · exact outcomeAllowed_fail
  · exact allowed _

theorem outcomeAllowed_freeContinuation (allowed : ∀ server, OutcomeAllowed buffers (rest server)) :
    OutcomeAllowed buffers (freeContinuation server cont rest) := by
  unfold freeContinuation
  split
  · exact outcomeAllowed_fail
  · exact allowed _

section

variable (ranges : ∀ range ∈ call.shareRanges, Allowed clientShareSize buffers range)
  (stored : ∀ path, call = .stat path → ∃ buf, data[0]? = some buf ∧ Allowed clientShareSize
    buffers ⟨buf.toNat, 136⟩)
include ranges stored

/-- A call is submitted with the buffers it may have, and that of a stat is stored first. -/
theorem outcomeAllowed_submitWith {undo : NfsServer → (NfsServer → Outcome) → Outcome}
    (undone : ∀ server (rest : NfsServer → Outcome),
      (∀ server, OutcomeAllowed buffers (rest server)) →
      OutcomeAllowed buffers (undo server rest)) :
    OutcomeAllowed buffers (submitWith server answer id data call undo) := by
  unfold submitWith withContinuation
  split
  · exact outcomeAllowed_fail
  · unfold submit
    split
    · refine ⟨ranges, fun path cont same => ?_⟩
      cases same
      obtain ⟨buf, first, allowed⟩ := stored path rfl
      simp only [Function.update_self]
      show Allowed clientShareSize buffers ⟨(data[0]?.getD _).toNat, 136⟩
      rw [first]
      exact allowed
    · exact outcomeAllowed_freeContinuation fun server =>
        undone server _ fun server => outcomeAllowed_reply

theorem outcomeAllowed_submitWith_nothing :
    OutcomeAllowed buffers (submitWith server answer id data call nothing) :=
  outcomeAllowed_submitWith ranges stored fun server _ allowed => allowed server

end

theorem outcomeAllowed_fileCall {call : UInt64T → NfsCall}
    (ranges : ∀ file, ∀ range ∈ (call file).shareRanges, Allowed clientShareSize buffers range)
    (noStat : ∀ file path, call file ≠ .stat path) :
    OutcomeAllowed buffers (fileCall server answer id fd data call) := by
  refine outcomeAllowed_withOp fun file server => ?_
  exact outcomeAllowed_submitWith (ranges file) (fun path same => absurd same (noStat file path))
    fun server _ allowed => outcomeAllowed_endOp allowed

section

variable {call : List UInt8T → NfsCall} (named : paramBuffer params 0 ∈ buffers)
  (plain : ∀ path, (call path).shareRanges = []) (noStat : ∀ path path', call path ≠ .stat path')
include named plain noStat

theorem outcomeAllowed_openCall :
    OutcomeAllowed buffers (openCall server answer id params call) := by
  refine outcomeAllowed_withPath named fun server => ?_
  split
  · exact outcomeAllowed_reply
  · refine outcomeAllowed_submitWith ?_ (fun path same => absurd same (noStat _ path))
      fun server _ allowed => allowed _
    rw [plain]
    simp

theorem outcomeAllowed_pathCall :
    OutcomeAllowed buffers (pathCall server answer id params call) := by
  refine outcomeAllowed_withPath named fun server => ?_
  refine outcomeAllowed_submitWith_nothing ?_ fun path same => absurd same (noStat _ path)
  rw [plain]
  simp

end

theorem outcomeAllowed_withUnset {rest : UInt64T → NfsServer → Outcome}
    (allowed : ∀ handle server, OutcomeAllowed buffers (rest handle server)) :
    OutcomeAllowed buffers (withUnset server id kind fd rest) := by
  refine outcomeAllowed_withOp fun handle server => outcomeAllowed_endOp fun server => ?_
  split
  · exact outcomeAllowed_reply
  · exact allowed _ _

theorem outcomeAllowed_dirCall {data : UInt64T} :
    OutcomeAllowed buffers (dirCall server id params data) := by
  unfold dirCall
  exact outcomeAllowed_withOp fun _ _ => outcomeAllowed_endOp fun _ => outcomeAllowed_reply

theorem outcomeAllowed_cmdHandler (type : CmdType) :
    OutcomeAllowed (type.buffers params) (cmdHandler server answer id params type) := by
  cases type with
  | initialise =>
    simp only [cmdHandler, handleInitialise]
    split
    · exact outcomeAllowed_reply
    · split
      · exact outcomeAllowed_submitWith_nothing (by rintro _ ⟨⟩) (by rintro _ ⟨⟩)
      · exact outcomeAllowed_reply
  | deinitialise => exact ⟨by rintro _ ⟨⟩, by rintro _ _ ⟨⟩⟩
  | fileOpen | dirOpen =>
    simp only [cmdHandler]
    exact outcomeAllowed_openCall mem_cons_self (fun _ => rfl) (by simp)
  | fileClose =>
    simp only [cmdHandler, handleFileClose]
    refine outcomeAllowed_withUnset fun file server => ?_
    exact outcomeAllowed_submitWith (by rintro _ ⟨⟩) (by rintro _ ⟨⟩) fun server _ allowed =>
      allowed _
  | stat =>
    simp only [cmdHandler, handleStat]
    refine outcomeAllowed_withPath mem_cons_self fun server => ?_
    refine outcomeAllowed_withBuffer (mem_cons_of_mem _ mem_cons_self) fun data allowed long => ?_
    refine outcomeAllowed_submitWith_nothing (by rintro _ ⟨⟩) fun path same => ?_
    exact ⟨data, rfl, allowed.shorten long⟩
  | fileRead | fileWrite =>
    refine outcomeAllowed_withBuffer mem_cons_self fun data allowed _ => ?_
    exact outcomeAllowed_fileCall (fun file => forall_mem_singleton.mpr allowed) (by simp)
  | fileSize | fileSync | fileTruncate =>
    exact outcomeAllowed_fileCall (fun file _ none => by cases none) (by simp)
  | rename =>
    simp only [cmdHandler]
    refine outcomeAllowed_withPath mem_cons_self fun server =>
      outcomeAllowed_withPath mem_cons_self fun server => ?_
    exact outcomeAllowed_submitWith_nothing (by rintro _ ⟨⟩) (by rintro _ ⟨⟩)
  | fileRemove | dirCreate | dirRemove =>
    exact outcomeAllowed_pathCall mem_cons_self (fun _ => rfl) (by simp)
  | dirClose =>
    simp only [cmdHandler, handleDirClose]
    exact outcomeAllowed_withUnset fun dir server => outcomeAllowed_reply
  | dirRead =>
    refine outcomeAllowed_withBuffer mem_cons_self fun buf allowed long =>
      outcomeAllowed_withOp fun dir server => ?_
    split
    · exact outcomeAllowed_endOp fun server => outcomeAllowed_reply
    · split
      · exact outcomeAllowed_fail
      · rename_i name notLong
        refine (outcomeAllowed_endOp fun server => outcomeAllowed_reply).cons ?_
        exact allowed.shorten ((Nat.not_lt.mp notLong).trans long)
  | dirSeek | dirTell | dirRewind =>
    exact outcomeAllowed_dirCall

/-! ### Callbacks -/

section Callbacks

variable {reply : NfsReply}

theorem outcomeAllowed_freeAndReply {status data : UInt64T} :
    OutcomeAllowed buffers (freeAndReply server cont status data) :=
  outcomeAllowed_freeContinuation fun _ => outcomeAllowed_reply

theorem outcomeAllowed_endAndReply {status data : UInt64T} :
    OutcomeAllowed buffers (endAndReply server cont status data) :=
  outcomeAllowed_endOp fun _ => outcomeAllowed_freeAndReply

theorem outcomeAllowed_callback
    (stored : ∀ path, call = .stat path → Allowed clientShareSize buffers
      ⟨((server.continuationPool cont).data 0).toNat, 136⟩) :
    OutcomeAllowed buffers (callback server cont reply call) := by
  cases call with
  | mount | rename | unlink | mkdir => exact outcomeAllowed_freeAndReply
  | stat path =>
    simp only [callback, statCb]
    split
    · exact outcomeAllowed_freeAndReply.cons (stored path rfl)
    · exact outcomeAllowed_freeAndReply
  | fstat file | fsync file | ftruncate file length => exact outcomeAllowed_endAndReply
  | open2 path flags | opendir path | close file =>
    simp only [callback, openCb, fileCloseCb]
    split <;> exact outcomeAllowed_freeAndReply
  | pread file buf count offset | pwrite file buf count offset =>
    simp only [callback, transferCb]
    split <;> exact outcomeAllowed_endAndReply
  | rmdir path =>
    simp only [callback, dirRemoveCb]
    split
    · exact outcomeAllowed_fail
    · exact outcomeAllowed_freeAndReply

end Callbacks

/-! ### Continuations in use -/

/-- Which continuations an outcome without a failure leaves as they are. -/
def Outcome.Keeps (before : NfsServer) (free : List (Fin maxConcurrentOps)) (outcome : Outcome) :
    Prop :=
  (∀ failure, outcome.progress ≠ .failed failure) → ∀ cont, cont ∉ free →
    outcome.server.continuationPool cont = before.continuationPool cont

theorem Answered.keeps (answered : Answered server free id outcome) :
    outcome.Keeps server free := by
  intro live
  cases answered with
  | replied own listed kept room completions commands => exact kept
  | submitted first listed kept taken own completions commands => exact kept
  | failed possible => exact absurd rfl (live _)

theorem Returned.keeps (returned : Returned server free cont outcome) :
    outcome.Keeps server (cont :: free) := by
  intro live
  cases returned with
  | replied own listed kept room completions commands => exact kept
  | failed possible notSought => exact absurd rfl (live _)

/-! ### Runs -/

namespace NfsSystem

variable {system next : NfsSystem} {event : NfsEvent}

/-- What the callback of a stat will find is allowed to it. -/
def StoredAllowed (server : NfsServer) (pending : Pending) : Prop :=
  ∀ path, pending.call = .stat path → Allowed clientShareSize (pending.type.buffers pending.params)
      ⟨((server.continuationPool pending.cont).data 0).toNat, 136⟩

/-- All accesses so far are allowed, and while no assertion has failed those that the calls in flight
will lead to are as well. -/
structure AccessesAllowed (system : NfsSystem) : Prop where
  accesses : ∀ access ∈ system.accesses,
    Allowed clientShareSize (access.type.buffers access.params) access.range
  stored : system.failure = none → ∀ pending ∈ system.pending,
    StoredAllowed system.server pending

theorem accessesAllowed_of_initial (initial : system.Initial) : system.AccessesAllowed where
  accesses := by
    rw [initial.accesses]
    simp
  stored := by
    rw [initial.pending]
    simp

/-- An outcome that keeps to its buffers and to free continuations keeps all accesses allowed. -/
theorem AccessesAllowed.after (allowed : system.AccessesAllowed) (live : system.failure = none)
    (own : OutcomeAllowed (type.buffers params) outcome) (keeps : outcome.Keeps system.server free)
    (apart : ∀ pending ∈ system.pending, pending.cont ∉ free) :
    (system.after type params id outcome).AccessesAllowed where
  accesses := by
    have accesses : (system.after type params id outcome).accesses =
        system.accesses ++ outcome.ranges.map (ShareAccess.mk type params) := by
      unfold NfsSystem.after
      split <;> rfl
    rw [accesses]
    intro access member
    rcases mem_append.mp member with before | new
    · exact allowed.accesses access before
    · obtain ⟨range, touched, rfl⟩ := mem_map.mp new
      exact own.ranges range touched
  stored := by
    obtain ⟨accesses, written, server, progress⟩ := outcome
    -- What the pending calls will find is what they would have found before.
    have kept (ends : ∀ failure, progress ≠ .failed failure) :
        ∀ pending ∈ system.pending, StoredAllowed server pending := by
      intro pending member path same
      rw [keeps ends _ (apart pending member)]
      exact allowed.stored live pending member path same
    cases progress with
    | submitted call cont =>
      intro _
      refine forall_mem_cons.mpr ⟨fun path same => ?_, kept (by simp)⟩
      exact own.stored path cont (congrArg (NfsProgress.submitted · cont) same)
    | replied cmpl | silent => exact fun _ => kept (by simp)
    | failed failure => rintro ⟨⟩

/-- The client does not reach the continuations. -/
theorem AccessesAllowed.congr (allowed : system.AccessesAllowed)
    (accesses : next.accesses = system.accesses) (failure : next.failure = system.failure)
    (pending : next.pending = system.pending)
    (pool : next.server.continuationPool = system.server.continuationPool) :
    next.AccessesAllowed where
  accesses := accesses ▸ allowed.accesses
  stored := by
    rw [failure, pending]
    intro live call member path same
    rw [pool]
    exact allowed.stored live call member path same

theorem AccessesAllowed.take (allowed : system.AccessesAllowed) (live : system.failure = none)
    (owned : system.Owned free) (answer : NfsAnswer) (index : UInt64T) :
    (system.take answer index).AccessesAllowed := by
  unfold NfsSystem.take
  generalize system.server.fsCommandQueue.buffer
    (fsQueueIdxFilled system.server.fsCommandQueue index) = cmd
  have noted : ({ system with taken := system.taken ++ [cmd.id] } : NfsSystem).AccessesAllowed :=
    allowed.congr rfl rfl rfl rfl
  have apart : ∀ pending ∈ system.pending, pending.cont ∉ free := fun _ => owned.outside
  cases type : CmdType.ofNumber cmd.type with
  | none =>
    have answered : Answered system.server free cmd.id
        (reply system.server (cmplOf cmd.id fsStatusInvalidCommand)) :=
      owned.listed.steady.answered_reply rfl
    simp only [type]
    exact noted.after live outcomeAllowed_reply answered.keeps apart
  | some known =>
    simp only [type]
    refine noted.after live (outcomeAllowed_cmdHandler known) ?_ apart
    by_cases silent : known = .deinitialise
    · subst silent
      exact fun _ _ _ => rfl
    · exact (answered_cmdHandler owned.listed answer cmd.id cmd.params silent).keeps

/-- Invoking a callback. -/
theorem AccessesAllowed.calledBack (allowed : system.AccessesAllowed) (live : system.failure = none)
    (owned : system.Owned free) {index : Nat} {reply : NfsReply}
    (found : system.pending[index]? = some { type, params, id, call, cont }) :
    (({ system with pending := system.pending.eraseIdx index } : NfsSystem).after type params id
      (callback system.server cont reply call)).AccessesAllowed := by
  have member := mem_of_getElem? found
  have fewer : ({ system with
      pending := system.pending.eraseIdx index } : NfsSystem).AccessesAllowed :=
    ⟨allowed.accesses, fun live pending rest =>
      allowed.stored live pending (eraseIdx_subset rest)⟩
  have own : OutcomeAllowed (type.buffers params) (callback system.server cont reply call) :=
    outcomeAllowed_callback (allowed.stored live _ member)
  have distinct := owned.without found
  by_cases removal : ∃ path, call = .rmdir path
  · obtain ⟨path, rfl⟩ := removal
    have apart : ∀ pending ∈ system.pending.eraseIdx index, pending.cont ∉ free :=
      fun pending rest => owned.outside (eraseIdx_subset rest)
    rcases returned_dirRemoveCb owned.listed reply with ⟨_, accesses, after, ends⟩ | returned
    · have keeps : (dirRemoveCb system.server reply).Keeps system.server free := by
        rw [ends]
        exact fun live => absurd rfl (live _)
      exact fewer.after live own keeps apart
    · obtain ⟨other, rest, rfl, returned⟩ := returned
      exact fewer.after live own returned.keeps apart
  · have returned := returned_callback owned.listed (owned.outside member)
      (owned.held _ member).1 reply fun path same => removal ⟨path, same⟩
    refine fewer.after live own returned.keeps fun pending rest there => ?_
    exact (nodup_append.mp distinct).2.2 _ there _ (mem_map_of_mem rest) rfl

theorem AccessesAllowed.step (allowed : system.AccessesAllowed) (owned : system.Owned free)
    (step : Step system event next) : next.AccessesAllowed := by
  have live := live_of_step step
  cases steps_of_step step with
  | goesOn same => exact allowed.congr same.accesses same.failure same.pending same.pool
  | @handles answer commandCount toConsume index processing =>
    have later : ({ system with
        processing := some ⟨commandCount, some toConsume, index + 1⟩ } :
          NfsSystem).AccessesAllowed := allowed.congr rfl rfl rfl rfl
    exact later.take live (owned.congr rfl rfl) answer index
  | calls found => exact allowed.calledBack live owned found

theorem AccessesAllowed.run {start : NfsSystem} (initial : start.Initial) {events : List NfsEvent}
    (run : Run Step start events system) : system.AccessesAllowed := by
  have invariant := run.invariant (fun state =>
      state.AccessesAllowed ∧ (state.failure = none → ∃ free, state.Owned free))
    ⟨accessesAllowed_of_initial initial, fun _ => ⟨_, owned_of_initial initial⟩⟩ ?_
  · exact invariant.1
  · rintro state event next ⟨allowed, owned⟩ step
    obtain ⟨free, owned⟩ := owned (live_of_step step)
    refine ⟨allowed.step owned step, fun live => ?_⟩
    exact (owned.step ⟨step, live⟩).owned owned

end NfsSystem

end LionsOS.Nfs

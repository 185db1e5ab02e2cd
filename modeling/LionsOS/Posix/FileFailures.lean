/-
This file is about reading and writing when the file server fails, or a command cannot
be issued, in some round of the loop. Where that is the first round, nothing was moved
and the call returns an error. Where it is a later one, the call returns an error too
and leaves the position where it was, though the rounds before it have moved a part of
the file.
-/

import LionsOS.Posix.FileRanges
import LionsOS.Posix.FileTables

namespace LionsOS.Posix

open Direction FileClient List

open Fs (FsBuffer fsStatusSuccess)

/-! ### Scripts -/

/-- What comes of the commands, one after the other: the completion and what the server leaves in the
share, or nothing for a command that cannot be issued. -/
structure Script where
  answers : Nat → Option (Completion × (Nat → UInt8T))
  behindErrnos : UInt64T → UInt64T
  protocol : ∀ n completion left, answers n = some (completion, left) →
    completion.status.toNat < fsStatusNumStatuses

namespace Script

/-- A server that goes by the script. It counts the commands. -/
def env (script : Script) : FileEnv Nat where
  available n := (script.answers n).isSome
  answer _ share n :=
    match script.answers n with
    | some (completion, left) => { completion, share := left, server := n + 1 }
    | none => { completion := { status := Fs.fsStatusError, data := 0 }, share, server := n }
  behindErrnos := script.behindErrnos
  protocol command share n := by
    cases answered : script.answers n with
    | none => exact of_decide_eq_true rfl
    | some answer => exact script.protocol n answer.1 answer.2 answered

/-- The command cannot be issued, or the server fails. -/
def Fails (script : Script) (n : Nat) : Prop :=
  ∀ completion left, script.answers n = some (completion, left) →
    completion.status ≠ fsStatusSuccess

/-- The server moves so many bytes. -/
def MovesBytes (script : Script) (n count : Nat) : Prop :=
  ∃ data left, script.answers n = some (⟨fsStatusSuccess, data⟩, left) ∧ data.toNat = count

/-- In no round is more moved than there should be, nor beyond the last position of a file. -/
def Bounded (script : Script) (first position len : Nat) : Prop :=
  ∀ k count, k * Fs.fsBufferSize < len → script.MovesBytes (first + k) count →
    count ≤ roundSize (len - k * Fs.fsBufferSize) ∧ position + k * Fs.fsBufferSize + count ≤ offTMax

/-- No round but the first fails, where all before it have moved a whole buffer and there is more to
move. -/
def NoLateFailure (script : Script) (first len : Nat) : Prop :=
  ∀ k, k ≠ 0 → k * Fs.fsBufferSize < len →
    (∀ j < k, script.MovesBytes (first + j) Fs.fsBufferSize) → ¬ script.Fails (first + k)

variable {script : Script} {n count : Nat}

theorem MovesBytes.unique {other : Nat} (moves : script.MovesBytes n count)
    (movesOther : script.MovesBytes n other) : count = other := by
  obtain ⟨data, left, answered, rfl⟩ := moves
  obtain ⟨data', left', answered', rfl⟩ := movesOther
  cases answered.symm.trans answered'
  rfl

theorem not_fails_of_moves (moves : script.MovesBytes n count) : ¬ script.Fails n := by
  obtain ⟨data, left, answered, _⟩ := moves
  exact fun fails => fails _ _ answered rfl

end Script

/-! ### Rounds that may fail -/

/-- How much the commands have moved that succeeded. -/
def bytesMoved (exchanges : List Exchange) : Nat :=
  (exchanges.map fun exchange =>
    if exchange.completion.status = fsStatusSuccess then exchange.completion.data.toNat else 0).sum

/-- The result of a call and the position of its descriptor agree with what has happened: it is an
error only if no command has moved anything, and then the position stays; otherwise it is how much
was moved, and the position moves as far. -/
structure Agrees {Server : Type} {maxFds : Nat} (entry : Fin maxFds)
    (client next : FileClient Server maxFds) (exchanges : List Exchange) (result : Int) : Prop where
  failed : result < 0 → (∀ exchange ∈ exchanges, exchange.completion.status ≠ fsStatusSuccess) ∧
    (next.fds.fdTable entry).filePtr = (client.fds.fdTable entry).filePtr
  moved : 0 ≤ result → result = bytesMoved exchanges ∧
    (next.fds.fdTable entry).filePtr = (client.fds.fdTable entry).filePtr + bytesMoved exchanges

section Failures

variable {maxFds : Nat} {script : Script} {entry : Fin maxFds} {buf len i : Nat}
  {start client next : FileClient (Nat × List Exchange) maxFds} {direction : Direction}
  {Server : Type} {result : Int}

variable {rounds : List Round}

theorem bytesMoved_append (earlier later : List Exchange) :
    bytesMoved (earlier ++ later) = bytesMoved earlier + bytesMoved later := by
  unfold bytesMoved
  rw [map_append, sum_append]

/-- What a round does, by what the server answers to its command. -/
theorem chunk_cases (env : FileEnv Server) (direction : Direction)
    (client : FileClient Server maxFds) (entry : Fin maxFds) (buffer : Nat)
    (completion : Completion) (total : UInt64T) (buf size : Nat) :
    (env.available client.server = false ∧ ∃ next, SameTables client next ∧
      next.server = client.server ∧ direction.chunk env client entry buffer completion total buf size =
        .failed FileErrno.enomem.result next) ∨
    (env.available client.server = true ∧ ∃ share next, SameTables client next ∧
      let answered := env.answer (direction.command (client.serverFd entry)
        (client.filePtr entry + total) (bufferAt buffer size)) share client.server
      next.server = answered.server ∧
        direction.chunk env client entry buffer completion total buf size =
          if answered.completion.status ≠ fsStatusSuccess then
            .failed (env.statusLong answered.completion.status) next
          else .moved answered.completion.data next) := by
  cases available : env.available client.server with
  | false =>
    refine .inl ⟨rfl, ?_⟩
    cases direction with
    | read =>
      refine ⟨client, .refl _, rfl, ?_⟩
      dsimp only [chunk]
      unfold readChunk
      rw [fsCommandBlocking_of_unavailable available]
      rfl
    | write =>
      refine ⟨client.fillBuffer buffer size client.memory buf, ⟨rfl, rfl, rfl, rfl⟩, rfl, ?_⟩
      dsimp only [chunk]
      unfold writeChunk
      rw [fsCommandBlocking_of_unavailable (by exact available)]
      rfl
  | true =>
    refine .inr ⟨rfl, ?_⟩
    cases direction with
    | read =>
      refine ⟨client.buffers.share, ?_⟩
      dsimp only [chunk, command]
      unfold readChunk
      rw [fsCommandBlocking_of_available available]
      rw [if_neg Bool.false_ne_true]
      split_ifs
      all_goals
        refine ⟨_, ?_, ?_, rfl⟩
        · exact ⟨rfl, rfl, rfl, rfl⟩
        · rfl
    | write =>
      refine ⟨Bytes.copy client.buffers.share ⟨buffer, size⟩ client.memory buf, ?_⟩
      dsimp only [chunk, command]
      unfold writeChunk
      rw [fsCommandBlocking_of_available (by exact available)]
      dsimp only [fillBuffer]
      rw [if_neg Bool.false_ne_true]
      split_ifs
      all_goals
        refine ⟨_, ?_, ?_, rfl⟩
        · exact ⟨rfl, rfl, rfl, rfl⟩
        · rfl

/-- What stays true between two rounds: the commands so far have moved what the rounds have. -/
structure Following (script : Script) (entry : Fin maxFds)
    (start : FileClient (Nat × List Exchange) maxFds) (rounds : List Round)
    (client : FileClient (Nat × List Exchange) maxFds) : Prop where
  tables : SameTables start client
  command : client.server.1 = start.server.1 + rounds.length
  record : ∃ exchanges, client.server.2 = start.server.2 ++ exchanges ∧
    bytesMoved exchanges = movedBy rounds ∧ exchanges.length = rounds.length ∧
      ∀ exchange ∈ exchanges, exchange.completion.status = fsStatusSuccess
  answers : ∀ j round, rounds[j]? = some round →
    script.MovesBytes (start.server.1 + j) round.count
  small : (start.fds.fdTable entry).filePtr + movedBy rounds ≤ offTMax

/-- The command after these rounds fails, and each of them has moved a whole buffer. -/
structure FailsAfter (script : Script) (len : Nat) (start : FileClient (Nat × List Exchange) maxFds)
    (rounds : List Round) (result : Int) (client : FileClient (Nat × List Exchange) maxFds) :
    Prop where
  tables : SameTables start client
  negative : result < 0
  fails : script.Fails (start.server.1 + rounds.length)
  record : ∃ exchanges, client.server.2 = start.server.2 ++ exchanges ∧
    ((∀ exchange ∈ exchanges, exchange.completion.status ≠ fsStatusSuccess) ↔ rounds = [])
  more : rounds.length * Fs.fsBufferSize < len
  before : ∀ j < rounds.length, script.MovesBytes (start.server.1 + j) Fs.fsBufferSize

theorem movedBy_of_whole (whole : ∀ round ∈ rounds, round.count = Fs.fsBufferSize) :
    movedBy rounds = rounds.length * Fs.fsBufferSize := by
  unfold movedBy
  rw [map_congr_left whole, map_const', sum_replicate_nat]

theorem Following.refl (position : (client.fds.fdTable entry).filePtr ≤ offTMax) :
    Following script entry client [] client :=
  ⟨.refl _, rfl, ⟨[], (append_nil _).symm, rfl, rfl, forall_mem_nil _⟩,
    fun _ _ none => (by simp at none), position⟩

theorem Following.failsAfter {exchanges : List Exchange}
    (following : Following script entry start rounds client)
    (whole : ∀ round ∈ rounds, round.count = Fs.fsBufferSize) (more : movedBy rounds < len)
    (tables : SameTables client next) (negative : result < 0)
    (fails : script.Fails (start.server.1 + rounds.length))
    (record : next.server.2 = client.server.2 ++ exchanges)
    (failed : ∀ exchange ∈ exchanges, exchange.completion.status ≠ fsStatusSuccess) :
    FailsAfter script len start rounds result next where
  tables := following.tables.trans tables
  negative := negative
  fails := fails
  record := by
    obtain ⟨earlier, same, _, length, succeeded⟩ := following.record
    refine ⟨earlier ++ exchanges, by rw [record, same, append_assoc], ?_⟩
    rw [forall_mem_append, and_iff_left failed]
    constructor
    · intro none
      rw [← length_eq_zero_iff, ← length, length_eq_zero_iff]
      exact eq_nil_iff_forall_not_mem.mpr fun exchange member =>
        none exchange member (succeeded exchange member)
    · rintro rfl
      rw [length_eq_zero_iff.mp length]
      exact forall_mem_nil _
  more := movedBy_of_whole whole ▸ more
  before := by
    intro j inside
    have moves := following.answers j _ (getElem?_eq_getElem inside)
    rwa [whole _ (getElem_mem inside)] at moves

/-- A round goes by the script. -/
theorem scripted_step (start : FileClient (Nat × List Exchange) maxFds) (direction : Direction)
    (buf i : Nat) (bounded : script.Bounded start.server.1 (start.fds.fdTable entry).filePtr len) :
    FileClient.RoundStep
      (fun client => direction.chunk script.env.recording client entry (i * Fs.fsBufferSize))
      (Following script entry start) (FailsAfter script len start) buf len := by
  intro earlier client completion following whole more
  have command := following.command
  rcases chunk_cases script.env.recording direction client entry (i * Fs.fsBufferSize) completion
    (BitVec.ofNat 64 (movedBy earlier)) (buf + movedBy earlier)
    (roundSize (len - movedBy earlier)) with
    ⟨refused, next, tables, server, chunk⟩ | ⟨available, share, next, tables, server, chunk⟩
  · dsimp only
    rw [chunk]
    have none : script.answers client.server.1 = none := Option.not_isSome_iff_eq_none.mp
      (Bool.eq_false_iff.mp refused)
    have record : next.server.2 = client.server.2 ++ [] := by rw [server, append_nil]
    refine following.failsAfter whole more tables FileErrno.enomem.result_neg ?_ record
      (forall_mem_nil _)
    rw [← command]
    intro completion left answered
    cases none.symm.trans answered
  · obtain ⟨⟨answer, left⟩, answered⟩ := Option.isSome_iff_exists.mp available
    have answer_eq (command share) : script.env.recording.answer command share client.server =
        { completion := answer, share := left
          server := (client.server.1 + 1, client.server.2 ++ [⟨command, answer⟩]) } := by
      dsimp only [FileEnv.recording, Script.env]
      rw [answered]
    rw [answer_eq] at server chunk
    rw [command] at answered
    dsimp only at chunk ⊢
    rw [chunk]
    by_cases failed : answer.status ≠ fsStatusSuccess
    · rw [if_pos failed]
      refine following.failsAfter whole more tables
        (FileEnv.statusLong_neg (script.protocol _ _ _ answered) failed) ?_
        (congrArg Prod.snd server) (forall_mem_singleton.mpr failed)
      intro completion left' answered'
      cases answered.symm.trans answered'
      exact failed
    · rw [if_neg failed]
      have success := not_not.mp failed
      have moves : script.MovesBytes (start.server.1 + earlier.length) answer.data.toNat := by
        refine ⟨answer.data, left, ?_, rfl⟩
        rw [answered, ← success]
      obtain ⟨atMost, small⟩ := bounded _ _ (movedBy_of_whole whole ▸ more) moves
      rw [← movedBy_of_whole whole] at atMost small
      refine ⟨atMost, following.tables.trans tables, ?_, ?_, ?_, ?_⟩
      · rw [congrArg Prod.fst server, command, length_append, length_singleton, Nat.add_assoc]
      · obtain ⟨exchanges, same, sum, length, succeeded⟩ := following.record
        refine ⟨_, (congrArg Prod.snd server).trans ((congrArg (· ++ _) same).trans
          (append_assoc ..)), ?_, ?_, ?_⟩
        · rw [bytesMoved_append, movedBy_snoc, sum]
          unfold bytesMoved
          rw [map_singleton, sum_singleton, if_pos success]
        · rw [length_append, length_append, length]
          rfl
        · exact forall_mem_append.mpr ⟨succeeded, forall_mem_singleton.mpr success⟩
      · intro j round found
        rcases Nat.lt_or_ge j earlier.length with inside | behind
        · rw [getElem?_append_left inside] at found
          exact following.answers j round found
        · rw [getElem?_append_right behind, getElem?_singleton] at found
          obtain ⟨first, same⟩ := Option.ite_none_right_eq_some.mp found
          cases same
          rwa [show j = earlier.length by omega]
      · rw [movedBy_snoc, ← Nat.add_assoc]
        exact small

theorem Rounds.lt_length {first left k : Nat} (valid : Rounds first left rounds)
    (more : k * Fs.fsBufferSize < left)
    (whole : ∀ j < k, ∀ round, rounds[j]? = some round → round.count = Fs.fsBufferSize) :
    k < rounds.length := by
  induction valid generalizing k with
  | done => exact absurd more (Nat.not_lt_zero _)
  | @short first left count less =>
    cases k with
    | zero => exact Nat.one_pos
    | succ k =>
      have full : count = Fs.fsBufferSize := whole 0 (Nat.succ_pos k) _ rfl
      exact absurd (full ▸ less) (Nat.not_lt.mpr (roundSize_le_fsBufferSize left))
  | @full first left rest _ _ inductionHypothesis =>
    cases k with
    | zero => exact Nat.succ_pos _
    | succ k =>
      have size : roundSize left = Fs.fsBufferSize := by
        rw [Nat.succ_mul] at more
        unfold roundSize
        omega
      refine Nat.succ_lt_succ (inductionHypothesis ?_ fun j inside round found => ?_)
      · rw [Nat.succ_mul] at more
        omega
      · exact whole (j + 1) (Nat.succ_lt_succ inside) round found

theorem Following.noLateFailure (valid : Rounds 0 len rounds)
    (following : Following script entry start rounds client) :
    script.NoLateFailure start.server.1 len := by
  intro k _ more whole fails
  have another : k < rounds.length := by
    refine valid.lt_length more fun j inside round found => ?_
    exact (following.answers j round found).unique (whole j inside)
  exact Script.not_fails_of_moves (following.answers k _ (getElem?_eq_getElem another)) fails

/-- A late failure hides what was moved before it, and one of the first round does not. -/
theorem FailsAfter.agrees_iff (entry : Fin maxFds)
    (failed : FailsAfter script len start rounds result client) :
    ∃ exchanges, client.server.2 = start.server.2 ++ exchanges ∧
      (Agrees entry start client exchanges result ↔ script.NoLateFailure start.server.1 len) := by
  obtain ⟨exchanges, record, nothing_iff⟩ := failed.record
  refine ⟨exchanges, record, fun agrees => ?_, fun noLateFailure => ?_⟩
  · have none := nothing_iff.mp (agrees.failed failed.negative).1
    have first := none ▸ failed.fails
    intro k ne _ whole _
    exact Script.not_fails_of_moves (whole 0 (Nat.pos_of_ne_zero ne)) first
  · have none : rounds = [] := by
      by_contra some_round
      exact noLateFailure rounds.length (length_pos_iff.mpr some_round).ne' failed.more
        failed.before failed.fails
    refine ⟨fun _ => ⟨nothing_iff.mpr none, by rw [failed.tables.fds]⟩, fun positive => ?_⟩
    exact absurd positive (Int.not_le.mpr failed.negative)

/-- How a call comes to its end, for an invariant of its rounds: a round fails, or the loop is
through. -/
theorem call_cases {env : FileEnv Server} {client : FileClient Server maxFds}
    {Inv : FileClient Server maxFds → List Round → FileClient Server maxFds → Prop}
    {Failed : FileClient Server maxFds → List Round → Int → FileClient Server maxFds → Prop}
    (direction : Direction) (locals : Locals) {fd : Int}
    (found : client.fds.posixFdEntry fd = some entry) (notNull : buf ≠ 0) (notEmpty : len ≠ 0)
    (room : client.fsBufferAllocate.isSome)
    (step : ∀ i, FileClient.RoundStep
      (fun client => direction.chunk env client entry (i * Fs.fsBufferSize))
      (Inv (client.holding i)) (Failed (client.holding i)) buf len)
    (initial : ∀ i, Inv (client.holding i) [] (client.holding i))
    (going : ∀ start rounds next, Inv start rounds next → SameTables start next ∧
      (start.fds.fdTable entry).filePtr + movedBy rounds ≤ offTMax)
    (failing : ∀ start rounds result next, Failed start rounds result next → SameTables start next) :
    ∃ i, client.buffers.used i = false ∧
      ((∃ rounds result next, Failed (client.holding i) rounds result next ∧
        direction.call env client locals buf len fd = some (result, next.freed i)) ∨
      ∃ rounds next, Rounds 0 len rounds ∧ Inv (client.holding i) rounds next ∧
        direction.call env client locals buf len fd =
          some ((movedBy rounds : Int), { next.freed i with
            fds := next.fds.setEntry entry { next.fds.fdTable entry with
              filePtr := (next.fds.fdTable entry).filePtr + movedBy rounds } })) := by
  obtain ⟨i, small, unused, called⟩ := fileTransfer_eq (direction.chunk env)
    locals.rounds notNull notEmpty found room
  have ended := chunkLoop_end (step i) (initial i) (Nat.zero_le len)
    (fun _ => forall_mem_nil _) locals.rounds
  obtain ⟨transfer, looped⟩ : ∃ transfer, chunkLoop (fun client =>
      direction.chunk env client entry (i * Fs.fsBufferSize)) locals.rounds 0 buf len
        (client.holding i) = transfer := ⟨_, rfl⟩
  rw [movedBy_nil, Nat.sub_zero, Nat.add_zero, show (BitVec.ofNat 64 0) = 0 from rfl, looped]
    at ended
  have called := called _ looped
  rw [← call_eq] at called
  refine ⟨i, unused, ?_⟩
  cases transfer with
  | failed result next =>
    obtain ⟨rounds, failed⟩ := ended
    have used := congrFun (failing _ _ _ _ failed).used i
    exact .inl ⟨rounds, result, next, failed, called (used.trans (Function.update_self _ _ _))⟩
  | moved total next =>
    obtain ⟨rounds, valid, sum, inv⟩ := ended
    obtain ⟨tables, small⟩ := going _ _ _ inv
    rw [← tables.fds] at small
    have used := congrFun tables.used i
    have called := called (used.trans (Function.update_self _ _ _))
    rw [sum, outcomeOf_moved small] at called
    exact .inr ⟨rounds, next, valid, inv, called⟩

/-- How a call comes to its end by a script. -/
theorem scripted_call_cases (direction : Direction) (locals : Locals) {fd : Int}
    (found : client.fds.posixFdEntry fd = some entry) (notNull : buf ≠ 0)
    (room : client.fsBufferAllocate.isSome)
    (position : (client.fds.fdTable entry).filePtr ≤ offTMax)
    (bounded : script.Bounded client.server.1 (client.fds.fdTable entry).filePtr len) :
    (∃ rounds result next, FailsAfter script len client rounds result next ∧
      direction.call script.env.recording client locals buf len fd = some (result, next)) ∨
    ∃ rounds next, Rounds 0 len rounds ∧ Following script entry client rounds next ∧
      direction.call script.env.recording client locals buf len fd =
        some ((movedBy rounds : Int), { next with
          fds := next.fds.setEntry entry { next.fds.fdTable entry with
            filePtr := (next.fds.fdTable entry).filePtr + movedBy rounds } }) := by
  by_cases none : len = 0
  · refine .inr ⟨[], client, by rw [none]; exact .done, Following.refl position, ?_⟩
    rw [call_eq, fileTransfer, if_pos none]
    dsimp only [movedBy_nil, FdTable.setEntry]
    rw [Nat.add_zero, Function.update_eq_self]
    rfl
  · obtain ⟨i, unused, ended⟩ := call_cases direction locals found notNull none room
      (fun i => scripted_step (client.holding i) direction buf i bounded)
      (fun i => Following.refl position)
      (fun _ _ _ following => ⟨following.tables, following.small⟩)
      fun _ _ _ _ failed => failed.tables
    rcases ended with
      ⟨rounds, result, next, failed, called⟩ | ⟨rounds, next, valid, following, called⟩
    · exact .inl ⟨rounds, result, next.freed i,
        { failed with tables := failed.tables.freed unused }, called⟩
    · exact .inr ⟨rounds, next.freed i, valid,
        { following with tables := following.tables.freed unused }, called⟩

/-- What a call returns and where it leaves the position agree with what was moved, exactly if the
server does not fail, and no command cannot be issued, in a round behind the first. -/
theorem transfer_agrees_iff_noLateFailure (direction : Direction) (locals : Locals) {fd : Int}
    (found : client.fds.posixFdEntry fd = some entry) (notNull : buf ≠ 0)
    (room : client.fsBufferAllocate.isSome)
    (position : (client.fds.fdTable entry).filePtr ≤ offTMax)
    (bounded : script.Bounded client.server.1 (client.fds.fdTable entry).filePtr len) :
    ∃ result next exchanges,
      direction.call script.env.recording client locals buf len fd = some (result, next) ∧
      next.server.2 = client.server.2 ++ exchanges ∧
      (Agrees entry client next exchanges result ↔ script.NoLateFailure client.server.1 len) := by
  rcases scripted_call_cases direction locals found notNull room position bounded with
    ⟨rounds, result, next, failed, called⟩ | ⟨rounds, next, valid, following, called⟩
  · obtain ⟨exchanges, record, agrees_iff⟩ := failed.agrees_iff entry
    exact ⟨result, next, exchanges, called, record, agrees_iff⟩
  · obtain ⟨exchanges, record, bytes, _⟩ := following.record
    refine ⟨_, _, exchanges, called, record, iff_of_true ⟨fun negative => ?_, fun _ => ?_⟩
      (following.noLateFailure valid)⟩
    · exact absurd negative (Int.not_lt.mpr (Int.natCast_nonneg _))
    · refine ⟨congrArg Int.ofNat bytes.symm, ?_⟩
      rw [bytes, ← following.tables.fds, FdTable.fdTable_setEntry_self]

end Failures

/-! ### A failure of the second round -/

/-- A whole buffer is moved, and then the server denies everything. -/
def lateFailure : Script where
  answers n := some (if n = 0 then ⟨fsStatusSuccess, BitVec.ofNat 64 Fs.fsBufferSize⟩ else ⟨9, 0⟩,
    fun _ => 0)
  behindErrnos _ := 0
  protocol n completion left answered := by
    cases answered
    split_ifs <;> exact of_decide_eq_true rfl

theorem lateFailure_movesBytes {n count : Nat} (moves : lateFailure.MovesBytes n count) :
    n = 0 ∧ count = Fs.fsBufferSize := by
  obtain ⟨data, left, answered, rfl⟩ := moves
  have same := congrArg Prod.fst (Option.some.inj answered)
  split_ifs at same with first
  · exact ⟨first, (congrArg (fun completion => completion.data.toNat) same).symm⟩
  · have status : (9 : UInt64T) = fsStatusSuccess := congrArg Completion.status same
    exact absurd status (by decide)

/-- A client of the server, with a file open. -/
def scriptedClient : FileClient (Nat × List Exchange) 128 :=
  openedFile (0, [])

theorem lateFailure_bounded : lateFailure.Bounded scriptedClient.server.1
    (scriptedClient.fds.fdTable 3).filePtr 65536 := by
  intro k count _ moves
  obtain ⟨first, rfl⟩ := lateFailure_movesBytes moves
  have first : k = 0 := (Nat.zero_add k).symm.trans first
  rw [first]
  decide

/-- Two buffers should be read. -/
theorem lateFailure_read : ∃ result next exchanges,
    call .read lateFailure.env.recording scriptedClient zeroedLocals 1 65536 3 =
      some (result, next) ∧ next.server.2 = scriptedClient.server.2 ++ exchanges ∧
      (Agrees 3 scriptedClient next exchanges result ↔
        lateFailure.NoLateFailure scriptedClient.server.1 65536) :=
  transfer_agrees_iff_noLateFailure .read zeroedLocals rfl Nat.one_ne_zero
    (fsBufferAllocate_isSome (show 0 < Fs.numBuffers by decide) rfl) (Nat.zero_le _)
    lateFailure_bounded

/-- Two buffers should be written. The first is, and the call returns an error and leaves the
position. -/
theorem written_before_failure : ∃ result next exchanges,
    call .write lateFailure.env.recording scriptedClient zeroedLocals 1 65536 3 =
      some (result, next) ∧ next.server.2 = exchanges ∧
      ¬ Agrees 3 scriptedClient next exchanges result := by
  have late : ¬ lateFailure.NoLateFailure scriptedClient.server.1 65536 := by
    intro none
    refine none 1 Nat.one_ne_zero (by decide) (fun j first => ?_) fun completion left answered => ?_
    · rw [Nat.lt_one_iff.mp first]
      exact ⟨_, _, rfl, rfl⟩
    · cases answered
      decide
  have found : scriptedClient.fds.posixFdEntry 3 = some 3 := rfl
  rcases scripted_call_cases .write zeroedLocals found Nat.one_ne_zero
    (fsBufferAllocate_isSome (show 0 < Fs.numBuffers by decide) rfl) (Nat.zero_le _)
    lateFailure_bounded with
    ⟨rounds, result, next, failed, called⟩ | ⟨rounds, next, valid, following, _⟩
  · obtain ⟨exchanges, record, agrees_iff⟩ := failed.agrees_iff 3
    exact ⟨result, next, exchanges, called, record, fun agrees => late (agrees_iff.mp agrees)⟩
  · exact (late (following.noLateFailure valid)).elim

end LionsOS.Posix

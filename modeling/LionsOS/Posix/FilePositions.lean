/-
This file is about the positions of files, through any calls of `lseek`, `read` and
`write`. Each way to seek computes the exact sum of its two parts and checks it against
the largest position; the one from the end of the file does not check that the sum is
not negative. As long as that is not needed, no position gets negative, and what `lseek`
returns is exact.
-/

import LionsOS.Posix.FileFailures

open Function

namespace LionsOS.Posix

open StepRun FileErrno
open Fs (FsBuffer fsStatusSuccess)
open FileClient (longMax seekSet seekCur seekEnd)

/-! ### Signed words -/

theorem toInt_cases (word : UInt64T) :
    (word.toNat ≤ offTMax ∧ word.toInt = word.toNat) ∨
      (offTMax < word.toNat ∧ word.toInt = (word.toNat : Int) - 2 ^ 64) := by
  unfold offTMax
  rw [BitVec.toInt_eq_toNat_cond]
  split_ifs <;> omega

theorem toInt_nonneg_iff (word : UInt64T) : 0 ≤ word.toInt ↔ word.toNat ≤ offTMax := by
  rcases toInt_cases word with ⟨small, value⟩ | ⟨large, value⟩ <;> omega

theorem toInt_of_nonneg {word : UInt64T} (nonneg : 0 ≤ word.toInt) : word.toInt = word.toNat := by
  rcases toInt_cases word with ⟨_, value⟩ | ⟨_, value⟩ <;> omega

theorem toInt_longMax_sub (word : UInt64T) :
    (longMax - word).toInt = (offTMax : Int) - word.toNat := by
  have largest : longMax.toNat = 2 ^ 63 - 1 := rfl
  rw [BitVec.toInt_eq_toNat_cond, BitVec.toNat_sub, offTMax]
  split_ifs <;> omega

theorem toInt_add_of_le (word offset : UInt64T)
    (upper : (word.toNat : Int) + offset.toInt ≤ offTMax) :
    (word + offset).toInt = (word.toNat : Int) + offset.toInt := by
  have sum := toInt_cases (word + offset)
  rw [BitVec.toNat_add] at sum
  rcases toInt_cases offset with ⟨small, value⟩ | ⟨large, value⟩
  all_goals
    unfold offTMax at *
    omega

theorem longMax_sub_slt_iff (word offset : UInt64T) :
    (longMax - word).slt offset = true ↔ (offTMax : Int) < (word.toNat : Int) + offset.toInt := by
  rw [BitVec.slt_iff_toInt_lt, toInt_longMax_sub]
  omega

theorem negative_sum_iff (word offset : UInt64T) (small : word.toNat ≤ offTMax) :
    (offset.slt 0 = true ∧ word < -offset) ↔ (word.toNat : Int) + offset.toInt < 0 := by
  have zero : (0 : UInt64T).toInt = 0 := rfl
  rw [BitVec.slt_iff_toInt_lt, BitVec.lt_def, BitVec.toNat_neg]
  rcases toInt_cases offset with ⟨low, value⟩ | ⟨high, value⟩
  all_goals
    omega

/-! ### Positions -/

section Positions

variable {Server : Type} {maxFds : Nat} {error : Int}

variable {target : Option Int} {direction : Direction}

/-- No position is negative. -/
def FileClient.NonNegative (client : FileClient Server maxFds) : Prop :=
  ∀ fd, (client.fds.fdTable fd).filePtr ≤ offTMax

open FileClient

/-- The size of a file, as the server reports it. -/
def FileClient.reportedSize (env : FileEnv Server) (client : FileClient Server maxFds)
    (entry : Fin maxFds) : Option Nat :=
  let answered := env.answer (.fileSize (client.serverFd entry)) client.buffers.share client.server
  if env.available client.server ∧ answered.completion.status = fsStatusSuccess then
    some answered.completion.data.toNat
  else none

/-- The position that is asked for, as a number, if there is one. -/
def FileClient.seekTarget (env : FileEnv Server) (client : FileClient Server maxFds)
    (entry : Fin maxFds) (offset : UInt64T) (whence : Int) : Option Int :=
  if whence = seekSet then some offset.toInt
  else if whence = seekCur then some ((client.fds.fdTable entry).filePtr + offset.toInt)
  else if whence = seekEnd then
    (client.reportedSize env entry).map fun size : Nat => size + offset.toInt
  else none

/-- A call of `lseek` goes to the position that is asked for, and says so, if that is a position of
a file; otherwise it says what is wrong with it and changes no position. -/
structure SeekExact (entry : Fin maxFds) (target : Option Int)
    (client next : FileClient Server maxFds) (result : Int) : Prop where
  failed : result < 0 → next.fds = client.fds
  moved : 0 ≤ result → target = some result ∧
    next.fds = client.fds.setEntry entry { client.fds.fdTable entry with filePtr := result.toNat }
  negative : ∀ position, target = some position → position < 0 →
    result = einval.result
  above : ∀ position, target = some position → offTMax < position →
    result = eoverflow.result

/-- A read or a write reports at most as much as it was asked for, and nothing beyond the last
position of a file. -/
def CountsWithin (env : FileEnv Server) : Prop :=
  ∀ (direction : Direction) (fd offset : UInt64T) (buf : FsBuffer) (share : Nat → UInt8T)
    (server : Server), offset.toNat ≤ offTMax →
      let answered := env.answer (direction.command fd offset buf) share server
      answered.completion.status = fsStatusSuccess →
        answered.completion.data.toNat ≤ buf.size.toNat ∧
          offset.toNat + answered.completion.data.toNat ≤ offTMax

/-- A call of a program, with what its local variables hold at first. -/
structure Call where
  call : FileCall
  locals : Locals

/-- What the calls do that move positions. -/
def PositionStep (env : FileEnv Server) (client : FileClient Server maxFds) (call : Call)
    (next : FileClient Server maxFds) : Prop :=
  (match call.call with
    | .lseek .. | .read .. | .write .. => True
    | _ => False) ∧
  ∃ result, client.perform env call.locals call.call = some (result, next)

/-- No position is negative after a call, and one of `lseek` is exact. -/
structure Positioned (env : FileEnv Server) (client : FileClient Server maxFds) (call : FileCall)
    (next : FileClient Server maxFds) (result : Int) : Prop where
  nonNegative : next.NonNegative
  seek : ∀ fd offset whence, call = .lseek fd offset whence →
    (result < 0 → next.fds = client.fds) ∧
      ∀ entry, client.fds.posixFdEntry fd = some entry →
        SeekExact entry (client.seekTarget env entry offset whence) client next result

/-- The calls that move positions, as far as what they come to is exact. -/
def ExactStep (env : FileEnv Server) (client : FileClient Server maxFds) (call : Call)
    (next : FileClient Server maxFds) : Prop :=
  PositionStep env client call next ∧ ∀ result,
    client.perform env call.locals call.call = some (result, next) →
      Positioned env client call.call next result

/-- No position before the beginning of a file is sought from its end. -/
def InsideFile (env : FileEnv Server) (client : FileClient Server maxFds) (call : Call) : Prop :=
  ∀ fd offset entry size, call.call = .lseek fd offset seekEnd →
    client.fds.posixFdEntry fd = some entry → client.reportedSize env entry = some size →
      0 ≤ (size : Int) + offset.toInt

theorem initial_nonNegative (memory : Nat → UInt8T) (server : Server) :
    (initial memory server : FileClient Server maxFds).NonNegative := by
  intro fd
  dsimp only [initial, FdTable.initial]
  split_ifs <;> exact Nat.zero_le _

variable {env : FileEnv Server} {client next : FileClient Server maxFds} {entry : Fin maxFds}
  {offset : UInt64T} {whence result : Int} {locals : Locals} {fd : Int} {buf len : Nat}

/-! ### Seeking -/

theorem SeekExact.of_failed (same : next.fds = client.fds) (failed : error < 0)
    (negative : ∀ position, target = some position → position < 0 → error = einval.result)
    (above : ∀ position, target = some position → offTMax < position → error = eoverflow.result) :
    SeekExact entry target client next error where
  failed _ := same
  moved positive := absurd positive (Int.not_le.mpr failed)
  negative := negative
  above := above

theorem SeekExact.of_none (none : target = none) (same : next.fds = client.fds) (failed : error < 0) :
    SeekExact entry target client next error := by
  subst none
  exact .of_failed same failed (fun _ none => (by cases none)) fun _ none => (by cases none)

theorem SeekExact.of_negative {target : Int} (negative : target < 0) :
    SeekExact entry (some target) client client einval.result := by
  refine .of_failed rfl einval.result_neg (fun _ _ _ => rfl) fun _ asked above => ?_
  cases asked
  exact absurd negative (by omega)

theorem SeekExact.of_above {target : Int} (same : next.fds = client.fds)
    (above : offTMax < target) :
    SeekExact entry (some target) client next eoverflow.result := by
  refine .of_failed same eoverflow.result_neg (fun position asked negative => ?_) fun _ _ _ => rfl
  cases asked
  exact absurd above (by omega)

theorem SeekExact.moveTo {newFp : UInt64T} (nonneg : 0 ≤ newFp.toInt)
    (same : next.fds = client.fds) :
    SeekExact entry (some newFp.toInt) client (next.moveTo entry newFp).2 newFp.toInt where
  failed negative := absurd nonneg (Int.not_le.mpr negative)
  moved _ := by
    refine ⟨rfl, ?_⟩
    dsimp only [FileClient.moveTo, FileClient.setFilePtr]
    rw [same, toInt_of_nonneg nonneg, Int.toNat_natCast]
  negative position asked below := by
    cases asked
    exact absurd nonneg (Int.not_le.mpr below)
  above position asked beyond := by
    cases asked
    have small := (toInt_nonneg_iff newFp).mp nonneg
    have value := toInt_of_nonneg nonneg
    omega

/-- The descriptors of the table are not those of `/etc`. -/
theorem entry_not_etc (found : client.fds.posixFdEntry fd = some entry) :
    ¬ (fd = servicesFd maxFds ∨ fd = etcFd maxFds) := by
  rw [← (FdTable.posixFdEntry_eq_some found).1]
  unfold etcFd servicesFd
  omega

/-- Seeking from the end comes to this when the server reports a size. -/
theorem seekEnd_reported (locals : Locals) (offset : UInt64T)
    (found : client.fds.posixFdEntry fd = some entry) {size : Nat}
    (reported : client.reportedSize env entry = some size) :
    ∃ sizeWord : UInt64T, sizeWord.toNat = size ∧ ∃ answered, answered.fds = client.fds ∧
      client.sysLseek env locals fd offset seekEnd =
        if (longMax - sizeWord).slt offset then (eoverflow.result, answered)
        else answered.moveTo entry (sizeWord + offset) := by
  obtain ⟨⟨available, success⟩, same⟩ := Option.ite_none_right_eq_some.mp reported
  refine ⟨_, Option.some.inj same, { client with
    buffers := { client.buffers with
      share := (env.answer (.fileSize (client.serverFd entry)) client.buffers.share
        client.server).share }
    server := (env.answer (.fileSize (client.serverFd entry)) client.buffers.share
      client.server).server }, rfl, ?_⟩
  unfold sysLseek
  rw [if_neg (entry_not_etc found), found]
  dsimp only
  rw [if_neg (by decide), if_neg (by decide), if_pos rfl, fsCommandBlocking_of_available available]
  rw [if_neg Bool.false_ne_true, if_neg (not_not.mpr success)]

/-- Seeking from the end fails when the server reports no size. -/
theorem seekEnd_unreported (locals : Locals) (offset : UInt64T)
    (found : client.fds.posixFdEntry fd = some entry)
    (unreported : client.reportedSize env entry = none) :
    (client.sysLseek env locals fd offset seekEnd).1 < 0 ∧
      (client.sysLseek env locals fd offset seekEnd).2.fds = client.fds := by
  have refused := fun reported => Option.some_ne_none _ (ite_eq_right_iff.mp unreported reported)
  unfold sysLseek
  rw [if_neg (entry_not_etc found), found]
  dsimp only
  cases available : env.available client.server with
  | false =>
    rw [fsCommandBlocking_of_unavailable available]
    exact ⟨enomem.result_neg, rfl⟩
  | true =>
    rw [fsCommandBlocking_of_available available]
    have failed := fun success => refused ⟨available, success⟩
    rw [if_pos failed]
    exact ⟨FileEnv.statusLong_neg (env.protocol _ _ _) failed, rfl⟩

section

variable (found : client.fds.posixFdEntry fd = some entry)
include found

theorem seekSet_exact (called : client.sysLseek env locals fd offset seekSet = (result, next)) :
    SeekExact entry (some offset.toInt) client next result := by
  unfold sysLseek at called
  rw [if_neg (entry_not_etc found), found] at called
  dsimp only at called
  rw [if_pos rfl] at called
  split_ifs at called with negative
  all_goals
    rw [BitVec.slt_iff_toInt_lt] at negative
    cases called
  · exact .of_negative negative
  · exact .moveTo (Int.not_lt.mp negative) rfl

/-- Seeking from the position is exact. -/
theorem seekCur_exact (position : (client.fds.fdTable entry).filePtr ≤ offTMax)
    (called : client.sysLseek env locals fd offset seekCur = (result, next)) :
    SeekExact entry (some ((client.fds.fdTable entry).filePtr + offset.toInt)) client next
      result := by
  have value := filePtr_toNat position
  have small : (client.filePtr entry).toNat ≤ offTMax := value.trans_le position
  rw [← value]
  unfold sysLseek at called
  rw [if_neg (entry_not_etc found), found] at called
  dsimp only at called
  rw [if_neg (by decide), if_pos rfl] at called
  split_ifs at called with above negative
  · cases called
    exact .of_above rfl ((longMax_sub_slt_iff _ _).mp above)
  · cases called
    exact .of_negative ((negative_sum_iff _ _ small).mp negative)
  · cases called
    have upper := not_lt.mp (mt (longMax_sub_slt_iff _ _).mpr above)
    have nonneg := not_lt.mp (mt (negative_sum_iff _ _ small).mpr negative)
    rw [← toInt_add_of_le _ _ upper] at nonneg ⊢
    exact .moveTo nonneg rfl

/-- Seeking from the end is exact, unless a position before the beginning is sought; then the
position gets negative. -/
theorem seekEnd_cases (called : client.sysLseek env locals fd offset seekEnd = (result, next)) :
    (InsideFile env client ⟨.lseek fd offset seekEnd, locals⟩ ∧
      SeekExact entry ((client.reportedSize env entry).map fun size : Nat => size + offset.toInt)
        client next result) ∨
    ¬ InsideFile env client ⟨.lseek fd offset seekEnd, locals⟩ ∧
      offTMax < (next.fds.fdTable entry).filePtr := by
  cases reported : client.reportedSize env entry with
  | none =>
    obtain ⟨failed, same⟩ := seekEnd_unreported locals offset found reported
    rw [called] at failed same
    refine .inl ⟨?_, .of_none rfl same failed⟩
    intro fd' offset' entry' size sought found' reported'
    cases sought
    cases found.symm.trans found'
    cases reported.symm.trans reported'
  | some size =>
    obtain ⟨sizeWord, value, answered, same, sought⟩ :=
      seekEnd_reported locals offset found reported
    have inside_iff : InsideFile env client ⟨.lseek fd offset seekEnd, locals⟩ ↔
        0 ≤ (size : Int) + offset.toInt := by
      refine ⟨fun inside => inside _ _ _ _ rfl found reported, ?_⟩
      intro nonneg fd' offset' entry' size' sought found' reported'
      cases sought
      cases found.symm.trans found'
      cases reported.symm.trans reported'
      exact nonneg
    rw [inside_iff, Option.map_some]
    subst value
    rw [sought] at called
    split_ifs at called with above
    · cases called
      have beyond := (longMax_sub_slt_iff _ _).mp above
      exact .inl ⟨(Int.natCast_nonneg _).trans beyond.le, .of_above same beyond⟩
    · cases called
      have upper := not_lt.mp (mt (longMax_sub_slt_iff _ _).mpr above)
      rw [← toInt_add_of_le _ _ upper]
      by_cases nonneg : 0 ≤ (sizeWord + offset).toInt
      · exact .inl ⟨nonneg, .moveTo nonneg same⟩
      · refine .inr ⟨nonneg, ?_⟩
        rw [toInt_nonneg_iff] at nonneg
        dsimp only [setFilePtr]
        rw [FdTable.fdTable_setEntry_self]
        exact not_le.mp nonneg

/-- A position is exact unless one before the beginning of the file is sought from its end. -/
theorem sysLseek_cases (position : (client.fds.fdTable entry).filePtr ≤ offTMax)
    (called : client.sysLseek env locals fd offset whence = (result, next)) :
    (InsideFile env client ⟨.lseek fd offset whence, locals⟩ ∧
      SeekExact entry (client.seekTarget env entry offset whence) client next result) ∨
    ¬ InsideFile env client ⟨.lseek fd offset whence, locals⟩ ∧
      offTMax < (next.fds.fdTable entry).filePtr := by
  unfold seekTarget
  by_cases fromEnd : whence = seekEnd
  · subst fromEnd
    exact seekEnd_cases found called
  refine .inl ⟨?_, ?_⟩
  · intro fd' offset' entry' size sought
    cases sought
    exact (fromEnd rfl).elim
  by_cases fromStart : whence = seekSet
  · subst fromStart
    exact seekSet_exact found called
  by_cases fromHere : whence = seekCur
  · subst fromHere
    exact seekCur_exact found position called
  rw [if_neg fromStart, if_neg fromHere, if_neg fromEnd]
  unfold sysLseek at called
  rw [if_neg (entry_not_etc found), found] at called
  dsimp only at called
  rw [if_neg fromStart, if_neg fromHere, if_neg fromEnd] at called
  cases called
  exact .of_none rfl rfl einval.result_neg

end

/-! ### Reading and writing -/

/-- A round moves nothing beyond the last position of a file. -/
theorem within_step (within : CountsWithin env) (direction : Direction) (entry : Fin maxFds)
    (start : FileClient Server maxFds) (buffer buf len : Nat) :
    FileClient.RoundStep (fun client => direction.chunk env client entry buffer)
      (fun rounds client => SameTables start client ∧
        (start.fds.fdTable entry).filePtr + movedBy rounds ≤ offTMax)
      (fun _ _ client => SameTables start client) buf len := by
  rintro earlier client completion ⟨tables, small⟩ _ _
  rcases chunk_cases env direction client entry buffer completion
    (BitVec.ofNat 64 (movedBy earlier)) (buf + movedBy earlier)
    (roundSize (len - movedBy earlier)) with
    ⟨_, next, same, _, chunk⟩ | ⟨_, share, next, same, _, chunk⟩
  · dsimp only
    rw [chunk]
    exact tables.trans same
  · dsimp only at chunk ⊢
    rw [chunk]
    split_ifs with failed
    · exact tables.trans same
    · have offset : (client.filePtr entry + BitVec.ofNat 64 (movedBy earlier)).toNat =
          (start.fds.fdTable entry).filePtr + movedBy earlier := by
        unfold filePtr
        rw [tables.fds, ← BitVec.ofNat_add, BitVec.toNat_ofNat]
        unfold offTMax at small
        omega
      have size : (bufferAt buffer (roundSize (len - movedBy earlier))).size.toNat =
          roundSize (len - movedBy earlier) := by
        have fits := roundSize_le_fsBufferSize (len - movedBy earlier)
        unfold Fs.fsBufferSize at fits
        exact (BitVec.toNat_ofNat _ _).trans (Nat.mod_eq_of_lt (by omega))
      obtain ⟨atMost, behind⟩ := within direction (client.serverFd entry) _ _ share client.server
        (offset.trans_le small) (not_not.mp failed)
      rw [size] at atMost
      rw [offset] at behind
      refine ⟨atMost, tables.trans same, ?_⟩
      rw [movedBy_snoc, ← Nat.add_assoc]
      exact behind

theorem call_unchanged
    (nothing : len = 0 ∨ buf = 0 ∨ client.fds.posixFdEntry fd = none ∨
      client.fsBufferAllocate = none)
    (called : direction.call env client locals buf len fd = some (result, next)) :
    next = client := by
  rw [Direction.call_eq] at called
  unfold fileTransfer at called
  split at called
  · cases called
    rfl
  · rename_i notEmpty
    split at called
    · cases called
      rfl
    · rename_i notNull
      split at called
      · cases called
        rfl
      · rename_i entry found
        have none := ((nothing.resolve_left notEmpty).resolve_left notNull).resolve_left
          fun none => (by cases found.symm.trans none)
        rw [none] at called
        cases called
        rfl

theorem sysRead_cases (called : client.sysRead env locals fd buf len = some (result, next)) :
    next = client ∨ Direction.call .read env client locals buf len fd = some (result, next) := by
  unfold sysRead at called
  split_ifs at called
  · cases called
    exact .inl rfl
  · cases called
    exact .inl rfl
  · cases called
    exact .inl rfl
  · split at called
    · cases called
      exact .inl rfl
    · split_ifs at called
      exact .inr called

theorem sysWrite_cases (called : client.sysWrite env locals fd buf len = some (result, next)) :
    next = client ∨ Direction.call .write env client locals buf len fd = some (result, next) := by
  unfold sysWrite at called
  split_ifs at called
  · cases called
    exact .inl rfl
  · cases called
    exact .inl rfl
  · cases called
    exact .inl rfl
  · split at called
    · cases called
      exact .inl rfl
    · split_ifs at called
      exact .inr called

theorem nonNegative_of_call (within : CountsWithin env) (nonNegative : client.NonNegative)
    (called : direction.call env client locals buf len fd = some (result, next)) :
    next.NonNegative := by
  by_cases nothing : len = 0 ∨ buf = 0 ∨ client.fds.posixFdEntry fd = none ∨
      client.fsBufferAllocate = none
  · rw [call_unchanged nothing called]
    exact nonNegative
  rw [not_or, not_or, not_or] at nothing
  obtain ⟨notEmpty, notNull, entered, room⟩ := nothing
  obtain ⟨entry, found⟩ := Option.ne_none_iff_exists'.mp entered
  obtain ⟨i, _, ended⟩ := call_cases direction locals found notNull notEmpty
    (Option.isSome_iff_ne_none.mpr room)
    (fun i => within_step within direction entry (client.holding i) _ buf len)
    (fun i => ⟨.refl _, nonNegative entry⟩) (fun _ _ _ inv => inv) fun _ _ _ _ failed => failed
  rcases ended with ⟨_, _, ended, tables, same⟩ | ⟨rounds, ended, _, ⟨tables, small⟩, same⟩
  · cases called.symm.trans same
    intro other
    dsimp only [freed]
    rw [tables.fds]
    exact nonNegative other
  · cases called.symm.trans same
    intro other
    dsimp only [FdTable.setEntry]
    rw [tables.fds]
    by_cases moved : other = entry
    · subst moved
      rw [update_self]
      exact small
    · rw [update_of_ne moved]
      exact nonNegative other

theorem SeekExact.nonNegative (nonNegative : client.NonNegative)
    (seek : SeekExact entry target client next result) : next.NonNegative := by
  intro other
  rcases Int.lt_or_le result 0 with failed | positive
  · rw [seek.failed failed]
    exact nonNegative other
  · obtain ⟨asked, moved⟩ := seek.moved positive
    have small : result ≤ offTMax := by
      by_contra beyond
      have denied := seek.above result asked (not_le.mp beyond)
      exact absurd positive (denied ▸ Int.not_le.mpr eoverflow.result_neg)
    rw [moved]
    dsimp only [FdTable.setEntry]
    by_cases same : other = entry
    · subst same
      rw [update_self]
      exact Int.toNat_le.mpr small
    · rw [update_of_ne same]
      exact nonNegative other

/-! ### Runs -/

theorem exactStep_iff_insideFile (within : CountsWithin env) (nonNegative : client.NonNegative)
    {call : Call} (step : PositionStep env client call next) :
    ExactStep env client call next ↔ InsideFile env client call := by
  obtain ⟨call, locals⟩ := call
  have step_ := step
  obtain ⟨moves, result, called⟩ := step_
  have exact_of (positioned : ∀ result, client.perform env locals call = some (result, next) →
      Positioned env client call next result) : ExactStep env client ⟨call, locals⟩ next :=
    ⟨step, positioned⟩
  cases call with
  | lseek fd offset whence =>
    have called : client.sysLseek env locals fd offset whence = (result, next) :=
      Option.some.inj called
    cases found : client.fds.posixFdEntry fd with
    | none =>
      have same : next = client := by
        unfold sysLseek at called
        rw [found] at called
        split_ifs at called <;> exact (Prod.mk.inj called).2.symm
      subst same
      refine iff_of_true (exact_of fun result called => ⟨nonNegative, ?_⟩) ?_
      · intro fd' offset' whence' same
        cases same
        exact ⟨fun _ => rfl, fun entry found' => (by cases found.symm.trans found')⟩
      · intro fd' offset' entry size same found'
        cases same
        cases found.symm.trans found'
    | some entry =>
      rcases sysLseek_cases found (nonNegative entry) called with ⟨inside, seek⟩ | ⟨outside, beyond⟩
      · refine iff_of_true (exact_of fun other called' => ⟨seek.nonNegative nonNegative, ?_⟩) inside
        intro fd' offset' whence' same
        cases same
        cases called.symm.trans (Option.some.inj called')
        refine ⟨seek.failed, fun entry' found' => ?_⟩
        cases found.symm.trans found'
        exact seek
      · refine iff_of_false (fun exact_ => ?_) outside
        have small := (exact_.2 result (congrArg some called)).nonNegative entry
        exact Nat.not_le.mpr beyond small
  | read fd buf len =>
    refine iff_of_true (exact_of fun result called => ⟨?_, ?_⟩) ?_
    · rcases sysRead_cases called with rfl | called
      · exact nonNegative
      · exact nonNegative_of_call within nonNegative called
    · intro fd' offset' whence' same
      cases same
    · intro fd' offset' entry size same
      cases same
  | write fd buf len =>
    refine iff_of_true (exact_of fun result called => ⟨?_, ?_⟩) ?_
    · rcases sysWrite_cases called with rfl | called
      · exact nonNegative
      · exact nonNegative_of_call within nonNegative called
    · intro fd' offset' whence' same
      cases same
    · intro fd' offset' entry size same
      cases same
  | openat | close | fstat | fstatat | mkdirat | unlinkat => exact moves.elim

/-- In runs of calls of `lseek`, `read` and `write`, all positions are exact if and only if no
position before the beginning of a file is sought from its end. -/
theorem positions_exact_iff_insideFile (within : CountsWithin env)
    {start : FileClient Server maxFds} (nonNegative : start.NonNegative) {calls : List Call} :
    Run (ExactStep env) start calls client ↔
      Run (Guarded (InsideFile env) (PositionStep env)) start calls client := by
  have kept {client next : FileClient Server maxFds} {call : Call}
      (exact_ : ExactStep env client call next) : next.NonNegative := by
    obtain ⟨_, result, called⟩ := exact_.1
    exact (exact_.2 result called).nonNegative
  constructor
  · intro run
    refine run.mono_of_invariant FileClient.NonNegative nonNegative
      fun client call next nonNegative exact_ => ⟨kept exact_, ?_, exact_.1⟩
    exact (exactStep_iff_insideFile within nonNegative exact_.1).mp exact_
  · intro run
    refine run.mono_of_invariant FileClient.NonNegative nonNegative
      fun client call next nonNegative step => ?_
    have exact_ := (exactStep_iff_insideFile within nonNegative step.2).mpr step.1
    exact ⟨kept exact_, exact_⟩

end Positions

/-! ### An empty file -/

/-- The server has an empty file, which cannot get longer. -/
def emptyFile : FileEnv Unit where
  available _ := true
  answer _ share _ := { completion := ⟨fsStatusSuccess, 0⟩, share, server := () }
  behindErrnos _ := 0
  protocol _ _ _ := of_decide_eq_true rfl

theorem emptyFile_countsWithin : CountsWithin emptyFile :=
  fun _ _ _ _ _ _ small _ => ⟨Nat.zero_le _, small⟩

theorem openedFile_nonNegative {Server : Type} (server : Server) :
    (openedFile server).NonNegative := by
  intro fd
  dsimp only [openedFile, FileClient.enterFile, FdTable.setEntry]
  by_cases same : fd = 3
  · rw [same]
    exact Nat.zero_le _
  · rw [update_of_ne same]
    exact initial_nonNegative (fun _ => 0) server fd

/-- A position five bytes behind the end of the empty file is sought. -/
theorem behind_end_sought : Run (ExactStep emptyFile) (openedFile ())
    [⟨.lseek 3 5 seekEnd, zeroedLocals⟩]
    (FileClient.sysLseek emptyFile (openedFile ()) zeroedLocals 3 5 seekEnd).2 := by
  refine (positions_exact_iff_insideFile emptyFile_countsWithin (openedFile_nonNegative ())).mpr
    (.single ⟨?_, trivial, _, rfl⟩)
  intro fd offset entry size sought _ _
  cases sought
  exact Int.add_nonneg (Int.natCast_nonneg _) (by decide)

/-- A position a byte before the beginning of the empty file is sought from its end. The call
succeeds, and the position is negative. -/
theorem before_beginning_sought :
    let sought := FileClient.sysLseek emptyFile (openedFile ()) zeroedLocals 3 (-1) seekEnd
    PositionStep emptyFile (openedFile ()) ⟨.lseek 3 (-1) seekEnd, zeroedLocals⟩ sought.2 ∧
      FileClient.seekTarget emptyFile (openedFile ()) 3 (-1) seekEnd = some (-1) ∧
      sought.1 ≠ FileErrno.einval.result ∧ ¬ sought.2.NonNegative ∧
      ¬ ExactStep emptyFile (openedFile ()) ⟨.lseek 3 (-1) seekEnd, zeroedLocals⟩ sought.2 := by
  have negative : ¬ (FileClient.sysLseek emptyFile (openedFile ()) zeroedLocals 3 (-1)
      seekEnd).2.NonNegative := by
    intro nonNegative
    exact absurd (nonNegative 3) (by decide)
  refine ⟨⟨trivial, _, rfl⟩, rfl, by decide, negative, fun exact_ => ?_⟩
  exact negative (exact_.2 _ rfl).nonNegative

end LionsOS.Posix

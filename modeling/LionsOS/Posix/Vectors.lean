/-
This file embeds `sys_writev` and `sys_readv` of `io.c` and says what they make of the
results of the calls for the single buffers. These calls move a prefix of all the
buffers, up to the first that is not moved in full, and the result is how much that is,
unless it is one of the calls behind the first that fails. The lengths are added up in
a signed word that is compared with its own maximum, so no vector is too long.
-/

import LionsOS.Posix.FileClient
import Mathlib.Data.BitVec

namespace LionsOS.Posix

/-! ### The calls -/

structure IoVec where
  iovBase : Nat
  iovLen : UInt64T

def iovMax : Int := 1024

def ssizeMax : UInt64T := 0x7fffffffffffffff

/-- The sum of the lengths, `none` when it is too large. -/
def sumLengths (sum : UInt64T) : List IoVec → Option UInt64T
  | [] => some sum
  | vector :: rest =>
    if ssizeMax.slt (sum + vector.iovLen) then none else sumLengths (sum + vector.iovLen) rest

section Calls

variable {State : Type} (transfer : IoVec → State → UInt64T × State)

/-- The loop over the buffers. `transfer` is what the entry of the descriptor points to. -/
def transferVectors (ret : UInt64T) : List IoVec → State → Int × State
  | [], state => (ret.toInt, state)
  | vector :: rest, state =>
    if vector.iovLen = 0 then transferVectors ret rest state
    else if vector.iovBase = 0 then (FileErrno.efault.result, state)
    else
      let (moved, next) := transfer vector state
      if moved.slt 0 then (moved.toInt, next)
      else if moved < vector.iovLen then ((ret + moved).toInt, next)
      else transferVectors (ret + moved) rest next

variable {maxFds : Nat} (fds : FdTable maxFds)

/-- The buffers are `none` for a null pointer. -/
def sysWritev (fd : Int) (iov : Option (Nat → IoVec)) (iovcnt : Int) (state : State) :
    Int × State :=
  match iov with
  | none => (FileErrno.efault.result, state)
  | some iov =>
    if fd = servicesFd maxFds then (FileErrno.ebadf.result, state)
    else
      match fds.posixFdEntry fd with
      | none => (FileErrno.ebadf.result, state)
      | some _ =>
        if iovcnt ≤ 0 ∨ iovMax < iovcnt then (FileErrno.einval.result, state)
        else
          let vectors := (List.range iovcnt.toNat).map iov
          match sumLengths 0 vectors with
          | none => (FileErrno.einval.result, state)
          | some sum => if sum = 0 then (0, state) else transferVectors transfer 0 vectors state

def sysReadv (fd : Int) (iov : Option (Nat → IoVec)) (iovcnt : Int) (state : State) : Int × State :=
  match iov with
  | none => (FileErrno.efault.result, state)
  | some iov =>
    if fd = servicesFd maxFds then (0, state)
    else
      match fds.posixFdEntry fd with
      | none => (FileErrno.ebadf.result, state)
      | some _ =>
        if iovcnt ≤ 0 ∨ iovMax < iovcnt then (FileErrno.einval.result, state)
        else
          let vectors := (List.range iovcnt.toNat).map iov
          match sumLengths 0 vectors with
          | none => (FileErrno.einval.result, state)
          | some _ => transferVectors transfer 0 vectors state

end Calls

/-! ### Sums -/

theorem not_ssizeMax_slt (sum : UInt64T) : ¬ ssizeMax.slt sum = true := by
  have largest : ssizeMax.toInt = 2 ^ 63 - 1 := by decide
  have bound := sum.toInt_lt
  rw [BitVec.slt_iff_toInt_lt]
  omega

theorem sumLengths_eq (sum : UInt64T) (vectors : List IoVec) :
    sumLengths sum vectors = some (sum + (vectors.map IoVec.iovLen).sum) := by
  induction vectors generalizing sum with
  | nil => exact congrArg some (BitVec.add_zero sum).symm
  | cons vector rest inductionHypothesis =>
    rw [sumLengths, if_neg (not_ssizeMax_slt _), inductionHypothesis, List.map_cons,
      List.sum_cons, BitVec.add_assoc]

section Valid

variable {State : Type} {transfer : IoVec → State → UInt64T × State} {maxFds : Nat}
  {fds : FdTable maxFds} {fd : Int} {entry : Fin maxFds} {iov : Nat → IoVec} {iovcnt : Int}
  {state : State}

section

variable (found : fds.posixFdEntry fd = some entry)
include found

theorem ne_servicesFd : fd ≠ servicesFd maxFds := by
  have number := (FdTable.posixFdEntry_eq_some found).1
  unfold servicesFd
  omega

theorem sysWritev_eq (some_vector : 0 < iovcnt) (few : iovcnt ≤ iovMax) :
    sysWritev transfer fds fd (some iov) iovcnt state =
      let vectors := (List.range iovcnt.toNat).map iov
      if (vectors.map IoVec.iovLen).sum = 0 then (0, state)
      else transferVectors transfer 0 vectors state := by
  unfold sysWritev
  dsimp only
  rw [if_neg (ne_servicesFd found), found]
  rw [if_neg (not_or.mpr ⟨Int.not_le.mpr some_vector, Int.not_lt.mpr few⟩), sumLengths_eq]
  rw [show (0 : UInt64T) + _ = _ from BitVec.zero_add _]

theorem sysReadv_eq (some_vector : 0 < iovcnt) (few : iovcnt ≤ iovMax) :
    sysReadv transfer fds fd (some iov) iovcnt state =
      transferVectors transfer 0 ((List.range iovcnt.toNat).map iov) state := by
  unfold sysReadv
  dsimp only
  rw [if_neg (ne_servicesFd found), found]
  rw [if_neg (not_or.mpr ⟨Int.not_le.mpr some_vector, Int.not_lt.mpr few⟩), sumLengths_eq]

end

end Valid

/-! ### Calls for the single buffers -/

/-- A call for a buffer, with its result. -/
structure VecCall where
  vector : IoVec
  result : UInt64T

/-- A record is kept of the calls. -/
def recorded {State : Type} (transfer : IoVec → State → UInt64T × State) (vector : IoVec)
    (state : State × List VecCall) : UInt64T × State × List VecCall :=
  let (result, next) := transfer vector state.1
  (result, next, state.2 ++ [⟨vector, result⟩])

/-- The sum of the lengths, as a number. -/
def lengthSum (vectors : List IoVec) : Nat :=
  (vectors.map fun vector => vector.iovLen.toNat).sum

/-- The call was refused as one with buffers that are too long, before anything was moved. -/
structure Rejected {State : Type} (outcome : Int × State × List VecCall)
    (before : List VecCall) : Prop where
  result : outcome.1 = FileErrno.einval.result
  nothing : outcome.2.2 = before

section Rejection

variable {State : Type} {transfer : IoVec → State → UInt64T × State} {maxFds : Nat}
  {fds : FdTable maxFds} {fd : Int} {entry : Fin maxFds} {iov : Nat → IoVec} {iovcnt : Int}
  {state : State × List VecCall}

section

variable (transfer : IoVec → State → UInt64T × State)

/-- Without a call for a buffer, the loop only ends at its end or at a null pointer. -/
theorem transferVectors_record (ret : UInt64T) (vectors : List IoVec) (state : State × List VecCall) :
    ∃ made, (transferVectors (recorded transfer) ret vectors state).2.2 = state.2 ++ made ∧
      (made = [] → (transferVectors (recorded transfer) ret vectors state).1 = ret.toInt ∨
        (transferVectors (recorded transfer) ret vectors state).1 = FileErrno.efault.result) := by
  induction vectors generalizing ret state with
  | nil => exact ⟨[], (List.append_nil _).symm, fun _ => .inl rfl⟩
  | cons vector rest inductionHypothesis =>
    rw [transferVectors]
    split_ifs with empty null
    · exact inductionHypothesis ret state
    · exact ⟨[], (List.append_nil _).symm, fun _ => .inr rfl⟩
    · dsimp only [recorded]
      split_ifs
      · exact ⟨[_], rfl, by simp⟩
      · exact ⟨[_], rfl, by simp⟩
      · obtain ⟨made, record, _⟩ := inductionHypothesis (ret + (transfer vector state.1).1)
          ((transfer vector state.1).2, state.2 ++ [⟨vector, (transfer vector state.1).1⟩])
        refine ⟨⟨vector, (transfer vector state.1).1⟩ :: made, ?_, by simp⟩
        rw [record, List.append_assoc]
        rfl

theorem not_rejected_transferVectors (vectors : List IoVec) (state : State × List VecCall) :
    ¬ Rejected (transferVectors (recorded transfer) 0 vectors state) state.2 := by
  rintro ⟨result, nothing⟩
  obtain ⟨made, record, ends⟩ := transferVectors_record transfer 0 vectors state
  have none : made = [] := List.append_right_eq_self.mp (record.symm.trans nothing)
  rw [result] at ends
  rcases ends none with zero | fault
  · exact absurd zero (by decide)
  · exact absurd fault (by decide)

section

variable (iov : Nat → IoVec) (state : State × List VecCall)
  (found : fds.posixFdEntry fd = some entry)
include found

theorem not_rejected_sysWritev (some_vector : 0 < iovcnt) (few : iovcnt ≤ iovMax) :
    ¬ Rejected (sysWritev (recorded transfer) fds fd (some iov) iovcnt state) state.2 := by
  rw [sysWritev_eq found some_vector few]
  dsimp only
  split_ifs
  · rintro ⟨result, _⟩
    have zero : (0 : Int) = FileErrno.einval.result := result
    exact absurd zero (by decide)
  · exact not_rejected_transferVectors _ _ _

theorem not_rejected_sysReadv (some_vector : 0 < iovcnt) (few : iovcnt ≤ iovMax) :
    ¬ Rejected (sysReadv (recorded transfer) fds fd (some iov) iovcnt state) state.2 := by
  rw [sysReadv_eq found some_vector few]
  exact not_rejected_transferVectors _ _ _

end

end

/-- Buffers are refused exactly if they are too long, where they are not too long: no buffers are
refused. -/
theorem rejected_iff_too_long_iff (found : fds.posixFdEntry fd = some entry)
    (some_vector : 0 < iovcnt) (few : iovcnt ≤ iovMax) :
    let total := lengthSum ((List.range iovcnt.toNat).map iov)
    ((Rejected (sysWritev (recorded transfer) fds fd (some iov) iovcnt state) state.2 ↔
        ssizeMax.toNat < total) ↔ total ≤ ssizeMax.toNat) ∧
      ((Rejected (sysReadv (recorded transfer) fds fd (some iov) iovcnt state) state.2 ↔
        ssizeMax.toNat < total) ↔ total ≤ ssizeMax.toNat) := by
  have written := not_rejected_sysWritev transfer iov state found some_vector few
  have read := not_rejected_sysReadv transfer iov state found some_vector few
  constructor
  · rw [iff_false_left written, Nat.not_lt]
  · rw [iff_false_left read, Nat.not_lt]

end Rejection

/-- A call that moves all of a buffer, and counts. -/
def moveAll (vector : IoVec) (calls : Nat) : UInt64T × Nat :=
  (vector.iovLen, calls + 1)

theorem rejected_iff_too_long_iff_stdout :
    let total := lengthSum ((List.range (2 : Int).toNat).map fun _ => ⟨1, 5⟩)
    ((Rejected (sysWritev (recorded moveAll) (FdTable.initial : FdTable 128) 1
        (some fun _ => ⟨1, 5⟩) 2 (0, [])) [] ↔ ssizeMax.toNat < total) ↔ total ≤ ssizeMax.toNat) ∧
      ((Rejected (sysReadv (recorded moveAll) (FdTable.initial : FdTable 128) 1
        (some fun _ => ⟨1, 5⟩) 2 (0, [])) [] ↔ ssizeMax.toNat < total) ↔
          total ≤ ssizeMax.toNat) := by
  have found : (FdTable.initial : FdTable 128).posixFdEntry 1 = some 1 := rfl
  exact rejected_iff_too_long_iff found (by decide) (by decide)

/-- One buffer, longer by one than the largest signed word, is not refused. -/
theorem long_buffer_not_rejected :
    ssizeMax.toNat < lengthSum ((List.range (1 : Int).toNat).map fun _ => ⟨1, 0x8000000000000000⟩) ∧
      ¬ Rejected (sysWritev (recorded moveAll) (FdTable.initial : FdTable 128) 1
        (some fun _ => ⟨1, 0x8000000000000000⟩) 1 (0, [])) [] ∧
      ¬ Rejected (sysReadv (recorded moveAll) (FdTable.initial : FdTable 128) 1
        (some fun _ => ⟨1, 0x8000000000000000⟩) 1 (0, [])) [] := by
  have found : (FdTable.initial : FdTable 128).posixFdEntry 1 = some 1 := rfl
  refine ⟨by decide, ?_, ?_⟩
  · exact not_rejected_sysWritev _ _ _ found (by decide) (by decide)
  · exact not_rejected_sysReadv _ _ _ found (by decide) (by decide)

/-! ### Results of the calls -/

/-- The calls have these results, one after the other. -/
def scripted (results : Nat → UInt64T) (_ : IoVec) (calls : Nat) : UInt64T × Nat :=
  (results calls, calls + 1)

namespace IoVec

/-- The addresses of the bytes of a buffer. -/
def addresses (vector : IoVec) : List Nat :=
  (List.range vector.iovLen.toNat).map (vector.iovBase + ·)

theorem length_addresses (vector : IoVec) : vector.addresses.length = vector.iovLen.toNat := by
  rw [addresses, List.length_map, List.length_range]

end IoVec

namespace VecCall

/-- The buffer has no address, or the call fails. -/
def fails (call : VecCall) : Bool :=
  call.vector.iovBase = 0 || call.result.slt 0

/-- All of the buffer is moved. -/
def full (call : VecCall) : Bool :=
  !call.fails && !decide (call.result < call.vector.iovLen)

/-- How much of the buffer is moved. -/
def count (call : VecCall) : Nat :=
  if call.fails then 0 else call.result.toNat

/-- The addresses of the bytes that are moved. -/
def moved (call : VecCall) : List Nat :=
  call.vector.addresses.take call.count

end VecCall

/-- The buffers that are not empty, with the results that calls for them have. -/
def outcomes (results : Nat → UInt64T) (calls : Nat) : List IoVec → List VecCall
  | [] => []
  | vector :: rest =>
    if vector.iovLen = 0 then outcomes results calls rest
    else ⟨vector, results calls⟩ :: outcomes results (calls + 1) rest

/-- The buffers up to the first that is not moved in full. -/
def attempted (calls : List VecCall) : List VecCall :=
  calls.takeWhile VecCall.full ++ (calls.dropWhile VecCall.full).take 1

def movedCount (calls : List VecCall) : Nat :=
  (calls.map VecCall.count).sum

/-- The result of the loop tells what was moved: it is an error only if nothing was, and otherwise
the number of the bytes; and these are the first bytes of the buffers. -/
structure Reports (vectors : List IoVec) (calls : List VecCall) (result : Int) : Prop where
  failed : result < 0 → calls.flatMap VecCall.moved = []
  moved : 0 ≤ result → result = (calls.flatMap VecCall.moved).length
  isPrefix : calls.flatMap VecCall.moved <+: vectors.flatMap IoVec.addresses

/-- Nothing fails behind a buffer that is moved, and not more is moved than the largest result. -/
structure ProgressReported (calls : List VecCall) : Prop where
  failure : ∀ call ∈ attempted calls, call.fails = true → attempted calls = [call]
  small : movedCount (attempted calls) ≤ ssizeMax.toNat

section Results

variable {call : VecCall} {calls : List VecCall} {results : Nat → UInt64T} {vectors : List IoVec}

theorem attempted_of_full (full : call.full = true) :
    attempted (call :: calls) = call :: attempted calls := by
  unfold attempted
  rw [List.takeWhile_cons_of_pos full, List.dropWhile_cons_of_pos full]
  rfl

theorem attempted_of_not_full (notFull : call.full = false) : attempted (call :: calls) = [call] := by
  have notFull : ¬ call.full = true := Bool.eq_false_iff.mp notFull
  unfold attempted
  rw [List.takeWhile_cons_of_neg notFull, List.dropWhile_cons_of_neg notFull]
  rfl

theorem VecCall.fails_iff :
    call.fails = true ↔ call.vector.iovBase = 0 ∨ call.result.slt 0 = true := by
  rw [fails, Bool.or_eq_true, decide_eq_true_iff]

theorem VecCall.moved_of_fails (fails : call.fails = true) : call.moved = [] := by
  rw [moved, count, if_pos fails, List.take_zero]

theorem VecCall.not_fails_of_full (full : call.full = true) : call.fails = false := by
  rw [VecCall.full, Bool.and_eq_true, Bool.not_eq_true'] at full
  exact full.1

theorem VecCall.not_full_of_fails (fails : call.fails = true) : call.full = false := by
  rw [VecCall.full, fails]
  rfl

theorem VecCall.count_of_not_fails (notFailed : call.fails = false) :
    call.count = call.result.toNat := by
  rw [count, notFailed]
  rfl

theorem VecCall.moved_of_full (full : call.full = true) : call.moved = call.vector.addresses := by
  have notFailed := not_fails_of_full full
  rw [VecCall.full, Bool.and_eq_true, Bool.not_eq_true', Bool.not_eq_true',
    decide_eq_false_iff_not] at full
  have enough := BitVec.le_def.mp (BitVec.not_lt.mp full.2)
  rw [moved, count, if_neg (Bool.eq_false_iff.mp notFailed)]
  exact List.take_of_length_le (call.vector.length_addresses.trans_le enough)

theorem moved_prefix (results : Nat → UInt64T) (calls : Nat) (vectors : List IoVec) :
    (attempted (outcomes results calls vectors)).flatMap VecCall.moved <+:
      vectors.flatMap IoVec.addresses := by
  induction vectors generalizing calls with
  | nil => exact List.nil_prefix
  | cons vector rest inductionHypothesis =>
    rw [outcomes, List.flatMap_cons]
    split_ifs with empty
    · have none : vector.addresses = [] := by
        rw [IoVec.addresses, empty]
        rfl
      rw [none]
      exact inductionHypothesis calls
    · cases full : VecCall.full ⟨vector, results calls⟩ with
      | true =>
        rw [attempted_of_full full, List.flatMap_cons, VecCall.moved_of_full full]
        exact (List.prefix_append_right_inj _).mpr (inductionHypothesis (calls + 1))
      | false =>
        rw [attempted_of_not_full full, List.flatMap_singleton]
        exact (List.take_prefix _ _).trans (List.prefix_append _ _)

theorem length_moved (atMost : ∀ call ∈ calls, call.count ≤ call.vector.iovLen.toNat) :
    (calls.flatMap VecCall.moved).length = movedCount calls := by
  rw [List.length_flatMap]
  refine congrArg List.sum (List.map_congr_left fun call member => ?_)
  rw [VecCall.moved, List.length_take, IoVec.length_addresses]
  exact Nat.min_eq_left (atMost call member)

theorem mem_of_mem_attempted (member : call ∈ attempted calls) : call ∈ calls := by
  rcases List.mem_append.mp member with before | behind
  · exact (List.takeWhile_sublist _).subset before
  · exact (List.dropWhile_sublist _).subset (List.mem_of_mem_take behind)

theorem transferVectors_cases (results : Nat → UInt64T) (ret : UInt64T) (vectors : List IoVec)
    (k : Nat) (earlier : List VecCall) :
    let calls := attempted (outcomes results k vectors)
    let outcome := transferVectors (recorded (scripted results)) ret vectors (k, earlier)
    outcome.2.2.flatMap VecCall.moved = (earlier ++ calls).flatMap VecCall.moved ∧
      ((∃ before last, calls = before ++ [last] ∧ (∀ call ∈ before, call.full = true) ∧
        last.fails = true ∧ outcome.1 < 0) ∨
      (∀ call ∈ calls, call.fails = false) ∧
        outcome.1 = (ret + BitVec.ofNat 64 (movedCount calls)).toInt) := by
  induction vectors generalizing ret k earlier with
  | nil =>
    refine ⟨by rw [transferVectors, outcomes]; exact congrArg _ (List.append_nil _).symm,
      .inr ⟨List.forall_mem_nil _, congrArg BitVec.toInt (BitVec.add_zero ret).symm⟩⟩
  | cons vector rest inductionHypothesis =>
    rw [outcomes, transferVectors]
    split_ifs with empty null
    · exact inductionHypothesis ret k earlier
    · have fails := @VecCall.fails_iff ⟨vector, results k⟩ |>.mpr (.inl null)
      rw [attempted_of_not_full (VecCall.not_full_of_fails fails)]
      refine ⟨?_, .inl ⟨[], _, rfl, List.forall_mem_nil _, fails, FileErrno.result_neg _⟩⟩
      rw [List.flatMap_append, List.flatMap_singleton, VecCall.moved_of_fails fails,
        List.append_nil]
    · dsimp only [recorded, scripted]
      split_ifs with negative short
      · have fails := @VecCall.fails_iff ⟨vector, results k⟩ |>.mpr (.inr negative)
        rw [attempted_of_not_full (VecCall.not_full_of_fails fails)]
        refine ⟨rfl, .inl ⟨[], _, rfl, List.forall_mem_nil _, fails, ?_⟩⟩
        rwa [BitVec.slt_iff_toInt_lt] at negative
      · have notFailed := Bool.eq_false_iff.mpr
          (mt (@VecCall.fails_iff ⟨vector, results k⟩).mp (not_or.mpr ⟨null, negative⟩))
        have notFull : VecCall.full ⟨vector, results k⟩ = false := by
          simp [VecCall.full, short]
        rw [attempted_of_not_full notFull]
        refine ⟨rfl, .inr ⟨List.forall_mem_singleton.mpr notFailed, ?_⟩⟩
        rw [movedCount, List.map_singleton, List.sum_singleton, VecCall.count_of_not_fails notFailed,
          BitVec.ofNat_toNat, BitVec.setWidth_eq]
      · have notFailed := Bool.eq_false_iff.mpr
          (mt (@VecCall.fails_iff ⟨vector, results k⟩).mp (not_or.mpr ⟨null, negative⟩))
        have full : VecCall.full ⟨vector, results k⟩ = true := by
          simp [VecCall.full, notFailed, short]
        obtain ⟨moved, ends⟩ := inductionHypothesis (ret + results k) (k + 1)
          (earlier ++ [⟨vector, results k⟩])
        rw [attempted_of_full full]
        refine ⟨?_, ?_⟩
        · rw [List.append_assoc] at moved
          exact moved
        · rcases ends with ⟨before, last, same, whole, fails, negative⟩ | ⟨none, sum⟩
          · refine .inl ⟨_ :: before, last, ?_, List.forall_mem_cons.mpr ⟨full, whole⟩, fails,
              negative⟩
            rw [same, List.cons_append]
          · refine .inr ⟨List.forall_mem_cons.mpr ⟨notFailed, none⟩, ?_⟩
            rw [sum, movedCount, movedCount, List.map_cons, List.sum_cons,
              VecCall.count_of_not_fails notFailed, BitVec.ofNat_add, BitVec.ofNat_toNat,
              BitVec.setWidth_eq, BitVec.add_assoc]

theorem ne_zero_of_mem_outcomes {k : Nat} (member : call ∈ outcomes results k vectors) :
    call.vector.iovLen ≠ 0 := by
  induction vectors generalizing k with
  | nil => cases member
  | cons vector rest inductionHypothesis =>
    rw [outcomes] at member
    split_ifs at member with empty
    · exact inductionHypothesis member
    · rcases List.mem_cons.mp member with rfl | later
      · exact empty
      · exact inductionHypothesis later

theorem moved_ne_nil_of_full (notEmpty : call.vector.iovLen ≠ 0) (full : call.full = true) :
    call.moved ≠ [] := by
  rw [VecCall.moved_of_full full, Ne, ← List.length_eq_zero_iff, IoVec.length_addresses]
  exact fun zero => notEmpty (BitVec.eq_of_toNat_eq zero)

/-- Where a call fails behind some that have moved all of their buffers, the loop tells what was moved
exactly if there are none of these. -/
theorem reports_iff_of_fails {made before : List VecCall} {last : VecCall} {result : Int}
    (isPrefix : made.flatMap VecCall.moved <+: vectors.flatMap IoVec.addresses)
    (same : made.flatMap VecCall.moved = (attempted calls).flatMap VecCall.moved)
    (ends : attempted calls = before ++ [last])
    (whole : ∀ call ∈ before, call.full = true ∧ call.vector.iovLen ≠ 0) (fails : last.fails = true)
    (negative : result < 0) : Reports vectors made result ↔ ProgressReported calls := by
  have nothing_iff : made.flatMap VecCall.moved = [] ↔ before = [] := by
    rw [same, ends, List.flatMap_append, List.flatMap_singleton, VecCall.moved_of_fails fails,
      List.append_nil, List.flatMap_eq_nil_iff]
    constructor
    · intro none
      exact List.eq_nil_iff_forall_not_mem.mpr fun call member =>
        moved_ne_nil_of_full (whole call member).2 (whole call member).1 (none call member)
    · rintro rfl
      exact List.forall_mem_nil _
  constructor
  · intro reports
    have none := nothing_iff.mp (reports.failed negative)
    rw [none, List.nil_append] at ends
    refine ⟨fun call member _ => ?_, ?_⟩
    · rw [ends] at member ⊢
      rw [List.mem_singleton.mp member]
    · rw [ends, movedCount, List.map_singleton, VecCall.count, if_pos fails]
      exact Nat.zero_le _
  · intro reported
    have alone := reported.failure last (ends ▸ List.mem_append_right _ List.mem_cons_self) fails
    have none : before = [] := by
      rw [ends] at alone
      exact List.append_left_eq_self.mp alone
    exact ⟨fun _ => nothing_iff.mpr none, fun positive => absurd positive (Int.not_le.mpr negative),
      isPrefix⟩

/-- Where no call fails, the loop tells what was moved exactly if that is not too much. -/
theorem reports_iff_of_sum {made : List VecCall} {result : Int}
    (isPrefix : made.flatMap VecCall.moved <+: vectors.flatMap IoVec.addresses)
    (length : (made.flatMap VecCall.moved).length = movedCount (attempted calls))
    (none : ∀ call ∈ attempted calls, call.fails = false)
    (sum : result = (BitVec.ofNat 64 (movedCount (attempted calls))).toInt) :
    Reports vectors made result ↔ ProgressReported calls := by
  have largest : ssizeMax.toNat = 2 ^ 63 - 1 := rfl
  have below := (BitVec.ofNat 64 (movedCount (attempted calls))).toInt_lt
  constructor
  · intro reports
    refine ⟨fun call member fails => ?_, ?_⟩
    · rw [none call member] at fails
      cases fails
    · rcases lt_or_ge result 0 with negative | positive
      · rw [← length, reports.failed negative]
        exact Nat.zero_le _
      · have exact_ := reports.moved positive
        omega
  · intro reported
    have small := reported.small
    have value : result = (movedCount (attempted calls) : Int) := by
      rw [sum, BitVec.toInt_eq_toNat_of_lt (by rw [BitVec.toNat_ofNat]; omega),
        BitVec.toNat_ofNat, Nat.mod_eq_of_lt (by omega)]
    exact ⟨fun negative => by omega, fun _ => by rw [value, length], isPrefix⟩

theorem transferVectors_reports_iff (results : Nat → UInt64T) (vectors : List IoVec)
    (atMost : ∀ call ∈ outcomes results 0 vectors, call.count ≤ call.vector.iovLen.toNat) :
    let outcome := transferVectors (recorded (scripted results)) 0 vectors (0, [])
    Reports vectors outcome.2.2 outcome.1 ↔ ProgressReported (outcomes results 0 vectors) := by
  obtain ⟨moved, ends⟩ := transferVectors_cases results 0 vectors 0 []
  rw [List.nil_append] at moved
  have isPrefix := moved_prefix results 0 vectors
  rw [← moved] at isPrefix
  rcases ends with ⟨before, last, same, whole, fails, negative⟩ | ⟨none, sum⟩
  · refine reports_iff_of_fails isPrefix moved same (fun call member => ⟨whole call member, ?_⟩)
      fails negative
    have attempted_ : call ∈ attempted (outcomes results 0 vectors) := by
      rw [same]
      exact List.mem_append_left _ member
    exact ne_zero_of_mem_outcomes (mem_of_mem_attempted attempted_)
  · refine reports_iff_of_sum isPrefix ?_ none ?_
    · rw [moved]
      exact length_moved fun call member => atMost call (mem_of_mem_attempted member)
    · rw [sum, show (0 : UInt64T) + _ = _ from BitVec.zero_add _]

variable {maxFds : Nat} {fds : FdTable maxFds} {fd : Int} {entry : Fin maxFds} {iov : Nat → IoVec}
  {iovcnt : Int}

/-- Whatever the calls for the buffers come to, `readv` tells what was moved exactly if none of them
fails behind another that has moved its buffer, and not too much is moved; and so does `writev`,
where the sum of the lengths does not wrap around to zero. -/
theorem vectors_report_iff (found : fds.posixFdEntry fd = some entry) (some_vector : 0 < iovcnt)
    (few : iovcnt ≤ iovMax)
    (atMost : ∀ call ∈ outcomes results 0 ((List.range iovcnt.toNat).map iov),
      call.count ≤ call.vector.iovLen.toNat) :
    let vectors := (List.range iovcnt.toNat).map iov
    let written := sysWritev (recorded (scripted results)) fds fd (some iov) iovcnt (0, [])
    let read := sysReadv (recorded (scripted results)) fds fd (some iov) iovcnt (0, [])
    (Reports vectors written.2.2 written.1 ↔
      (vectors.map IoVec.iovLen).sum = 0 ∨ ProgressReported (outcomes results 0 vectors)) ∧
    (Reports vectors read.2.2 read.1 ↔ ProgressReported (outcomes results 0 vectors)) := by
  have moved := transferVectors_reports_iff results ((List.range iovcnt.toNat).map iov) atMost
  rw [sysWritev_eq found some_vector few, sysReadv_eq found some_vector few]
  refine ⟨?_, moved⟩
  dsimp only
  split_ifs with zero
  · exact iff_of_true ⟨fun _ => rfl, fun _ => rfl, List.nil_prefix⟩ (.inl zero)
  · rw [or_iff_right zero]
    exact moved

end Results

/-- The first buffer is moved, and the second has no address. -/
def oneThenNull (i : Nat) : IoVec where
  iovBase := if i = 0 then 1 else 0
  iovLen := 5

theorem oneThenNull_reports_iff :
    let vectors := (List.range (2 : Int).toNat).map oneThenNull
    let written := sysWritev (recorded (scripted fun _ => 5)) (FdTable.initial : FdTable 128) 1
      (some oneThenNull) 2 (0, [])
    let read := sysReadv (recorded (scripted fun _ => 5)) (FdTable.initial : FdTable 128) 1
      (some oneThenNull) 2 (0, [])
    (Reports vectors written.2.2 written.1 ↔
      (vectors.map IoVec.iovLen).sum = 0 ∨ ProgressReported (outcomes (fun _ => 5) 0 vectors)) ∧
    (Reports vectors read.2.2 read.1 ↔ ProgressReported (outcomes (fun _ => 5) 0 vectors)) := by
  have found : (FdTable.initial : FdTable 128).posixFdEntry 1 = some 1 := rfl
  exact vectors_report_iff found (by decide) (by decide) (by decide)

/-- The five bytes of the first buffer are moved, and the result is an error. -/
theorem oneThenNull_not_reported :
    let vectors := (List.range (2 : Int).toNat).map oneThenNull
    let written := sysWritev (recorded (scripted fun _ => 5)) (FdTable.initial : FdTable 128) 1
      (some oneThenNull) 2 (0, [])
    let read := sysReadv (recorded (scripted fun _ => 5)) (FdTable.initial : FdTable 128) 1
      (some oneThenNull) 2 (0, [])
    ¬ Reports vectors written.2.2 written.1 ∧ ¬ Reports vectors read.2.2 read.1 := by
  refine ⟨fun reports => ?_, fun reports => ?_⟩
  · exact absurd (reports.failed (by decide)) (by decide)
  · exact absurd (reports.failed (by decide)) (by decide)

end LionsOS.Posix

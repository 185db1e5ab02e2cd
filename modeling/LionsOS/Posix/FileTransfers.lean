/-
This file is about the loop by which files are read and written, a buffer of the share
at a time. Each round goes on where the one before has ended, in the file as in the
memory of the program, and the first one that moves less than it should is the last. So
with a file server that reads and writes as `pread` and `pwrite` do, a call moves one
range of the file to or from one range of the memory.
-/

import LionsOS.Posix.FileCalls

namespace LionsOS.Posix

open Bytes
open Fs (FsBuffer fsStatusSuccess)

/-! ### Rounds -/

/-- A round of the loop: which part of the transfer it is for, and how much of it is moved. -/
structure Round where
  start : Nat
  size : Nat
  count : Nat

def movedBy (rounds : List Round) : Nat :=
  (rounds.map Round.count).sum

@[simp]
theorem movedBy_nil : movedBy [] = 0 := rfl

theorem movedBy_append (earlier later : List Round) :
    movedBy (earlier ++ later) = movedBy earlier + movedBy later := by
  unfold movedBy
  rw [List.map_append, List.sum_append]

theorem movedBy_snoc (earlier : List Round) (round : Round) :
    movedBy (earlier ++ [round]) = movedBy earlier + round.count := by
  rw [movedBy_append]
  rfl

/-- How much a round should move when so much is left. -/
def roundSize (left : Nat) : Nat :=
  min left Fs.fsBufferSize

theorem roundSize_le (left : Nat) : roundSize left ≤ left :=
  Nat.min_le_left _ _

theorem roundSize_le_fsBufferSize (left : Nat) : roundSize left ≤ Fs.fsBufferSize :=
  Nat.min_le_right _ _

theorem roundSize_pos {left : Nat} (more : left ≠ 0) : 0 < roundSize left :=
  lt_min (Nat.pos_of_ne_zero more) (by decide)

/-- The rounds that move what is left of a transfer: each but the last moves all it should. -/
inductive Rounds : Nat → Nat → List Round → Prop
  | done {start : Nat} : Rounds start 0 []
  | short {start left count : Nat} (less : count < roundSize left) :
      Rounds start left [⟨start, roundSize left, count⟩]
  | full {start left : Nat} {rest : List Round} (more : left ≠ 0)
      (rounds : Rounds (start + roundSize left) (left - roundSize left) rest) :
      Rounds start left (⟨start, roundSize left, roundSize left⟩ :: rest)

/-! ### The loop -/

namespace FileClient

variable {Server : Type} {maxFds : Nat}
  {chunk : FileClient Server maxFds → Completion → UInt64T → Nat → Nat → Transfer Server maxFds}
  {Inv : List Round → FileClient Server maxFds → Prop}
  {Failed : List Round → Int → FileClient Server maxFds → Prop} {buf len : Nat}
  {earlier : List Round}

/-- What a round of the loop does, after some other rounds that have each moved a whole buffer: it
fails, or moves at most as much as it should. -/
def RoundStep
    (chunk : FileClient Server maxFds → Completion → UInt64T → Nat → Nat → Transfer Server maxFds)
    (Inv : List Round → FileClient Server maxFds → Prop)
    (Failed : List Round → Int → FileClient Server maxFds → Prop) (buf len : Nat) : Prop :=
  ∀ (earlier : List Round) (client : FileClient Server maxFds) (completion : Completion),
    Inv earlier client → (∀ round ∈ earlier, round.count = Fs.fsBufferSize) →
    movedBy earlier < len →
    let size := roundSize (len - movedBy earlier)
    match chunk client completion (BitVec.ofNat 64 (movedBy earlier)) (buf + movedBy earlier) size with
    | .failed result next => Failed earlier result next
    | .moved count next => count.toNat ≤ size ∧
        Inv (earlier ++ [⟨movedBy earlier, size, count.toNat⟩]) next

/-- What the loop comes to, for an invariant of its rounds. -/
def LoopEnd (Inv : List Round → FileClient Server maxFds → Prop)
    (Failed : List Round → Int → FileClient Server maxFds → Prop) (earlier : List Round)
    (len : Nat) : Transfer Server maxFds → Prop
  | .failed result next => ∃ later, Failed (earlier ++ later) result next
  | .moved total next => ∃ later, Rounds (movedBy earlier) (len - movedBy earlier) later ∧
      total = BitVec.ofNat 64 (movedBy (earlier ++ later)) ∧ Inv (earlier ++ later) next

theorem LoopEnd.cons {round : Round} {transfer : Transfer Server maxFds}
    (ended : LoopEnd Inv Failed (earlier ++ [round]) len transfer)
    (start : round.start = movedBy earlier) (size : round.size = roundSize (len - movedBy earlier))
    (count : round.count = roundSize (len - movedBy earlier)) (more : movedBy earlier < len) :
    LoopEnd Inv Failed earlier len transfer := by
  have next : movedBy (earlier ++ [round]) = movedBy earlier + roundSize (len - movedBy earlier) :=
    (movedBy_snoc _ _).trans (congrArg _ count)
  cases transfer with
  | failed result client =>
    obtain ⟨later, failed⟩ := ended
    rw [List.append_assoc] at failed
    exact ⟨round :: later, failed⟩
  | moved total client =>
    obtain ⟨later, rounds, same, inv⟩ := ended
    rw [List.append_assoc] at same inv
    refine ⟨round :: later, ?_, same, inv⟩
    have all : round = ⟨movedBy earlier, roundSize (len - movedBy earlier),
        roundSize (len - movedBy earlier)⟩ := by
      cases round
      cases start
      cases size
      cases count
      rfl
    rw [next, Nat.sub_add_eq] at rounds
    rw [all]
    exact .full (Nat.sub_ne_zero_of_lt more) rounds

/-- The rounds of the loop keep an invariant that each of them keeps. -/
theorem chunkLoop_end (step : RoundStep chunk Inv Failed buf len)
    {client : FileClient Server maxFds} (inv : Inv earlier client) (within : movedBy earlier ≤ len)
    (whole : movedBy earlier < len → ∀ round ∈ earlier, round.count = Fs.fsBufferSize)
    (completions : Nat → Completion) :
    LoopEnd Inv Failed earlier len (chunkLoop chunk completions
      (BitVec.ofNat 64 (movedBy earlier)) (buf + movedBy earlier) (len - movedBy earlier)
      client) := by
  -- The induction is on what is left, which gets less with every round that goes on.
  induction left : len - movedBy earlier using Nat.strong_induction_on
    generalizing earlier client completions with
  | _ left inductionHypothesis =>
    rw [chunkLoop]
    split_ifs with none
    · refine ⟨[], ?_, by rw [List.append_nil], by rwa [List.append_nil]⟩
      rw [← left] at none
      rw [none]
      exact .done
    · have more : movedBy earlier < len := by omega
      have stepped := step earlier client (completions 0) inv (whole more) more
      rw [← left] at none ⊢
      dsimp only at stepped ⊢
      rw [← roundSize]
      cases outcome : chunk client (completions 0) (BitVec.ofNat 64 (movedBy earlier))
        (buf + movedBy earlier) (roundSize (len - movedBy earlier)) with
      | failed result next =>
        rw [outcome] at stepped
        exact ⟨[], by rwa [List.append_nil]⟩
      | moved count next =>
        rw [outcome] at stepped
        obtain ⟨atMost, inv⟩ := stepped
        dsimp only
        have total : BitVec.ofNat 64 (movedBy earlier) + count =
            BitVec.ofNat 64 (movedBy (earlier ++
              [⟨movedBy earlier, roundSize (len - movedBy earlier), count.toNat⟩])) := by
          rw [movedBy_snoc, BitVec.ofNat_add, BitVec.ofNat_toNat, BitVec.setWidth_eq]
        rw [total]
        split_ifs with less
        · exact ⟨[_], .short less, rfl, inv⟩
        · have full : count.toNat = roundSize (len - movedBy earlier) :=
            Nat.le_antisymm atMost (Nat.le_of_not_lt less)
          have size := roundSize_le (len - movedBy earlier)
          have positive := roundSize_pos none
          have moved : movedBy (earlier ++
              [⟨movedBy earlier, roundSize (len - movedBy earlier), count.toNat⟩]) =
                movedBy earlier + roundSize (len - movedBy earlier) :=
            (movedBy_snoc _ _).trans (congrArg _ full)
          have rest := inductionHypothesis _ (by rw [moved]; omega) inv (by rw [moved]; omega)
            (fun going => ?_) (fun round => completions (round + 1)) rfl
          swap
          · rw [moved] at going
            refine List.forall_mem_append.mpr ⟨whole more, List.forall_mem_singleton.mpr ?_⟩
            refine full.trans ?_
            unfold roundSize at going ⊢
            omega
          rw [moved, ← Nat.add_assoc, Nat.sub_add_eq] at rest
          rw [moved]
          exact rest.cons rfl rfl full more

/-! ### The calls -/

variable {client next : FileClient Server maxFds} {entry : Fin maxFds} {fd : Int}

/-- The outcome of a call, with a buffer that is taken for it. -/
def outcomeOf (entry : Fin maxFds) (i : Nat) :
    Transfer Server maxFds → Int × FileClient Server maxFds
  | .failed result next => (result, next.freed i)
  | .moved total next =>
    (total.toInt, (next.freed i).setFilePtr entry (next.filePtr entry + total))

/-- The buffers in use when a transfer comes to its end. -/
def usedAfter : Transfer Server maxFds → Nat → Bool
  | .failed _ next => next.buffers.used
  | .moved _ next => next.buffers.used

/-- What a call comes to when a descriptor and a buffer are found: the buffer is given back. -/
theorem fileTransfer_eq (chunks : FileClient Server maxFds → Fin maxFds → Nat → Completion →
    UInt64T → Nat → Nat → Transfer Server maxFds) (completions : Nat → Completion)
    (notNull : buf ≠ 0) (notEmpty : len ≠ 0)
    (found : client.fds.posixFdEntry fd = some entry) (room : client.fsBufferAllocate.isSome) :
    ∃ i < Fs.numBuffers, client.buffers.used i = false ∧
      ∀ transfer, chunkLoop (fun client => chunks client entry (i * Fs.fsBufferSize)) completions 0
          buf len (client.holding i) = transfer → usedAfter transfer i = true →
        client.fileTransfer chunks completions buf len fd = some (outcomeOf entry i transfer) := by
  obtain ⟨⟨buffer, allocated⟩, taken⟩ := Option.isSome_iff_exists.mp room
  obtain ⟨i, small, unused, rfl, rfl⟩ := fsBufferAllocate_eq_some taken
  refine ⟨i, small, unused, fun transfer looped used => ?_⟩
  unfold fileTransfer
  rw [if_neg notEmpty, if_neg notNull, found, taken]
  dsimp only
  rw [looped]
  cases transfer with
  | failed result next | moved total next =>
    dsimp only
    rw [fsBufferFree_of_used small used]
    rfl

end FileClient

/-! ### Servers that keep a record -/

/-- A command that was issued, and what the server has answered. -/
structure Exchange where
  command : FsCommand
  completion : Completion

/-- The server keeps a record of what it is asked. -/
def FileEnv.recording {Server : Type} (env : FileEnv Server) : FileEnv (Server × List Exchange) where
  available server := env.available server.1
  answer command share server :=
    let answered := env.answer command share server.1
    { completion := answered.completion
      share := answered.share
      server := (answered.server, server.2 ++ [⟨command, answered.completion⟩]) }
  behindErrnos := env.behindErrnos
  protocol command share server := env.protocol command share server.1

end LionsOS.Posix

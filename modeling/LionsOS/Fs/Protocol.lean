/-
This file embeds the message queues of the file system protocol of `protocol.h`.
Producer and consumer keep running 64-bit positions; a message's slot is its
position modulo the capacity. What is written beyond the published tail, or read
beyond the published head, is known to its side alone until it is published.
-/

import LionsOS.Words
import Mathlib.Data.Nat.ModEq
import Mathlib.Logic.Function.Basic

namespace LionsOS.Fs

/-! ### Messages and queues -/

def fsQueueCapacity : Nat := 511

theorem fsQueueCapacity_pos : 0 < fsQueueCapacity := by decide

/-- `FS_NUM_COMMANDS`: command types below it are those of the protocol. -/
def fsNumCommands : UInt64T := 20

structure FsCmd where
  id : UInt64T
  type : UInt64T
  params : Fin 48 → UInt8T

structure FsCmpl where
  id : UInt64T
  status : UInt64T
  data : UInt64T

structure FsQueue (Msg : Type) where
  head : UInt64T
  tail : UInt64T
  buffer : Fin fsQueueCapacity → Msg

variable {Msg : Type} {ahead behind advance : UInt64T}

def fsQueueLengthConsumer (queue : FsQueue Msg) : UInt64T :=
  queue.tail - queue.head

def fsQueueLengthProducer (queue : FsQueue Msg) : UInt64T :=
  queue.tail - queue.head

/-- The slot of a position. -/
def slotAt (position : UInt64T) : Fin fsQueueCapacity :=
  ⟨position.toNat % fsQueueCapacity, Nat.mod_lt _ (by decide)⟩

def fsQueueIdxFilled (queue : FsQueue Msg) (index : UInt64T) : Fin fsQueueCapacity :=
  slotAt (queue.head + index)

def fsQueueIdxEmpty (queue : FsQueue Msg) (index : UInt64T) : Fin fsQueueCapacity :=
  slotAt (queue.tail + index)

def fsQueuePublishConsumption (queue : FsQueue Msg) (amountConsumed : UInt64T) : FsQueue Msg :=
  { queue with head := queue.head + amountConsumed }

def fsQueuePublishProduction (queue : FsQueue Msg) (amountProduced : UInt64T) : FsQueue Msg :=
  { queue with tail := queue.tail + amountProduced }

/-- Write a message to a slot. -/
def FsQueue.write (queue : FsQueue Msg) (slot : Fin fsQueueCapacity) (message : Msg) :
    FsQueue Msg :=
  { queue with buffer := Function.update queue.buffer slot message }

/-! ### Lengths -/

theorem toNat_add_sub (small : (ahead - behind).toNat + advance.toNat < 2 ^ 64) :
    (ahead + advance - behind).toNat = (ahead - behind).toNat + advance.toNat := by
  rw [← BitVec.sub_add_comm, BitVec.toNat_add, Nat.mod_eq_of_lt small]

theorem toNat_sub_add (enough : advance ≤ ahead - behind) :
    (ahead - (behind + advance)).toNat = (ahead - behind).toNat - advance.toNat := by
  rw [← BitVec.sub_sub, BitVec.toNat_sub_of_le enough]

/-! ### Slots -/

theorem slotAt_ne {first second : UInt64T} (before : first.toNat < second.toNat)
    (near : second.toNat < first.toNat + fsQueueCapacity) : slotAt first ≠ slotAt second := by
  intro same
  have congruent : first.toNat ≡ second.toNat [MOD fsQueueCapacity] := Fin.mk.inj same
  have divides := (Nat.modEq_iff_dvd' before.le).mp congruent
  have positive : 0 < second.toNat - first.toNat := Nat.sub_pos_of_lt before
  exact absurd (Nat.le_of_dvd positive divides)
    (Nat.not_le.mpr (Nat.sub_lt_left_of_lt_add before.le near))

/-- What is written behind `index` other unpublished messages goes to a slot of none of the messages
that are still to be consumed, as long as these are fewer than the slots and the positions have not
gone round. -/
theorem fsQueueIdxEmpty_ne_fsQueueIdxFilled {queue : FsQueue Msg} {index : UInt64T}
    (ordered : queue.head.toNat ≤ queue.tail.toNat)
    (straight : queue.tail.toNat + index.toNat < 2 ^ 64)
    (room : (fsQueueLengthProducer queue).toNat + index.toNat < fsQueueCapacity)
    (unconsumed : ahead.toNat < (fsQueueLengthProducer queue).toNat + index.toNat) :
    fsQueueIdxEmpty queue index ≠ fsQueueIdxFilled queue ahead := by
  have length : (fsQueueLengthProducer queue).toNat = queue.tail.toNat - queue.head.toNat :=
    BitVec.toNat_sub_of_le ordered
  have written : (queue.tail + index).toNat = queue.tail.toNat + index.toNat := by
    rw [BitVec.toNat_add, Nat.mod_eq_of_lt straight]
  have before : queue.head.toNat + ahead.toNat < queue.tail.toNat + index.toNat := by omega
  have kept : (queue.head + ahead).toNat = queue.head.toNat + ahead.toNat := by
    rw [BitVec.toNat_add, Nat.mod_eq_of_lt (Nat.lt_trans before straight)]
  refine (slotAt_ne ?_ ?_).symm
  · rw [written, kept]
    exact before
  · omega

end LionsOS.Fs

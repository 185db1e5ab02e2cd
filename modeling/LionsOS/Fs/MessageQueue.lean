/-
This file proves that a message queue between one producer and one consumer is
first in, first out. Each side checks the length once for a batch, deals with the
messages of the batch in any order and then publishes it; the other side runs at
any point between. Histories of what was published on either side are kept
beside the queue, and the slots hold the published messages that are not yet
consumed.
-/

import LionsOS.Fs.Protocol
import LionsOS.Lib.RingBuffer
import LionsOS.Lib.Runs

open Function

namespace LionsOS.Fs

open StepRun Option

variable {Msg : Type} {amount : UInt64T}

variable {items : List Msg} {index : UInt64T} {position : Nat}

/-! ### Batches -/

/-- Messages that one side has written or read, by index, and not yet published. -/
structure Batch (Msg : Type) where
  amount : UInt64T
  messages : Nat → Option Msg

namespace Batch

def start (amount : UInt64T) : Batch Msg :=
  { amount, messages := fun _ => none }

def put (batch : Batch Msg) (index : UInt64T) (message : Msg) : Batch Msg :=
  { batch with messages := update batch.messages index.toNat (some message) }

/-- All messages of the batch, once each has been dealt with. -/
def all (batch : Batch Msg) : Option (List Msg) :=
  if complete : ∀ index < batch.amount.toNat, (batch.messages index).isSome then
    some (List.ofFn fun index : Fin batch.amount.toNat =>
      (batch.messages index).get (complete index index.isLt))
  else none

variable {batch : Batch Msg}

theorem length_of_all (all : batch.all = some items) : items.length = batch.amount.toNat := by
  unfold Batch.all at all
  split at all
  case isTrue => rw [← Option.some.inj all, List.length_ofFn]
  case isFalse => cases all

theorem messages_of_all (all : batch.all = some items) {index : Nat} {item : Msg}
    (found : items[index]? = some item) : batch.messages index = some item := by
  unfold Batch.all at all
  split at all
  case isTrue complete =>
    rw [← Option.some.inj all, List.getElem?_ofFn, Option.dite_none_right_eq_some] at found
    obtain ⟨_, value⟩ := found
    rw [← Option.some.inj value, Option.some_get]
  case isFalse => cases all

theorem messages_put {message other : Msg}
    (found : (batch.put index message).messages position = some other) :
    (position = index.toNat ∧ other = message) ∨
      (position ≠ index.toNat ∧ batch.messages position = some other) := by
  have found : update batch.messages index.toNat (some message) position = some other :=
    found
  rcases eq_or_ne position index.toNat with rfl | different
  · rw [update_self] at found
    exact Or.inl ⟨rfl, (some.inj found).symm⟩
  · rw [update_of_ne different] at found
    exact Or.inr ⟨different, found⟩

end Batch

/-! ### Producer and consumer -/

/-- A queue with what each side is doing and what it has published so far, oldest first. -/
structure QueueSystem (Msg : Type) where
  queue : FsQueue Msg
  writing : Option (Batch Msg)
  reading : Option (Batch Msg)
  produced : List Msg
  consumed : List Msg

inductive QueueEvent (Msg : Type)
  | beginProduction (amount : UInt64T)
  | write (index : UInt64T) (message : Msg)
  | publishProduction
  | beginConsumption (amount : UInt64T)
  | read (index : UInt64T)
  | publishConsumption

namespace QueueSystem

variable {event : QueueEvent Msg}

/-- A queue that has never been used. -/
def initial (buffer : Fin fsQueueCapacity → Msg) : QueueSystem Msg :=
  { queue := { head := 0, tail := 0, buffer }, writing := none, reading := none, produced := [],
    consumed := [] }

/-- One step of either side, unless that side may not take it. -/
def perform (system : QueueSystem Msg) : QueueEvent Msg → Option (QueueSystem Msg)
  | .beginProduction amount =>
    if system.writing.isNone ∧
        (fsQueueLengthProducer system.queue + amount).toNat ≤ fsQueueCapacity then
      some { system with writing := some (Batch.start amount) }
    else none
  | .write index message =>
    system.writing.bind fun batch =>
      if index.toNat < batch.amount.toNat then
        some { system with
          queue := system.queue.write (fsQueueIdxEmpty system.queue index) message
          writing := some (batch.put index message) }
      else none
  | .publishProduction =>
    system.writing.bind fun batch => batch.all.map fun items =>
      { system with
        queue := fsQueuePublishProduction system.queue batch.amount
        writing := none
        produced := system.produced ++ items }
  | .beginConsumption amount =>
    if system.reading.isNone ∧ amount.toNat ≤ (fsQueueLengthConsumer system.queue).toNat then
      some { system with reading := some (Batch.start amount) }
    else none
  | .read index =>
    system.reading.bind fun batch =>
      if index.toNat < batch.amount.toNat then
        some { system with
          reading := some (batch.put index
            (system.queue.buffer (fsQueueIdxFilled system.queue index))) }
      else none
  | .publishConsumption =>
    system.reading.bind fun batch => batch.all.map fun items =>
      { system with
        queue := fsQueuePublishConsumption system.queue batch.amount
        reading := none
        consumed := system.consumed ++ items }

def QueueStep (system : QueueSystem Msg) (event : QueueEvent Msg) (next : QueueSystem Msg) : Prop :=
  system.perform event = some next

/-- How many messages have been produced or are being produced. -/
def messages (system : QueueSystem Msg) : Nat :=
  system.produced.length + system.writing.elim 0 fun batch => batch.amount.toNat

/-- The queue as its users see it. -/
structure FirstInFirstOut (system : QueueSystem Msg) : Prop where
  inOrder : system.consumed <+: system.produced
  length : system.consumed.length + (fsQueueLengthConsumer system.queue).toNat =
    system.produced.length
  bounded : (fsQueueLengthConsumer system.queue).toNat ≤ fsQueueCapacity
  filled : ∀ index : UInt64T, index.toNat < (fsQueueLengthConsumer system.queue).toNat →
    system.produced[system.consumed.length + index.toNat]? =
      some (system.queue.buffer (fsQueueIdxFilled system.queue index))
  seen : ∀ batch ∈ system.reading, ∀ index message, batch.messages index = some message →
    system.produced[system.consumed.length + index]? = some message
  untouched : ∀ batch ∈ system.writing, ∀ index : UInt64T, index.toNat < batch.amount.toNat →
    ∀ ahead : UInt64T, ahead.toNat < (fsQueueLengthConsumer system.queue).toNat →
      fsQueueIdxEmpty system.queue index ≠ fsQueueIdxFilled system.queue ahead

/-! ### Positions -/

/-- The slot of a position in the history of the queue. -/
def slotOfPosition (position : Nat) : Fin fsQueueCapacity :=
  ⟨position % fsQueueCapacity, Nat.mod_lt _ (by decide)⟩

theorem apart_slotOfPosition : RingBuffer.Apart slotOfPosition fsQueueCapacity := by
  intro early late before near same
  refine RingBuffer.apart_mod 0 fsQueueCapacity early late before near ?_
  simp only [Nat.zero_add]
  exact Fin.mk.inj same

theorem slotAt_ofNat_add (straight : position + index.toNat < 2 ^ 64) :
    slotAt (BitVec.ofNat 64 position + index) = slotOfPosition (position + index.toNat) := by
  have value : (BitVec.ofNat 64 position + index).toNat = position + index.toNat := by
    rw [BitVec.toNat_add, BitVec.toNat_ofNat, Nat.mod_add_mod, Nat.mod_eq_of_lt straight]
  unfold slotAt slotOfPosition
  rw [Fin.mk.injEq, value]

/-- The counters follow the histories, the batches keep within what was checked, and the slots hold
what has been produced and not consumed. -/
structure Sound (system : QueueSystem Msg) : Prop where
  head : system.queue.head = BitVec.ofNat 64 system.consumed.length
  tail : system.queue.tail = BitVec.ofNat 64 system.produced.length
  inOrder : system.consumed <+: system.produced
  room : system.messages ≤ system.consumed.length + fsQueueCapacity
  enough : ∀ batch ∈ system.reading,
    system.consumed.length + batch.amount.toNat ≤ system.produced.length
  holds : RingBuffer.Holds slotOfPosition system.queue.buffer system.consumed.length system.produced
  written : ∀ batch ∈ system.writing, ∀ index message, batch.messages index = some message →
    index < batch.amount.toNat ∧
      system.queue.buffer (slotOfPosition (system.produced.length + index)) = message
  seen : ∀ batch ∈ system.reading, ∀ index message, batch.messages index = some message →
    system.produced[system.consumed.length + index]? = some message

variable {system next : QueueSystem Msg}

theorem sound_initial (buffer : Fin fsQueueCapacity → Msg) : (initial buffer).Sound where
  head := rfl
  tail := rfl
  inOrder := List.prefix_rfl
  room := Nat.zero_le _
  enough := fun _ none => nomatch none
  holds := RingBuffer.Holds.nil
  written := fun _ none => nomatch none
  seen := fun _ none => nomatch none

/-! ### Lengths and slots of a sound system -/

namespace Sound

variable {batch : Batch Msg}

theorem consumed_le (sound : system.Sound) : system.consumed.length ≤ system.produced.length :=
  sound.inOrder.length_le

theorem produced_le (system : QueueSystem Msg) : system.produced.length ≤ system.messages :=
  Nat.le_add_right _ _

section

variable (sound : system.Sound)
include sound

theorem length (few : system.produced.length < 2 ^ 64) :
    (fsQueueLengthConsumer system.queue).toNat =
      system.produced.length - system.consumed.length := by
  have near : system.produced.length - system.consumed.length < 2 ^ 64 :=
    Nat.lt_of_le_of_lt (Nat.sub_le _ _) few
  have difference := RingBuffer.toNat_counter_sub (BitVec.ofNat 64 0) sound.consumed_le near
  rw [BitVec.zero_add, BitVec.zero_add] at difference
  rw [fsQueueLengthConsumer, sound.head, sound.tail, difference]

theorem idxEmpty (writing : system.writing = some batch) (few : system.messages < 2 ^ 64)
    (inside : index.toNat < batch.amount.toNat) :
    fsQueueIdxEmpty system.queue index = slotOfPosition (system.produced.length + index.toNat) := by
  rw [messages, writing] at few
  rw [fsQueueIdxEmpty, sound.tail]
  exact slotAt_ofNat_add (Nat.lt_trans (Nat.add_lt_add_left inside _) few)

theorem idxFilled (few : system.messages < 2 ^ 64)
    (inside : system.consumed.length + index.toNat < system.produced.length) :
    fsQueueIdxFilled system.queue index =
      slotOfPosition (system.consumed.length + index.toNat) := by
  rw [fsQueueIdxFilled, sound.head]
  exact slotAt_ofNat_add (inside.trans (Nat.lt_of_le_of_lt (produced_le system) few))

section

variable (writing : system.writing = some batch) {index : Nat} (inside : index < batch.amount.toNat)
include writing inside

theorem ahead_lt : system.produced.length + index < system.consumed.length + fsQueueCapacity := by
  have room := sound.room
  rw [messages, writing] at room
  exact Nat.lt_of_lt_of_le (Nat.add_lt_add_left inside _) room

/-- A slot of the batch being written is that of no other position from the oldest message still to
be consumed to the newest being written. -/
theorem apart (notYet : system.consumed.length ≤ position)
    (near : position < system.consumed.length + fsQueueCapacity)
    (different : position ≠ system.produced.length + index) :
    slotOfPosition position ≠ slotOfPosition (system.produced.length + index) :=
  apart_slotOfPosition.ne different notYet near (sound.consumed_le.trans (Nat.le_add_right _ _))
    (sound.ahead_lt writing inside)

end

/-- What can be read is the produced message of that position. -/
theorem filled (few : system.messages < 2 ^ 64)
    (inside : system.consumed.length + index.toNat < system.produced.length) :
    system.produced[system.consumed.length + index.toNat]? =
      some (system.queue.buffer (fsQueueIdxFilled system.queue index)) := by
  rw [sound.idxFilled few inside, List.getElem?_eq_getElem inside, Option.some.injEq]
  exact (sound.holds _ (Nat.le_add_right _ _) _ (List.getElem?_eq_getElem inside)).symm

/-! ### Steps -/

theorem beginProduction (few : system.produced.length + amount.toNat < 2 ^ 64)
    (room : (fsQueueLengthProducer system.queue + amount).toNat ≤ fsQueueCapacity) :
    { system with writing := some (Batch.start amount) : QueueSystem Msg }.Sound where
  head := sound.head
  tail := sound.tail
  inOrder := sound.inOrder
  room := by
    have fewBefore : system.produced.length < 2 ^ 64 :=
      Nat.lt_of_le_of_lt (Nat.le_add_right _ _) few
    have length := sound.length fewBefore
    have room : (fsQueueLengthConsumer system.queue + amount).toNat ≤ fsQueueCapacity := room
    rw [BitVec.toNat_add] at room
    show system.produced.length + amount.toNat ≤ system.consumed.length + fsQueueCapacity
    omega
  enough := sound.enough
  holds := sound.holds
  written := by
    rintro batch ⟨⟩ index message found
    cases found
  seen := sound.seen

theorem write (writing : system.writing = some batch) (few : system.messages < 2 ^ 64)
    (inside : index.toNat < batch.amount.toNat) (message : Msg) :
    { system with
      queue := system.queue.write (fsQueueIdxEmpty system.queue index) message
      writing := some (batch.put index message) : QueueSystem Msg }.Sound where
  head := sound.head
  tail := sound.tail
  inOrder := sound.inOrder
  room := by
    have room := sound.room
    rw [messages, writing] at room
    exact room
  enough := sound.enough
  holds := by
    rw [sound.idxEmpty writing few inside]
    exact sound.holds.write apart_slotOfPosition (Nat.le_add_right _ _)
      (sound.ahead_lt writing inside) message
  written := by
    rintro other ⟨⟩ position item found
    show position < batch.amount.toNat ∧ update system.queue.buffer _ message
      (slotOfPosition (system.produced.length + position)) = item
    rw [sound.idxEmpty writing few inside]
    rcases Batch.messages_put found with ⟨rfl, rfl⟩ | ⟨different, before⟩
    · exact ⟨inside, update_self _ _ _⟩
    · obtain ⟨positionInside, kept⟩ := sound.written batch writing position item before
      refine ⟨positionInside, ?_⟩
      rw [update_of_ne, kept]
      refine sound.apart writing inside (sound.consumed_le.trans (Nat.le_add_right _ _))
        (sound.ahead_lt writing positionInside) fun same => ?_
      exact different (Nat.add_left_cancel same)
  seen := sound.seen

theorem publishProduction (writing : system.writing = some batch) (all : batch.all = some items) :
    { system with
      queue := fsQueuePublishProduction system.queue batch.amount
      writing := none
      produced := system.produced ++ items : QueueSystem Msg }.Sound where
  head := sound.head
  tail := by
    show system.queue.tail + batch.amount = BitVec.ofNat 64 (system.produced ++ items).length
    rw [sound.tail, List.length_append, Batch.length_of_all all, BitVec.ofNat_add,
      BitVec.ofNat_toNat, BitVec.setWidth_eq]
  inOrder := sound.inOrder.trans (List.prefix_append _ _)
  room := by
    have room := sound.room
    rw [messages, writing] at room
    rw [messages, List.length_append, Batch.length_of_all all]
    exact room
  enough := by
    intro reader reading
    rw [List.length_append]
    exact (sound.enough reader reading).trans (Nat.le_add_right _ _)
  holds := by
    refine sound.holds.append fun index item found => ?_
    exact (sound.written batch writing index item (Batch.messages_of_all all found)).2
  written := fun _ none => nomatch none
  seen := by
    intro reader reading index message found
    have before := sound.seen reader reading index message found
    obtain ⟨inside, _⟩ := List.getElem?_eq_some_iff.mp before
    rw [List.getElem?_append_left inside, before]

theorem beginConsumption (few : system.messages < 2 ^ 64)
    (enough : amount.toNat ≤ (fsQueueLengthConsumer system.queue).toNat) :
    { system with reading := some (Batch.start amount) : QueueSystem Msg }.Sound where
  head := sound.head
  tail := sound.tail
  inOrder := sound.inOrder
  room := sound.room
  enough := by
    rintro batch ⟨⟩
    rw [sound.length ((produced_le system).trans_lt few)] at enough
    exact Nat.add_le_of_le_sub' sound.consumed_le enough
  holds := sound.holds
  written := sound.written
  seen := by
    rintro batch ⟨⟩ index message found
    cases found

theorem read (reading : system.reading = some batch) (few : system.messages < 2 ^ 64)
    (inside : index.toNat < batch.amount.toNat) :
    { system with
      reading := some (batch.put index
        (system.queue.buffer (fsQueueIdxFilled system.queue index))) : QueueSystem Msg }.Sound where
  head := sound.head
  tail := sound.tail
  inOrder := sound.inOrder
  room := sound.room
  enough := by
    rintro other ⟨⟩
    exact sound.enough batch reading
  holds := sound.holds
  written := sound.written
  seen := by
    rintro other ⟨⟩ position item found
    rcases Batch.messages_put found with ⟨rfl, rfl⟩ | ⟨_, before⟩
    · exact sound.filled few ((Nat.add_lt_add_left inside _).trans_le (sound.enough batch reading))
    · exact sound.seen batch reading position item before

end

theorem publishConsumption (sound : system.Sound) {batch : Batch Msg}
    (reading : system.reading = some batch) {items : List Msg} (all : batch.all = some items) :
    { system with
      queue := fsQueuePublishConsumption system.queue batch.amount
      reading := none
      consumed := system.consumed ++ items : QueueSystem Msg }.Sound where
  head := by
    show system.queue.head + batch.amount = BitVec.ofNat 64 (system.consumed ++ items).length
    rw [sound.head, List.length_append, Batch.length_of_all all, BitVec.ofNat_add,
      BitVec.ofNat_toNat, BitVec.setWidth_eq]
  tail := sound.tail
  inOrder := RingBuffer.prefix_append sound.inOrder fun index item found =>
    sound.seen batch reading index item (Batch.messages_of_all all found)
  room := by
    rw [List.length_append]
    exact sound.room.trans (Nat.add_le_add_right (Nat.le_add_right _ _) _)
  enough := fun _ none => nomatch none
  holds := by
    refine sound.holds.forget ?_
    rw [List.length_append]
    exact Nat.le_add_right _ _
  written := sound.written
  seen := fun _ none => nomatch none

end Sound

/-! ### Every run -/

theorem messages_le (step : QueueStep system event next) : system.messages ≤ next.messages := by
  cases event with
  | beginProduction amount =>
    obtain ⟨⟨idle, _⟩, ⟨⟩⟩ := ite_none_right_eq_some.mp step
    rw [messages, isNone_iff_eq_none.mp idle]
    exact Nat.le_add_right _ _
  | write index message =>
    obtain ⟨batch, writing, step⟩ := bind_eq_some_iff.mp step
    obtain ⟨_, ⟨⟩⟩ := ite_none_right_eq_some.mp step
    rw [messages, writing]
    exact le_rfl
  | publishProduction =>
    obtain ⟨batch, writing, step⟩ := bind_eq_some_iff.mp step
    obtain ⟨items, all, rfl⟩ := map_eq_some_iff.mp step
    rw [messages, writing, messages, List.length_append, Batch.length_of_all all]
    exact le_rfl
  | beginConsumption amount =>
    obtain ⟨_, ⟨⟩⟩ := ite_none_right_eq_some.mp step
    exact le_rfl
  | read index =>
    obtain ⟨batch, reading, step⟩ := bind_eq_some_iff.mp step
    obtain ⟨_, ⟨⟩⟩ := ite_none_right_eq_some.mp step
    exact le_rfl
  | publishConsumption =>
    obtain ⟨batch, reading, step⟩ := bind_eq_some_iff.mp step
    obtain ⟨items, all, rfl⟩ := map_eq_some_iff.mp step
    exact le_rfl

theorem Sound.step (sound : system.Sound) (step : QueueStep system event next)
    (few : next.messages < 2 ^ 64) : next.Sound := by
  have fewBefore : system.messages < 2 ^ 64 := Nat.lt_of_le_of_lt (messages_le step) few
  cases event with
  | beginProduction amount =>
    obtain ⟨⟨_, room⟩, ⟨⟩⟩ := Option.ite_none_right_eq_some.mp step
    exact sound.beginProduction few room
  | write index message =>
    obtain ⟨batch, writing, step⟩ := Option.bind_eq_some_iff.mp step
    obtain ⟨inside, ⟨⟩⟩ := Option.ite_none_right_eq_some.mp step
    exact sound.write writing fewBefore inside message
  | publishProduction =>
    obtain ⟨batch, writing, step⟩ := Option.bind_eq_some_iff.mp step
    obtain ⟨items, all, rfl⟩ := Option.map_eq_some_iff.mp step
    exact sound.publishProduction writing all
  | beginConsumption amount =>
    obtain ⟨⟨_, enough⟩, ⟨⟩⟩ := Option.ite_none_right_eq_some.mp step
    exact sound.beginConsumption fewBefore enough
  | read index =>
    obtain ⟨batch, reading, step⟩ := Option.bind_eq_some_iff.mp step
    obtain ⟨inside, ⟨⟩⟩ := Option.ite_none_right_eq_some.mp step
    exact sound.read reading fewBefore inside
  | publishConsumption =>
    obtain ⟨batch, reading, step⟩ := Option.bind_eq_some_iff.mp step
    obtain ⟨items, all, rfl⟩ := Option.map_eq_some_iff.mp step
    exact sound.publishConsumption reading all

theorem Sound.run {buffer : Fin fsQueueCapacity → Msg} {events : List (QueueEvent Msg)}
    (run : Run QueueStep (initial buffer) events system) (few : system.messages < 2 ^ 64) :
    system.Sound := by
  induction run with
  | nil => exact sound_initial buffer
  | snoc _ last inductionHypothesis =>
    exact (inductionHypothesis (Nat.lt_of_le_of_lt (messages_le last) few)).step last few

theorem Sound.firstInFirstOut (sound : system.Sound) (few : system.messages < 2 ^ 64) :
    system.FirstInFirstOut where
  inOrder := sound.inOrder
  length := by
    rw [sound.length ((Sound.produced_le system).trans_lt few)]
    exact Nat.add_sub_cancel' sound.consumed_le
  bounded := by
    rw [sound.length ((Sound.produced_le system).trans_lt few)]
    exact Nat.sub_le_iff_le_add'.mpr ((Sound.produced_le system).trans sound.room)
  filled := by
    intro index inside
    rw [sound.length ((Sound.produced_le system).trans_lt few)] at inside
    exact sound.filled few (Nat.add_lt_of_lt_sub' inside)
  seen := sound.seen
  untouched := by
    intro batch writing index inside ahead unconsumed
    rw [sound.length ((Sound.produced_le system).trans_lt few)] at unconsumed
    have older := Nat.add_lt_of_lt_sub' unconsumed
    rw [sound.idxEmpty writing few inside, sound.idxFilled few older]
    refine (sound.apart writing inside (Nat.le_add_right _ _) ?_ ?_).symm
    · exact (older.trans_le (Nat.le_add_right _ _)).trans (sound.ahead_lt writing inside)
    · exact Nat.ne_of_lt (older.trans_le (Nat.le_add_right _ _))

/-- Whatever the batches and however the two sides interleave, in a run of fewer than `2 ^ 64`
messages the consumer reads the produced messages in order and once each, and no message is
overwritten before it is consumed. -/
theorem messages_first_in_first_out {buffer : Fin fsQueueCapacity → Msg}
    {events : List (QueueEvent Msg)} (run : Run QueueStep (initial buffer) events system)
    (few : system.messages < 2 ^ 64) : system.FirstInFirstOut :=
  (Sound.run run few).firstInFirstOut few

/-- Two messages are produced, the second slot first, and one of them is consumed between. -/
theorem messages_first_in_first_out_of_two :
    ∃ system : QueueSystem Nat, Run QueueStep (initial fun _ => 0)
          [.beginProduction 2, .write 1 8, .write 0 7, .publishProduction, .beginConsumption 1,
            .beginProduction 1, .read 0, .write 0 9, .publishConsumption] system ∧
        system.produced = [7, 8] ∧ system.consumed = [7] ∧ system.FirstInFirstOut := by
  have run : Run QueueStep (initial fun _ => 0)
      [.beginProduction 2, .write 1 8, .write 0 7, .publishProduction, .beginConsumption 1,
        .beginProduction 1, .read 0, .write 0 9, .publishConsumption] _ :=
    Run.of_foldlM (fun _ _ _ performed => performed) rfl
  exact ⟨_, run, rfl, rfl, messages_first_in_first_out run (by decide)⟩

end QueueSystem

end LionsOS.Fs

/-
This file embeds the firewall queue of `queue.h` as it lies in shared memory: two
free-running 64-bit indices and an array of entries of any size. The producer and
the consumer copy an entry byte by byte, and the other side runs between any two
bytes. It proves that the queue is first in, first out through every wrap of the
indices and that it refines the queue of outstanding entries, and that the length
it reports is right exactly while fewer than `2 ^ 16` entries are outstanding.
-/

import LionsOS.Firewall.Queue
import LionsOS.Lib.RingBuffer
import LionsOS.Lib.Runs

open Function

namespace LionsOS.Firewall

open StepRun

/-! ### The queue in memory -/

structure FwQueueIndeces where
  /-- index to insert at -/
  tail : UInt64T
  /-- index to remove from -/
  head : UInt64T

/-- The fields of `fw_queue_t` that do not change. The entries lie in the address space. -/
structure SharedQueue where
  entries : UInt64T
  entrySize : UInt64T
  capacity : UInt64T
  powerOfTwo : ∃ exponent, capacity.toNat = 2 ^ exponent
  fits : entries.toNat + capacity.toNat * entrySize.toNat ≤ 2 ^ 64

namespace SharedQueue

variable {memory : Nat → UInt8T}

/-- The bytes of one entry. -/
abbrev Entry (queue : SharedQueue) : Type :=
  Fin queue.entrySize.toNat → UInt8T

/-- The number of valid entries, in the 16 bits that the source returns. -/
def fwQueueLength (idx : FwQueueIndeces) : UInt16T :=
  (idx.tail - idx.head).setWidth 16

def fwQueueEmpty (idx : FwQueueIndeces) : Bool :=
  idx.tail - idx.head == 0

def fwQueueFull (queue : SharedQueue) (idx : FwQueueIndeces) : Bool :=
  idx.tail - idx.head == queue.capacity

/-- The address of the entry that an index stands for. -/
def entryAddress (queue : SharedQueue) (index : UInt64T) : UInt64T :=
  queue.entries + index % queue.capacity * queue.entrySize

/-- What `fw_enqueue` and `fw_dequeue` return. -/
inductive ReturnCode
  | success
  | failure
  deriving DecidableEq

/-- An entry on its way into the array. -/
structure Enqueuing (queue : SharedQueue) where
  entry : queue.Entry
  copied : Fin queue.entrySize.toNat → Bool

/-- The queue, the call each side is in, and what the calls before it have done. -/
structure System (queue : SharedQueue) where
  idx : FwQueueIndeces
  memory : Nat → UInt8T
  enqueuing : Option (Enqueuing queue)
  dequeuing : Option (Fin queue.entrySize.toNat → Option UInt8T)
  enqueueReturned : Option ReturnCode
  dequeueReturned : Option ReturnCode
  enqueued : List queue.Entry
  dequeued : List queue.Entry

inductive Event (queue : SharedQueue)
  | fwEnqueue (entry : queue.Entry)
  | copyIn (byte : Fin queue.entrySize.toNat)
  | enqueueDone
  | fwDequeue
  | copyOut (byte : Fin queue.entrySize.toNat)
  | dequeueDone

/-- All bytes of an entry, once each has been copied. -/
def copiedEntry {queue : SharedQueue} (copy : Fin queue.entrySize.toNat → Option UInt8T) :
    Option queue.Entry :=
  if complete : ∀ byte, (copy byte).isSome then some fun byte => (copy byte).get (complete byte)
  else none

variable {queue : SharedQueue}

variable {copy : Fin queue.entrySize.toNat → Option UInt8T} {entry : queue.Entry}

namespace System

/-- One step of either side, unless that side may not take it. A call reads the other side's index
once, where it checks for room or for an entry. -/
def perform (system : System queue) : Event queue → Option (System queue)
  | .fwEnqueue entry =>
    if system.enqueuing.isSome then none
    else if queue.fwQueueFull system.idx then
      some { system with enqueueReturned := some .failure }
    else
      some { system with
        enqueuing := some { entry, copied := fun _ => false }, enqueueReturned := none }
  | .copyIn byte =>
    system.enqueuing.map fun enqueuing =>
      { system with
        memory := update system.memory
          ((queue.entryAddress system.idx.tail).toNat + byte) (enqueuing.entry byte)
        enqueuing := some { enqueuing with
          copied := update enqueuing.copied byte true } }
  | .enqueueDone =>
    system.enqueuing.bind fun enqueuing =>
      if ∀ byte, enqueuing.copied byte then
        some { system with
          idx := { system.idx with tail := system.idx.tail + 1 }
          enqueuing := none
          enqueueReturned := some .success
          enqueued := system.enqueued ++ [enqueuing.entry] }
      else none
  | .fwDequeue =>
    if system.dequeuing.isSome then none
    else if fwQueueEmpty system.idx then
      some { system with dequeueReturned := some .failure }
    else some { system with dequeuing := some fun _ => none, dequeueReturned := none }
  | .copyOut byte =>
    system.dequeuing.map fun copy =>
      { system with
        dequeuing := some (update copy byte
          (some (system.memory ((queue.entryAddress system.idx.head).toNat + byte)))) }
  | .dequeueDone =>
    system.dequeuing.bind fun copy => (copiedEntry copy).map fun entry =>
      { system with
        idx := { system.idx with head := system.idx.head + 1 }
        dequeuing := none
        dequeueReturned := some .success
        dequeued := system.dequeued ++ [entry] }

def Step (system : System queue) (event : Event queue) (next : System queue) : Prop :=
  system.perform event = some next

/-- An empty queue, whose indices may already be anywhere. -/
def initial (queue : SharedQueue) (start : UInt64T) (memory : Nat → UInt8T) : System queue :=
  { idx := { tail := start, head := start }, memory, enqueuing := none, dequeuing := none,
    enqueueReturned := none, dequeueReturned := none, enqueued := [], dequeued := [] }

/-- How many entries are outstanding. -/
def outstanding (system : System queue) : Nat :=
  system.enqueued.length - system.dequeued.length

/-- The queue is first in, first out, its calls fail exactly on a full and on an empty queue, and
what it reports agrees with what is outstanding. -/
structure Agrees (system : System queue) : Prop where
  inOrder : system.dequeued <+: system.enqueued
  enqueueFails : ∀ entry next, Step system (.fwEnqueue entry) next →
    (next.enqueueReturned = some .failure ↔ system.outstanding = queue.capacity.toNat)
  dequeueFails : ∀ next, Step system .fwDequeue next →
    (next.dequeueReturned = some .failure ↔ system.outstanding = 0)
  full : queue.fwQueueFull system.idx = true ↔ system.outstanding = queue.capacity.toNat
  empty : fwQueueEmpty system.idx = true ↔ system.outstanding = 0
  length : (fwQueueLength system.idx).toNat = system.outstanding

end System

/-! ### Slots -/

/-- The slot of a position in the history of a queue whose indices began at `start`. -/
def slotOf (queue : SharedQueue) (start : UInt64T) (position : Nat) : Nat :=
  (start.toNat + position) % queue.capacity.toNat

theorem capacity_pos (queue : SharedQueue) : 0 < queue.capacity.toNat := by
  obtain ⟨exponent, power⟩ := queue.powerOfTwo
  rw [power]
  exact Nat.two_pow_pos exponent

theorem capacity_dvd (queue : SharedQueue) : queue.capacity.toNat ∣ 2 ^ 64 := by
  obtain ⟨exponent, power⟩ := queue.powerOfTwo
  have bounded : 2 ^ exponent < 2 ^ 64 := power ▸ queue.capacity.isLt
  rw [power]
  exact Nat.pow_dvd_pow 2 ((Nat.pow_lt_pow_iff_right Nat.one_lt_two).mp bounded).le

theorem slotOf_lt (start : UInt64T) (position : Nat) :
    queue.slotOf start position < queue.capacity.toNat :=
  Nat.mod_lt _ queue.capacity_pos

theorem index_mod_capacity (start : UInt64T) (position : Nat) :
    ((start + BitVec.ofNat 64 position) % queue.capacity).toNat = queue.slotOf start position := by
  rw [BitVec.toNat_umod, BitVec.toNat_add, BitVec.toNat_ofNat, Nat.add_mod_mod,
    Nat.mod_mod_of_dvd _ queue.capacity_dvd, slotOf]

theorem toNat_entryAddress (start : UInt64T) (position : Nat) :
    (queue.entryAddress (start + BitVec.ofNat 64 position)).toNat =
      queue.entries.toNat + queue.slotOf start position * queue.entrySize.toNat := by
  have fits := queue.fits
  have slot : (queue.slotOf start position + 1) * queue.entrySize.toNat ≤
      queue.capacity.toNat * queue.entrySize.toNat :=
    Nat.mul_le_mul_right _ (slotOf_lt start position)
  rw [Nat.add_mul] at slot
  have inside : queue.entries.toNat + queue.slotOf start position * queue.entrySize.toNat <
      2 ^ 64 := by
    have entries := queue.entries.isLt
    rcases Nat.eq_zero_or_pos queue.entrySize.toNat with none | some
    · rw [none]
      exact entries
    · omega
  rw [entryAddress, BitVec.toNat_add, BitVec.toNat_mul, index_mod_capacity,
    Nat.mod_eq_of_lt (Nat.lt_of_le_of_lt (Nat.le_add_left _ _) inside), Nat.mod_eq_of_lt inside]

/-- The entry in a slot of the array. -/
def entryIn (queue : SharedQueue) (memory : Nat → UInt8T) (slot : Nat) : queue.Entry := fun byte =>
  memory (queue.entries.toNat + slot * queue.entrySize.toNat + byte)

theorem byte_ne {size slot other : Nat} (different : slot ≠ other) (byte otherByte : Fin size) :
    slot * size + byte ≠ other * size + otherByte := by
  intro same
  have positive : 0 < size := Nat.lt_of_le_of_lt (Nat.zero_le _) byte.isLt
  have quotient := congrArg (· / size) same
  simp only [Nat.mul_comm _ size, Nat.mul_add_div positive, Nat.div_eq_of_lt byte.isLt,
    Nat.div_eq_of_lt otherByte.isLt] at quotient
  exact different quotient

/-- Writing a byte of one slot leaves every other slot alone. -/
theorem entryIn_update_of_ne {slot other : Nat} (different : other ≠ slot)
    (byte : Fin queue.entrySize.toNat) (value : UInt8T) :
    queue.entryIn (update memory
      (queue.entries.toNat + slot * queue.entrySize.toNat + byte) value) other =
        queue.entryIn memory other := by
  funext otherByte
  have apart : queue.entries.toNat + other * queue.entrySize.toNat + otherByte ≠
      queue.entries.toNat + slot * queue.entrySize.toNat + byte := by
    rw [Nat.add_assoc, Nat.add_assoc]
    exact fun same => byte_ne different otherByte byte (Nat.add_left_cancel same)
  exact update_of_ne apart _ _

theorem entryIn_update (memory : Nat → UInt8T) (slot : Nat) (byte : Fin queue.entrySize.toNat)
    (value : UInt8T) :
    queue.entryIn (update memory
      (queue.entries.toNat + slot * queue.entrySize.toNat + byte) value) slot =
        update (queue.entryIn memory slot) byte value := by
  funext otherByte
  rcases eq_or_ne otherByte byte with rfl | different
  · rw [update_self]
    exact update_self _ _ _
  · rw [update_of_ne different]
    exact update_of_ne (fun same => different (Fin.ext (Nat.add_left_cancel same))) _ _

theorem apart_slotOf (start : UInt64T) :
    RingBuffer.Apart (queue.slotOf start) queue.capacity.toNat :=
  RingBuffer.apart_mod start.toNat queue.capacity.toNat

theorem copiedEntry_eq_some :
    copiedEntry copy = some entry ↔ ∀ byte, copy byte = some (entry byte) := by
  unfold copiedEntry
  split
  case isTrue complete =>
    rw [Option.some.injEq, funext_iff]
    exact forall_congr' fun byte => (Option.eq_some_iff_get_eq.trans (exists_prop_of_true _)).symm
  case isFalse partly =>
    refine iff_of_false (by simp) fun all => partly fun byte => ?_
    rw [all byte, Option.isSome_some]

namespace System

variable {enqueuing : Enqueuing queue}

/-! ### The invariant -/

/-- The indices follow the histories, a call in progress has passed its check, and the slots hold
the outstanding entries. -/
structure Sound (start : UInt64T) (system : System queue) : Prop where
  tail : system.idx.tail = start + BitVec.ofNat 64 system.enqueued.length
  head : system.idx.head = start + BitVec.ofNat 64 system.dequeued.length
  inOrder : system.dequeued <+: system.enqueued
  bounded : system.enqueued.length ≤ system.dequeued.length + queue.capacity.toNat
  room : system.enqueuing.isSome →
    system.enqueued.length < system.dequeued.length + queue.capacity.toNat
  nonempty : system.dequeuing.isSome → system.dequeued.length < system.enqueued.length
  holds : RingBuffer.Holds (queue.slotOf start) (queue.entryIn system.memory)
    system.dequeued.length system.enqueued
  copiedIn : ∀ enqueuing ∈ system.enqueuing, ∀ byte, enqueuing.copied byte = true →
    queue.entryIn system.memory (queue.slotOf start system.enqueued.length) byte =
      enqueuing.entry byte
  copiedOut : ∀ copy ∈ system.dequeuing, ∀ byte value, copy byte = some value →
    ∀ entry, system.enqueued[system.dequeued.length]? = some entry → value = entry byte

variable {start : UInt64T} {system next : System queue}

theorem sound_initial (queue : SharedQueue) (start : UInt64T) (memory : Nat → UInt8T) :
    (initial queue start memory).Sound start where
  tail := (BitVec.add_zero start).symm
  head := (BitVec.add_zero start).symm
  inOrder := List.prefix_rfl
  bounded := Nat.zero_le _
  room := fun none => nomatch none
  nonempty := fun none => nomatch none
  holds := RingBuffer.Holds.nil
  copiedIn := fun _ none => nomatch none
  copiedOut := fun _ none => nomatch none

namespace Sound

section

variable (sound : system.Sound start)
include sound

theorem dequeued_le : system.dequeued.length ≤ system.enqueued.length :=
  sound.inOrder.length_le

theorem outstanding_le : system.outstanding ≤ queue.capacity.toNat :=
  Nat.sub_le_iff_le_add'.mpr sound.bounded

theorem difference : system.idx.tail - system.idx.head = BitVec.ofNat 64 system.outstanding := by
  have near : system.outstanding < 2 ^ 64 :=
    Nat.lt_of_le_of_lt sound.outstanding_le queue.capacity.isLt
  refine BitVec.eq_of_toNat_eq ?_
  rw [sound.tail, sound.head, RingBuffer.toNat_counter_sub start sound.dequeued_le near,
    BitVec.toNat_ofNat, Nat.mod_eq_of_lt near]
  rfl

theorem difference_eq_iff (value : UInt64T) :
    system.idx.tail - system.idx.head = value ↔ system.outstanding = value.toNat := by
  have near : system.outstanding < 2 ^ 64 :=
    Nat.lt_of_le_of_lt sound.outstanding_le queue.capacity.isLt
  rw [sound.difference, ← BitVec.toNat_inj, BitVec.toNat_ofNat, Nat.mod_eq_of_lt near]

theorem full_iff :
    queue.fwQueueFull system.idx = true ↔ system.outstanding = queue.capacity.toNat := by
  rw [fwQueueFull, beq_iff_eq, sound.difference_eq_iff]

theorem empty_iff : fwQueueEmpty system.idx = true ↔ system.outstanding = 0 := by
  rw [fwQueueEmpty, beq_iff_eq, sound.difference_eq_iff]
  rfl

/-- The reported length is what is outstanding modulo `2 ^ 16`. -/
theorem toNat_fwQueueLength : (fwQueueLength system.idx).toNat = system.outstanding % 2 ^ 16 := by
  rw [fwQueueLength, sound.difference, BitVec.toNat_setWidth, BitVec.toNat_ofNat,
    Nat.mod_mod_of_dvd _ (Nat.pow_dvd_pow 2 (by decide))]

/-- The slot that is being written is that of no outstanding entry. -/
theorem slot_ne (enqueuing : system.enqueuing.isSome) {position : Nat}
    (notYet : system.dequeued.length ≤ position) (older : position < system.enqueued.length) :
    queue.slotOf start position ≠ queue.slotOf start system.enqueued.length :=
  (apart_slotOf start).ne (Nat.ne_of_lt older) notYet (older.trans (sound.room enqueuing))
    sound.dequeued_le (sound.room enqueuing)

/-! ### Steps of the producer -/

theorem enqueueRefused :
    { system with enqueueReturned := some .failure : System queue }.Sound start :=
  { sound with }

theorem enqueueStarted (entry : queue.Entry) (notFull : ¬queue.fwQueueFull system.idx = true) :
    { system with
      enqueuing := some { entry, copied := fun _ => false }
      enqueueReturned := none : System queue }.Sound start :=
  { sound with
    room := by
      intro _
      have different := mt sound.full_iff.mpr notFull
      have less := Nat.lt_of_le_of_ne sound.outstanding_le different
      exact Nat.sub_lt_iff_lt_add' sound.dequeued_le |>.mp less
    copiedIn := by
      rintro enqueuing ⟨⟩ byte copied
      cases copied }

theorem copyIn (calling : system.enqueuing = some enqueuing) (byte : Fin queue.entrySize.toNat) :
    { system with
      memory := update system.memory
        ((queue.entryAddress system.idx.tail).toNat + byte) (enqueuing.entry byte)
      enqueuing := some { enqueuing with
        copied := update enqueuing.copied byte true } : System queue }.Sound start := by
  have active : system.enqueuing.isSome := by rw [calling, Option.isSome_some]
  rw [sound.tail, toNat_entryAddress]
  exact { sound with
    room := fun _ => sound.room active
    holds := sound.holds.congr fun position notYet older =>
      entryIn_update_of_ne (sound.slot_ne active notYet older) byte _
    copiedIn := by
      rintro after ⟨⟩ other copied
      rw [entryIn_update]
      rcases eq_or_ne other byte with rfl | different
      · exact update_self _ _ _
      · rw [update_of_ne different]
        have copied : update enqueuing.copied byte true other = true := copied
        rw [update_of_ne different] at copied
        exact sound.copiedIn enqueuing calling other copied }

theorem enqueueDone (calling : system.enqueuing = some enqueuing)
    (complete : ∀ byte, enqueuing.copied byte = true) :
    { system with
      idx := { system.idx with tail := system.idx.tail + 1 }
      enqueuing := none
      enqueueReturned := some .success
      enqueued := system.enqueued ++ [enqueuing.entry] : System queue }.Sound start where
  tail := by
    rw [List.length_append, ← RingBuffer.counter_add, sound.tail]
    rfl
  head := sound.head
  inOrder := sound.inOrder.trans (List.prefix_append _ _)
  bounded := by
    rw [List.length_append]
    exact sound.room (by rw [calling, Option.isSome_some])
  room := fun none => nomatch none
  nonempty := by
    intro active
    rw [List.length_append]
    exact Nat.lt_succ_of_lt (sound.nonempty active)
  holds := by
    refine sound.holds.append fun index entry found => ?_
    obtain ⟨rfl, rfl⟩ : index = 0 ∧ enqueuing.entry = entry := by
      rwa [List.getElem?_singleton, Option.ite_none_right_eq_some, Option.some.injEq] at found
    funext byte
    exact sound.copiedIn enqueuing calling byte (complete byte)
  copiedIn := fun _ none => nomatch none
  copiedOut := by
    intro copy active byte value copied entry found
    have older := sound.nonempty (by rw [active, Option.isSome_some])
    rw [List.getElem?_append_left older] at found
    exact sound.copiedOut copy active byte value copied entry found

/-! ### Steps of the consumer -/

theorem dequeueRefused :
    { system with dequeueReturned := some .failure : System queue }.Sound start :=
  { sound with }

theorem dequeueStarted (notEmpty : ¬fwQueueEmpty system.idx = true) :
    { system with
      dequeuing := some fun _ => none
      dequeueReturned := none : System queue }.Sound start :=
  { sound with
    nonempty := fun _ =>
      Nat.lt_of_sub_pos (Nat.pos_of_ne_zero (mt sound.empty_iff.mpr notEmpty))
    copiedOut := by
      rintro copy ⟨⟩ byte value copied
      cases copied }

section

variable (calling : system.dequeuing = some copy)
include calling

theorem copyOut (byte : Fin queue.entrySize.toNat) :
    { system with
      dequeuing := some (update copy byte
        (some (system.memory ((queue.entryAddress system.idx.head).toNat + byte)))) :
          System queue }.Sound start := by
  rw [sound.head, toNat_entryAddress]
  exact { sound with
    nonempty := fun _ => sound.nonempty (by rw [calling, Option.isSome_some])
    copiedOut := by
      rintro after ⟨⟩ other value copied entry found
      rcases eq_or_ne other byte with rfl | different
      · rw [update_self, Option.some.injEq] at copied
        have kept := sound.holds system.dequeued.length le_rfl entry found
        exact copied.symm.trans (congrFun kept other)
      · rw [update_of_ne different] at copied
        exact sound.copiedOut copy calling other value copied entry found }

theorem oldest (complete : copiedEntry copy = some entry) :
    system.enqueued[system.dequeued.length]? = some entry := by
  have older := sound.nonempty (by rw [calling, Option.isSome_some])
  rw [List.getElem?_eq_getElem older, Option.some.injEq]
  funext byte
  exact (sound.copiedOut copy calling byte _ (copiedEntry_eq_some.mp complete byte) _
    (List.getElem?_eq_getElem older)).symm

theorem dequeueDone (complete : copiedEntry copy = some entry) :
    { system with
      idx := { system.idx with head := system.idx.head + 1 }
      dequeuing := none
      dequeueReturned := some .success
      dequeued := system.dequeued ++ [entry] : System queue }.Sound start where
  tail := sound.tail
  head := by
    rw [List.length_append, ← RingBuffer.counter_add, sound.head]
    rfl
  inOrder := by
    refine RingBuffer.prefix_append sound.inOrder fun index item found => ?_
    obtain ⟨rfl, rfl⟩ : index = 0 ∧ entry = item := by
      rwa [List.getElem?_singleton, Option.ite_none_right_eq_some, Option.some.injEq] at found
    exact sound.oldest calling complete
  bounded := by
    rw [List.length_append]
    exact sound.bounded.trans (Nat.add_le_add_right (Nat.le_succ _) _)
  room := by
    intro active
    rw [List.length_append]
    exact (sound.room active).trans_le (Nat.add_le_add_right (Nat.le_succ _) _)
  nonempty := fun none => nomatch none
  holds := by
    refine sound.holds.forget ?_
    rw [List.length_append]
    exact Nat.le_succ _
  copiedIn := sound.copiedIn
  copiedOut := fun _ none => nomatch none

end

/-! ### Every run -/

theorem step {event : Event queue} (step : Step system event next) : next.Sound start := by
  cases event with
  | fwEnqueue entry =>
    simp only [Step, perform] at step
    split at step
    · cases step
    · split at step
      · cases step
        exact sound.enqueueRefused
      · rename_i notFull
        cases step
        exact sound.enqueueStarted entry notFull
  | copyIn byte =>
    obtain ⟨enqueuing, calling, ⟨⟩⟩ := Option.map_eq_some_iff.mp step
    exact sound.copyIn calling byte
  | enqueueDone =>
    obtain ⟨enqueuing, calling, step⟩ := Option.bind_eq_some_iff.mp step
    obtain ⟨complete, ⟨⟩⟩ := Option.ite_none_right_eq_some.mp step
    exact sound.enqueueDone calling complete
  | fwDequeue =>
    simp only [Step, perform] at step
    split at step
    · cases step
    · split at step
      · cases step
        exact sound.dequeueRefused
      · rename_i notEmpty
        cases step
        exact sound.dequeueStarted notEmpty
  | copyOut byte =>
    obtain ⟨copy, calling, ⟨⟩⟩ := Option.map_eq_some_iff.mp step
    exact sound.copyOut calling byte
  | dequeueDone =>
    obtain ⟨copy, calling, step⟩ := Option.bind_eq_some_iff.mp step
    obtain ⟨entry, complete, ⟨⟩⟩ := Option.map_eq_some_iff.mp step
    exact sound.dequeueDone calling complete

end

theorem run {events : List (Event queue)}
    (run : Run Step (initial queue start memory) events system) : system.Sound start :=
  run.invariant (Sound start) (sound_initial queue start memory)
    fun _ _ _ sound taken => sound.step taken

end Sound

theorem enqueueReturned_eq (step : Step system (.fwEnqueue entry) next) :
    next.enqueueReturned = some .failure ↔ queue.fwQueueFull system.idx = true := by
  simp only [Step, perform] at step
  split at step
  · cases step
  · split at step
    · rename_i full
      cases step
      exact iff_of_true rfl full
    · rename_i notFull
      cases step
      exact iff_of_false (by simp) notFull

theorem dequeueReturned_eq (step : Step system .fwDequeue next) :
    next.dequeueReturned = some .failure ↔ fwQueueEmpty system.idx = true := by
  simp only [Step, perform] at step
  split at step
  · cases step
  · split at step
    · rename_i empty
      cases step
      exact iff_of_true rfl empty
    · rename_i notEmpty
      cases step
      exact iff_of_false (by simp) notEmpty

theorem histories_of_fwEnqueue (step : Step system (.fwEnqueue entry) next) :
    next.enqueued = system.enqueued ∧ next.dequeued = system.dequeued := by
  simp only [Step, perform] at step
  split at step
  · cases step
  · split at step <;> cases step <;> exact ⟨rfl, rfl⟩

theorem histories_of_fwDequeue (step : Step system .fwDequeue next) :
    next.enqueued = system.enqueued ∧ next.dequeued = system.dequeued := by
  simp only [Step, perform] at step
  split at step
  · cases step
  · split at step <;> cases step <;> exact ⟨rfl, rfl⟩

/-- In every run, for every entry size, capacity and place where the indices begin, the queue is
first in, first out and its checks are exact; the length it reports is exact too if and only if
fewer than `2 ^ 16` entries are outstanding. -/
theorem agrees_iff_outstanding_lt {start : UInt64T} {memory : Nat → UInt8T}
    {events : List (Event queue)} (run : Run Step (initial queue start memory) events system) :
    system.Agrees ↔ system.outstanding < 2 ^ 16 := by
  have sound := Sound.run run
  constructor
  · intro agrees
    rw [← agrees.length]
    exact (fwQueueLength system.idx).isLt
  · intro few
    exact {
      inOrder := sound.inOrder
      enqueueFails := fun _ _ step => (enqueueReturned_eq step).trans sound.full_iff
      dequeueFails := fun _ step => (dequeueReturned_eq step).trans sound.empty_iff
      full := sound.full_iff
      empty := sound.empty_iff
      length := by rw [sound.toNat_fwQueueLength, Nat.mod_eq_of_lt few] }

/-! ### Filling a queue -/

/-- Single bytes from address zero on, in as many slots as the 16-bit length has values. -/
def bytes : SharedQueue :=
  { entries := 0, entrySize := 1, capacity := 65536
    powerOfTwo := ⟨16, rfl⟩
    fits := by decide }

def onlyByte : Fin bytes.entrySize.toNat :=
  ⟨0, by decide⟩

instance : Subsingleton (Fin bytes.entrySize.toNat) :=
  inferInstanceAs (Subsingleton (Fin 1))

theorem step_enqueueDone (calling : system.enqueuing = some enqueuing)
    (complete : ∀ byte, enqueuing.copied byte = true) :
    Step system .enqueueDone { system with
      idx := { system.idx with tail := system.idx.tail + 1 }
      enqueuing := none
      enqueueReturned := some .success
      enqueued := system.enqueued ++ [enqueuing.entry] } := by
  simp only [Step, perform, calling]
  exact if_pos complete

/-- An idle producer puts one more byte into a queue that is not full. -/
theorem exists_run_snoc {events : List (Event bytes)} {system : System bytes}
    (run : Run Step (initial bytes 0 fun _ => 0) events system)
    (idle : system.enqueuing = none) (room : system.outstanding < bytes.capacity.toNat) :
    ∃ events next, Run Step (initial bytes 0 fun _ => 0) events next ∧ next.enqueuing = none ∧
      next.enqueued.length = system.enqueued.length + 1 ∧ next.dequeued = system.dequeued := by
  have notFull : ¬bytes.fwQueueFull system.idx = true := fun full =>
    Nat.ne_of_lt room ((Sound.run run).full_iff.mp full)
  have begun := run.snoc (show Step system (.fwEnqueue fun _ => 0) _ by
    simp only [Step, perform]
    rw [if_neg (by rw [idle]; simp), if_neg notFull])
  have copied := begun.snoc (show Step _ (.copyIn onlyByte) _ from rfl)
  have finished := copied.snoc (step_enqueueDone rfl fun byte => by
    rw [Subsingleton.elim byte onlyByte]
    rfl)
  exact ⟨_, _, finished, rfl, List.length_append, rfl⟩

theorem exists_run_outstanding {count : Nat} (fits : count ≤ 65536) :
    ∃ events system, Run Step (initial bytes 0 fun _ => 0) events system ∧
      system.enqueuing = none ∧ system.enqueued.length = count ∧ system.dequeued = [] := by
  induction count with
  | zero => exact ⟨[], _, Run.nil, rfl, rfl, rfl⟩
  | succ count inductionHypothesis =>
    obtain ⟨events, system, run, idle, length, none⟩ :=
      inductionHypothesis (Nat.le_of_succ_le fits)
    have room : system.outstanding < bytes.capacity.toNat := by
      rw [outstanding, length, none]
      exact fits
    obtain ⟨events, next, run, idle, longer, same⟩ := exists_run_snoc run idle room
    exact ⟨events, next, run, idle, by rw [longer, length], by rw [same, none]⟩

/-- A queue with all of its 65536 slots filled reports that it has no entries. -/
theorem full_length_zero :
    ∃ events system, Run Step (initial bytes 0 fun _ => 0) events system ∧
      system.outstanding = 65536 ∧ fwQueueLength system.idx = 0 ∧
        bytes.fwQueueFull system.idx = true ∧ ¬system.Agrees := by
  obtain ⟨events, system, run, _, length, none⟩ := exists_run_outstanding le_rfl
  have sound := Sound.run run
  have outstanding : system.outstanding = 65536 := by rw [System.outstanding, length, none]; rfl
  refine ⟨events, system, run, outstanding, BitVec.eq_of_toNat_eq ?_, ?_, fun agrees => ?_⟩
  · rw [sound.toNat_fwQueueLength, outstanding]
    rfl
  · rw [sound.full_iff, outstanding]
    rfl
  · have reported := agrees.length
    rw [sound.toNat_fwQueueLength, outstanding] at reported
    cases reported

/-- A byte that goes into a queue whose tail wraps, and comes out again. -/
theorem agrees_of_wrapped :
    ∃ system : System bytes, Run Step (initial bytes (-1) fun _ => 0)
          [.fwDequeue, .fwEnqueue fun _ => 7, .copyIn onlyByte, .enqueueDone, .fwDequeue,
            .copyOut onlyByte,
            .dequeueDone] system ∧
        system.idx.head = 0 ∧ system.dequeued = [fun _ => 7] ∧ system.Agrees := by
  have run : Run Step (initial bytes (-1) fun _ => 0)
      [.fwDequeue, .fwEnqueue fun _ => 7, .copyIn onlyByte, .enqueueDone, .fwDequeue,
        .copyOut onlyByte,
        .dequeueDone] _ :=
    Run.of_foldlM (fun _ _ _ performed => performed) rfl
  refine ⟨_, run, rfl, ?_, (agrees_iff_outstanding_lt run).mpr (by decide)⟩
  exact congrArg (fun entry => [entry]) (funext fun byte => by
    rw [Subsingleton.elim byte onlyByte]
    rfl)

/-! ### Refinement -/

namespace Sound

variable {start : UInt64T}

/-- The outstanding entries of a sound queue, as a queue whose operations take one step. -/
def outstandingQueue (sound : system.Sound start) : FwQueue queue.Entry :=
  { entries := system.enqueued.drop system.dequeued.length
    capacity := queue.capacity.toNat
    bounded := by
      rw [List.length_drop]
      exact sound.outstanding_le }

section

variable (sound : system.Sound start)
include sound

theorem outstandingQueue_eq (nextSound : next.Sound start)
    (enqueued : next.enqueued = system.enqueued) (dequeued : next.dequeued = system.dequeued) :
    nextSound.outstandingQueue = sound.outstandingQueue := by
  refine FwQueue.ext ?_ rfl
  show next.enqueued.drop next.dequeued.length = system.enqueued.drop system.dequeued.length
  rw [enqueued, dequeued]

theorem fwEnqueue_outstandingQueue_eq_none :
    fwEnqueue sound.outstandingQueue entry = none ↔ queue.fwQueueFull system.idx = true := by
  rw [fwEnqueue_eq_none, sound.full_iff]
  exact Eq.congr_left List.length_drop

theorem fwDequeue_outstandingQueue_eq_none :
    fwDequeue sound.outstandingQueue = none ↔ fwQueueEmpty system.idx = true := by
  rw [fwDequeue_eq_none, sound.empty_iff, ← List.length_eq_zero_iff]
  exact Eq.congr_left List.length_drop

end

/-- A call takes effect where it advances its index, and its check is that of the abstract queue;
copying does not show. -/
theorem outstanding_refines {memory : Nat → UInt8T} {events : List (Event queue)}
    (run : Run Step (initial queue start memory) events system) {event : Event queue}
    (step : Step system event next) :
    let before := (Sound.run run).outstandingQueue
    let after := (Sound.run (run.snoc step)).outstandingQueue
    match event with
    | .fwEnqueue entry =>
      (next.enqueueReturned = some .failure ↔ fwEnqueue before entry = none) ∧ after = before
    | .enqueueDone =>
      ∃ enqueuing ∈ system.enqueuing, fwEnqueue before enqueuing.entry = some after
    | .fwDequeue =>
      (next.dequeueReturned = some .failure ↔ fwDequeue before = none) ∧ after = before
    | .dequeueDone =>
      ∃ entry, next.dequeued = system.dequeued ++ [entry] ∧ fwDequeue before = some (entry, after)
    | .copyIn _ | .copyOut _ => after = before := by
  have sound := Sound.run run
  have nextSound := sound.step step
  cases event with
  | fwEnqueue entry =>
    refine ⟨(enqueueReturned_eq step).trans sound.fwEnqueue_outstandingQueue_eq_none.symm, ?_⟩
    obtain ⟨enqueued, dequeued⟩ := histories_of_fwEnqueue step
    exact sound.outstandingQueue_eq nextSound enqueued dequeued
  | copyIn byte =>
    obtain ⟨enqueuing, calling, ⟨⟩⟩ := Option.map_eq_some_iff.mp step
    exact sound.outstandingQueue_eq nextSound rfl rfl
  | enqueueDone =>
    obtain ⟨enqueuing, calling, taken⟩ := Option.bind_eq_some_iff.mp step
    obtain ⟨complete, ⟨⟩⟩ := Option.ite_none_right_eq_some.mp taken
    refine ⟨enqueuing, calling, fwEnqueue_eq_some.mpr ⟨?_, rfl⟩⟩
    exact List.drop_append_of_le_length sound.dequeued_le
  | fwDequeue =>
    refine ⟨(dequeueReturned_eq step).trans sound.fwDequeue_outstandingQueue_eq_none.symm, ?_⟩
    obtain ⟨enqueued, dequeued⟩ := histories_of_fwDequeue step
    exact sound.outstandingQueue_eq nextSound enqueued dequeued
  | copyOut byte =>
    obtain ⟨copy, calling, ⟨⟩⟩ := Option.map_eq_some_iff.mp step
    exact sound.outstandingQueue_eq nextSound rfl rfl
  | dequeueDone =>
    obtain ⟨copy, calling, taken⟩ := Option.bind_eq_some_iff.mp step
    obtain ⟨entry, complete, ⟨⟩⟩ := Option.map_eq_some_iff.mp taken
    refine ⟨entry, rfl, fwDequeue_eq_some.mpr ⟨?_, rfl⟩⟩
    obtain ⟨older, oldest⟩ := List.getElem?_eq_some_iff.mp (sound.oldest calling complete)
    show system.enqueued.drop system.dequeued.length =
      entry :: system.enqueued.drop (system.dequeued ++ [entry]).length
    rw [List.drop_eq_getElem_cons older, oldest, List.length_append]
    rfl

/-- A byte is outstanding when the tail has wrapped. -/
theorem outstanding_refines_of_wrapped :
    ∃ queue after : FwQueue bytes.Entry, fwEnqueue queue (fun _ => 7) = some after := by
  have run : Run Step (initial bytes (-1) fun _ => 0) [.fwEnqueue fun _ => 7, .copyIn onlyByte] _ :=
    Run.of_foldlM (fun _ _ _ performed => performed) rfl
  obtain ⟨_, ⟨⟩, done⟩ := outstanding_refines run (show Step _ .enqueueDone _ from rfl)
  exact ⟨_, _, done⟩

end Sound

end System

end SharedQueue

end LionsOS.Firewall

/-
This file is about the queue that its clients send text through to the serial
subsystem. The queue is outside of this repository. Here is what the clients rely
on: a batch puts some first bytes behind those that the queue was given before, and
all that happens to the queue meanwhile is that the virtualiser takes bytes out.
-/

import LionsOS.Words

namespace LionsOS.Serial

structure SerialQueue (Queue : Type) where
  /-- The number of bytes that `serial_enqueue_batch` has put into the queue, and the queue. -/
  enqueueBatch : Queue → List UInt8T → Nat × Queue
  queueFree : Queue → Nat
  /-- All bytes that have ever been put into the queue. -/
  appended : Queue → List UInt8T

namespace SerialQueue

variable {Queue : Type}

/-- A batch puts its first bytes into the queue, and their number is one of 32 bits. -/
structure EnqueuesPrefix (serial : SerialQueue Queue) : Prop where
  narrow : ∀ queue bytes, (serial.enqueueBatch queue bytes).1 < 2 ^ 32
  count_le : ∀ queue bytes, (serial.enqueueBatch queue bytes).1 ≤ bytes.length
  appended : ∀ queue bytes, serial.appended (serial.enqueueBatch queue bytes).2 =
    serial.appended queue ++ bytes.take (serial.enqueueBatch queue bytes).1

/-- A batch puts as many bytes into the queue as fit. -/
structure EnqueuesWhatFits (serial : SerialQueue Queue) : Prop extends
    serial.EnqueuesPrefix where
  count_eq : ∀ queue bytes, (serial.enqueueBatch queue bytes).1 =
    min bytes.length (serial.queueFree queue)

/-- What the virtualiser does at each time only makes room. -/
structure OnlyDrains (serial : SerialQueue Queue) (virtualiser : Nat → Queue → Queue) :
    Prop where
  appended : ∀ time queue, serial.appended (virtualiser time queue) = serial.appended queue
  queueFree : ∀ time queue, serial.queueFree queue ≤ serial.queueFree (virtualiser time queue)

end SerialQueue

/-! ### A queue of a certain capacity -/

/-- What was put into a queue, and how much of it was taken out. -/
structure Pipe where
  appended : List UInt8T
  drained : Nat

namespace Pipe

def empty : Pipe where
  appended := []
  drained := 0

def free (capacity : Nat) (pipe : Pipe) : Nat :=
  capacity - (pipe.appended.length - pipe.drained)

def drain (pipe : Pipe) (count : Nat) : Pipe :=
  { pipe with drained := min pipe.appended.length (pipe.drained + count) }

/-- The queue that holds up to `capacity` bytes. -/
def queue (capacity : Nat) : SerialQueue Pipe where
  enqueueBatch pipe bytes :=
    (min bytes.length (pipe.free capacity),
      { pipe with
        appended := pipe.appended ++ bytes.take (min bytes.length (pipe.free capacity)) })
  queueFree := free capacity
  appended := Pipe.appended

theorem queue_enqueuesWhatFits {capacity : Nat} (small : capacity < 2 ^ 32) :
    (queue capacity).EnqueuesWhatFits where
  narrow _ _ := Nat.lt_of_le_of_lt (Nat.le_trans (Nat.min_le_right _ _) (Nat.sub_le _ _)) small
  count_le _ _ := Nat.min_le_left _ _
  appended _ _ := rfl
  count_eq _ _ := rfl

theorem queue_onlyDrains (capacity : Nat) (counts : Nat → Nat) :
    (queue capacity).OnlyDrains fun time pipe => pipe.drain (counts time) where
  appended _ _ := rfl
  queueFree time pipe := by
    show capacity - (pipe.appended.length - pipe.drained) ≤
      capacity - (pipe.appended.length - min pipe.appended.length (pipe.drained + counts time))
    omega

end Pipe

end LionsOS.Serial

/-
This file embeds how the port of MicroPython in `mphalport.c` prints a string. Each
round hands what is left of it to the queue, and waits for room if the queue did not
take it all. The length of what is left becomes smaller with each round; the pointer
stays where it is.
-/

import LionsOS.Lib.RoundLoops
import LionsOS.Serial.SerialQueue

namespace LionsOS.Serial

open RoundLoop Pipe List

/-! ### The loop -/

/-- What `mp_hal_stdout_tx_strn` knows before a round, and how often the virtualiser had its turn. -/
structure StdoutState (Queue : Type) where
  len : Nat
  queue : Queue
  time : Nat

section

variable {Queue : Type} (serial : SerialQueue Queue) (virtualiser : Nat → Queue → Queue)
  (str : List UInt8T)

/-- How many bytes the queue takes of what a round hands to it, and the queue. -/
def takenOf (state : StdoutState Queue) : Nat × Queue :=
  let enqueued := serial.enqueueBatch (virtualiser state.time state.queue) (str.take state.len)
  (enqueued.1 % 2 ^ 32, enqueued.2)

/-- A round of `mp_hal_stdout_tx_strn`. Whether it then waits for the virtualiser, or finds room
again and goes on at once, makes no difference to what it does. -/
def stdoutRound (state : StdoutState Queue) : RoundEnd (StdoutState Queue) :=
  let taken := takenOf serial virtualiser str state
  let next := { len := state.len - taken.1, queue := taken.2, time := state.time + 1 }
  if state.len - taken.1 = 0 then .ends next else .goesOn next

def stdoutStart (len : Nat) (queue : Queue) : StdoutState Queue where
  len := len
  queue := queue
  time := 0

/-- The queue when all is printed, `none` if that takes more than `fuel` rounds. -/
def mpHalStdoutTxStrn (fuel len : Nat) (queue : Queue) : Option Queue :=
  (loop (stdoutRound serial virtualiser str) fuel (stdoutStart len queue)).map StdoutState.queue

/-- What the queue takes of the beginning of the string is what comes next. -/
def TakesNext (len : Nat) (state : StdoutState Queue) : Prop :=
  str.take (takenOf serial virtualiser str state).1 =
    (str.drop (len - state.len)).take (takenOf serial virtualiser str state).1

end

section

variable {Queue : Type} {serial : SerialQueue Queue} {virtualiser : Nat → Queue → Queue}
  {str : List UInt8T} {len : Nat} {queue : Queue} {state next final : StdoutState Queue}
  {fuel : Nat}

/-- What the queue and the virtualiser are relied on for, and the size of the string. -/
structure StdoutCall (serial : SerialQueue Queue) (virtualiser : Nat → Queue → Queue)
    (str : List UInt8T) (len : Nat) : Prop where
  takes : serial.EnqueuesPrefix
  drains : ∀ time queue, serial.appended (virtualiser time queue) = serial.appended queue
  long : len ≤ str.length

/-- What is left is not more than there was, and as much as is gone has been put into the queue. -/
structure Advanced (serial : SerialQueue Queue) (len : Nat) (queue : Queue)
    (state : StdoutState Queue) : Prop where
  left : state.len ≤ len
  length : (serial.appended state.queue).length =
    (serial.appended queue).length + (len - state.len)

/-- The part of the string in front of what is left is in the queue. -/
def Printed (serial : SerialQueue Queue) (str : List UInt8T) (len : Nat) (queue : Queue)
    (state : StdoutState Queue) : Prop :=
  serial.appended state.queue = serial.appended queue ++ str.take (len - state.len)

/-- What a round does, whether or not it is the last one. -/
structure RoundDone (serial : SerialQueue Queue) (virtualiser : Nat → Queue → Queue)
    (str : List UInt8T) (state next : StdoutState Queue) : Prop where
  taken : (takenOf serial virtualiser str state).1 ≤ state.len
  left : next.len = state.len - (takenOf serial virtualiser str state).1
  appended : serial.appended next.queue =
    serial.appended state.queue ++ str.take (takenOf serial virtualiser str state).1

namespace StdoutCall

variable (call : StdoutCall serial virtualiser str len)

include call

theorem roundDone (state : StdoutState Queue) : RoundDone serial virtualiser str state
    { len := state.len - (takenOf serial virtualiser str state).1
      queue := (takenOf serial virtualiser str state).2
      time := state.time + 1 } := by
  have narrow : (takenOf serial virtualiser str state).1 = (serial.enqueueBatch
      (virtualiser state.time state.queue) (str.take state.len)).1 :=
    Nat.mod_eq_of_lt (call.takes.narrow _ _)
  have taken : (takenOf serial virtualiser str state).1 ≤ state.len := by
    rw [narrow]
    exact Nat.le_trans (call.takes.count_le _ _) (length_take_le _ _)
  refine ⟨taken, rfl, ?_⟩
  refine (call.takes.appended _ _).trans ?_
  rw [call.drains, take_take, ← narrow, Nat.min_eq_left taken]

theorem of_goesOn (goesOn : GoesOn (stdoutRound serial virtualiser str) state next) :
    RoundDone serial virtualiser str state next := by
  unfold GoesOn stdoutRound at goesOn
  dsimp only at goesOn
  split at goesOn
  · cases goesOn
  · cases goesOn
    exact call.roundDone state

theorem of_ends (ends : stdoutRound serial virtualiser str state = .ends final) :
    RoundDone serial virtualiser str state final ∧ final.len = 0 := by
  unfold stdoutRound at ends
  dsimp only at ends
  split at ends
  · rename_i none
    cases ends
    exact ⟨call.roundDone state, none⟩
  · cases ends

end StdoutCall

namespace RoundDone

variable (done : RoundDone serial virtualiser str state next)

include done

theorem advanced (long : len ≤ str.length) (before : Advanced serial len queue state) :
    Advanced serial len queue next := by
  have taken := done.taken
  have left := done.left
  have inside := before.left
  refine ⟨by omega, ?_⟩
  rw [done.appended, length_append, before.length, length_take]
  omega

theorem printed_iff (inside : state.len ≤ len) (before : Printed serial str len queue state) :
    Printed serial str len queue next ↔ TakesNext serial virtualiser str len state := by
  have taken := done.taken
  have further : len - next.len = (len - state.len) + (takenOf serial virtualiser str state).1 := by
    rw [done.left]
    omega
  rw [Printed, done.appended, before, further, take_add, append_assoc,
    append_cancel_left_eq, append_cancel_left_eq]
  rfl

end RoundDone

/-- What is in the queue at the end was in it before, as far as it went then. -/
theorem Advanced.printed_of_stands (advanced : Advanced serial len queue state)
    (long : len ≤ str.length)
    (stands : serial.appended state.queue <+: serial.appended queue ++ str.take len) :
    Printed serial str len queue state := by
  have length : (serial.appended queue ++ str.take (len - state.len)).length =
      (serial.appended state.queue).length := by
    rw [advanced.length, length_append, length_take]
    omega
  have part : serial.appended queue ++ str.take (len - state.len) <+:
      serial.appended queue ++ str.take len := by
    rw [prefix_append_right_inj]
    exact take_prefix_take_left (Nat.sub_le _ _)
  exact (prefix_of_prefix_length_le stands part (Nat.le_of_eq length.symm)).eq_of_length length.symm

/-! ### All rounds -/

namespace StdoutCall

variable (call : StdoutCall serial virtualiser str len)

include call

theorem advanced_of_getsTo
    (gets : GetsTo (stdoutRound serial virtualiser str) (stdoutStart len queue) state) :
    Advanced serial len queue state := by
  refine gets.invariant _ ⟨Nat.le_refl _, ?_⟩ fun _ _ _ before goesOn =>
    (call.of_goesOn goesOn).advanced call.long before
  show (serial.appended queue).length = (serial.appended queue).length + (len - len)
  omega

theorem stands_of_loop
    (returned : loop (stdoutRound serial virtualiser str) fuel state = some final) :
    serial.appended state.queue <+: serial.appended final.queue := by
  obtain ⟨last, gets, ends⟩ := ends_of_loop returned
  have stands : serial.appended state.queue <+: serial.appended last.queue := by
    refine gets.invariant (fun later => serial.appended state.queue <+: serial.appended later.queue)
      prefix_rfl fun later next _ stands goesOn => stands.trans ?_
    rw [(call.of_goesOn goesOn).appended]
    exact prefix_append _ _
  refine stands.trans ?_
  rw [(call.of_ends ends).1.appended]
  exact prefix_append _ _

/-- If all is printed at the end, all was printed before that the string had up to then. -/
theorem printed_of_loop
    (returned : loop (stdoutRound serial virtualiser str) fuel (stdoutStart len queue) = some final)
    (whole : serial.appended final.queue = serial.appended queue ++ str.take len)
    (gets : GetsTo (stdoutRound serial virtualiser str) (stdoutStart len queue) state) :
    Printed serial str len queue state := by
  obtain ⟨rest, further⟩ := gets.returned returned
  exact (call.advanced_of_getsTo gets).printed_of_stands call.long
    (whole ▸ call.stands_of_loop further)

end StdoutCall

end

/-- When the whole string has been handed over, the queue was given the string once and in order,
exactly if in each round what it took of the beginning of the string is what came next. -/
theorem stdout_prints_iff {Queue : Type} {serial : SerialQueue Queue}
    {virtualiser : Nat → Queue → Queue} {str : List UInt8T} {fuel len : Nat} {queue final : Queue}
    (call : StdoutCall serial virtualiser str len)
    (returned : mpHalStdoutTxStrn serial virtualiser str fuel len queue = some final) :
    serial.appended final = serial.appended queue ++ str.take len ↔
      ∀ state, GetsTo (stdoutRound serial virtualiser str) (stdoutStart len queue) state →
        TakesNext serial virtualiser str len state := by
  obtain ⟨final, ended, rfl⟩ := Option.map_eq_some_iff.mp returned
  constructor
  · intro whole state gets
    have inside := (call.advanced_of_getsTo gets).left
    have printed := call.printed_of_loop ended whole gets
    cases happens : stdoutRound serial virtualiser str state with
    | goesOn next =>
      refine ((call.of_goesOn happens).printed_iff inside printed).mp ?_
      exact call.printed_of_loop ended whole (gets.tail happens)
    | ends last =>
      obtain ⟨rest, further⟩ := gets.returned ended
      obtain ⟨done, none⟩ := call.of_ends happens
      have same : last = final := by
        cases rest with
        | zero => cases further
        | succ rest => exact Option.some.inj ((loop_of_ends happens).symm.trans further)
      refine (done.printed_iff inside printed).mp ?_
      rw [Printed, none, same]
      exact whole
  · intro takes
    obtain ⟨last, gets, ends⟩ := ends_of_loop ended
    have initial : Printed serial str len queue (stdoutStart len queue) := by
      show serial.appended queue = serial.appended queue ++ str.take (len - len)
      rw [Nat.sub_self, take_zero, append_nil]
    have printed : Printed serial str len queue last := by
      refine gets.invariant _ initial fun state next gets before goesOn => ?_
      have inside := (call.advanced_of_getsTo gets).left
      exact ((call.of_goesOn goesOn).printed_iff inside before).mpr (takes state gets)
    obtain ⟨done, none⟩ := call.of_ends ends
    have inside := (call.advanced_of_getsTo gets).left
    have atEnd := (done.printed_iff inside printed).mpr (takes last gets)
    rw [Printed, none] at atEnd
    exact atEnd

theorem stdout_prints_iff_of_roomy : ∃ final,
    mpHalStdoutTxStrn (queue 4) (fun _ pipe => pipe.drain 4) [65, 66, 67] 1 3 empty = some final ∧
    ((queue 4).appended final = (queue 4).appended empty ++ [65, 66, 67].take 3 ↔
      ∀ state, GetsTo (stdoutRound (queue 4) (fun _ pipe => pipe.drain 4) [65, 66, 67])
          (stdoutStart 3 empty) state →
        TakesNext (queue 4) (fun _ pipe => pipe.drain 4) [65, 66, 67] 3 state) := by
  have returned : mpHalStdoutTxStrn (queue 4) (fun _ pipe => pipe.drain 4) [65, 66, 67] 1 3
      empty = some { appended := [65, 66, 67], drained := 0 } := rfl
  exact ⟨_, returned, stdout_prints_iff
    { takes := (queue_enqueuesWhatFits (by decide)).toEnqueuesPrefix
      drains := (queue_onlyDrains 4 fun _ => 4).appended
      long := Nat.le_refl 3 } returned⟩

/-- The queue takes two of three letters at a time. -/
theorem stdout_prints_twice : ∃ final,
    mpHalStdoutTxStrn (queue 2) (fun _ pipe => pipe.drain 2) [65, 66, 67] 2 3 empty =
      some final ∧ (queue 2).appended final = [65, 66, 65] ∧
      (queue 2).appended final ≠ (queue 2).appended empty ++ [65, 66, 67].take 3 := by
  decide

end LionsOS.Serial

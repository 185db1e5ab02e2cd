/-
This file embeds how `fd.c` writes to the console. A round puts what there is up to
the next newline into the queue, and a carriage return and the newline behind it.
When the queue has not taken all of that, the write ends, unless the queue has room
for two bytes again by the time that this is looked at.
-/

import LionsOS.Lib.RoundLoops
import LionsOS.Serial.SerialQueue

namespace LionsOS.Serial

open RoundLoop List

/-! ### The loop -/

def newline : UInt8T := 10
def carriageReturn : UInt8T := 13

/-- Where the first of some bytes is that is equal to `c`. -/
def memchr (bytes : List UInt8T) (c : UInt8T) : Option Nat :=
  bytes.findIdx? (· = c)

/-- What `console_write` knows before a round, and how often the virtualiser had its turn. -/
structure ConsoleState (Queue : Type) where
  src : Nat
  sent : Nat
  queue : Queue
  time : Nat

/-- What a write returns, and whether it notifies the virtualiser. -/
structure ConsoleWritten (Queue : Type) where
  sent : Nat
  notified : Bool
  queue : Queue

section

variable {Queue : Type} (serial : SerialQueue Queue) (virtualiser : Nat → Queue → Queue)
  (data : List UInt8T) (count : Nat)

/-- How far it is to the next newline, or to the end. -/
def stopOf (state : ConsoleState Queue) : Nat :=
  match memchr ((data.drop state.src).take (count - state.sent)) newline with
  | none => (count - state.sent) % 2 ^ 32
  | some nl => nl % 2 ^ 32

/-- The batch of a round. -/
def batchOf (state : ConsoleState Queue) : Nat × Queue :=
  serial.enqueueBatch (virtualiser state.time state.queue)
    ((data.drop state.src).take (stopOf data count state))

/-- The queue when its room is looked at. -/
def checkedOf (state : ConsoleState Queue) : Queue :=
  virtualiser (state.time + 1) (batchOf serial virtualiser data count state).2

/-- A round of the loop of `console_write`. -/
def consoleRound (state : ConsoleState Queue) : RoundEnd (ConsoleState Queue) :=
  if count ≤ state.sent then .ends state
  else
    let enq := (batchOf serial virtualiser data count state).1
    let sent := (state.sent + enq) % 2 ^ 32
    let checked := checkedOf serial virtualiser data count state
    if sent = count ∨ serial.queueFree checked < 2 then
      .ends { state with sent, queue := checked }
    else
      let inserted := serial.enqueueBatch (virtualiser (state.time + 2) checked)
        [carriageReturn, newline]
      .goesOn
        { src := state.src + (enq + 1)
          sent := (sent + 1) % 2 ^ 32
          queue := inserted.2
          time := state.time + 3 }

def consoleStart (queue : Queue) : ConsoleState Queue where
  src := 0
  sent := 0
  queue := queue
  time := 0

/-- A write has at most one round for each of its bytes. -/
def consoleWrite (queue : Queue) : Option (ConsoleWritten Queue) :=
  (loop (consoleRound serial virtualiser data count) (count + 1) (consoleStart queue)).map
    fun state => { sent := state.sent, notified := state.sent ≠ 0, queue := state.queue }

/-! ### What a console is to be given -/

/-- Each newline becomes a carriage return and a newline. -/
def withReturns (bytes : List UInt8T) : List UInt8T :=
  bytes.flatMap fun c => if c = newline then [carriageReturn, newline] else [c]

/-- A write returns, and has put the bytes that it counts into the queue. -/
def WritesCounted (queue : Queue) : Prop :=
  ∃ written, consoleWrite serial virtualiser data count queue = some written ∧
    serial.appended written.queue = serial.appended queue ++ withReturns (data.take written.sent)

/-- The queue does not take all of a batch, and then there is room for two bytes again before the
write has seen that it is full. -/
def Overlooked (state : ConsoleState Queue) : Prop :=
  state.sent < count ∧
    serial.queueFree (virtualiser state.time state.queue) < stopOf data count state ∧
    2 ≤ serial.queueFree (checkedOf serial virtualiser data count state)

end

section

variable {bytes rest : List UInt8T} {c : UInt8T}

theorem withReturns_append (first second : List UInt8T) :
    withReturns (first ++ second) = withReturns first ++ withReturns second :=
  flatMap_append

theorem withReturns_of_not_mem (none : newline ∉ bytes) : withReturns bytes = bytes := by
  induction bytes with
  | nil => rfl
  | cons c rest inductionHypothesis =>
    have other : c ≠ newline := fun same => none (same ▸ mem_cons_self)
    have once : withReturns (c :: rest) = c :: withReturns rest := by
      show (if c = newline then [carriageReturn, newline] else [c]) ++ withReturns rest = _
      rw [if_neg other]
      rfl
    rw [once, inductionHypothesis (not_mem_of_not_mem_cons none)]

theorem withReturns_ne_newline_cons : withReturns bytes ≠ newline :: rest := by
  cases bytes with
  | nil => rintro ⟨⟩
  | cons c others =>
    show (if c = newline then [carriageReturn, newline] else [c]) ++ _ ≠ _
    split
    · intro same
      exact absurd (cons.inj same).1 (by decide)
    · rename_i other
      exact fun same => other (cons.inj same).1

theorem withReturns_cons_ne (other : c ≠ newline) :
    withReturns (c :: bytes) ≠ carriageReturn :: newline :: rest := by
  show (if c = newline then [carriageReturn, newline] else [c]) ++ withReturns bytes ≠ _
  rw [if_neg other]
  exact fun same => withReturns_ne_newline_cons (cons.inj same).2

theorem memchr_eq_some {nl : Nat} (found : memchr bytes newline = some nl) :
    newline ∉ bytes.take nl ∧ bytes[nl]? = some newline := by
  obtain ⟨inside, equal, before⟩ := findIdx?_eq_some_iff_getElem.mp found
  refine ⟨fun member => ?_, ?_⟩
  · obtain ⟨place, below, same⟩ := mem_take_iff_getElem.mp member
    have earlier := before place (by omega)
    rw [same] at earlier
    exact earlier rfl
  · rw [getElem?_eq_getElem inside]
    exact congrArg some (of_decide_eq_true equal)

theorem memchr_eq_none (found : memchr bytes newline = none) : newline ∉ bytes := by
  intro member
  exact absurd (findIdx?_eq_none_iff.mp found newline member) (by decide)

end

/-! ### A round -/

section

variable {Queue : Type} {serial : SerialQueue Queue} {virtualiser : Nat → Queue → Queue}
  {data : List UInt8T} {count : Nat} {queue : Queue} {state next final : ConsoleState Queue}

/-- The pointer and the count agree, and are inside the string. -/
structure Placed (count : Nat) (state : ConsoleState Queue) : Prop where
  src : state.src = state.sent
  inside : state.sent ≤ count

/-- A batch has no newline, and ends with the string or in front of one. -/
theorem stopOf_cases (small : count < 2 ^ 32) (placed : Placed count state) :
    stopOf data count state ≤ count - state.sent ∧
      newline ∉ (data.drop state.sent).take (stopOf data count state) ∧
      (stopOf data count state = count - state.sent ∨
        data[state.sent + stopOf data count state]? = some newline) := by
  unfold stopOf
  rw [placed.src]
  split
  · rename_i found
    rw [Nat.mod_eq_of_lt (by omega)]
    exact ⟨Nat.le_refl _, memchr_eq_none found, .inl rfl⟩
  · rename_i nl found
    obtain ⟨before, there⟩ := memchr_eq_some found
    have below : nl < count - state.sent := by
      obtain ⟨below, _⟩ := List.getElem?_eq_some_iff.mp there
      exact Nat.lt_of_lt_of_le below (List.length_take_le _ _)
    rw [Nat.mod_eq_of_lt (by omega)]
    rw [List.take_take, Nat.min_eq_left (Nat.le_of_lt below)] at before
    rw [List.getElem?_take_of_lt below, List.getElem?_drop] at there
    exact ⟨Nat.le_of_lt below, before, .inr there⟩

/-- What the queue and the virtualiser are relied on for, and the size of the string. -/
structure ConsoleCall (serial : SerialQueue Queue) (virtualiser : Nat → Queue → Queue)
    (data : List UInt8T) (count : Nat) : Prop where
  fits : serial.EnqueuesWhatFits
  drains : serial.OnlyDrains virtualiser
  long : count ≤ data.length
  small : count < 2 ^ 32

namespace ConsoleCall

variable (call : ConsoleCall serial virtualiser data count)

include call

theorem batchOf_count (placed : Placed count state) :
    (batchOf serial virtualiser data count state).1 =
      min (stopOf data count state) (serial.queueFree (virtualiser state.time state.queue)) := by
  have long := call.long
  have stop := (@stopOf_cases Queue data count state call.small placed).1
  have length : ((data.drop state.src).take (stopOf data count state)).length =
      stopOf data count state := by
    rw [length_take, length_drop, placed.src]
    omega
  refine (call.fits.count_eq _ _).trans ?_
  rw [length]

theorem appended_checkedOf (placed : Placed count state) :
    serial.appended (checkedOf serial virtualiser data count state) = serial.appended state.queue ++
        (data.drop state.sent).take (batchOf serial virtualiser data count state).1 := by
  have enq := call.batchOf_count placed
  have added := call.fits.appended (virtualiser state.time state.queue)
    ((data.drop state.src).take (stopOf data count state))
  rw [call.drains.appended, placed.src, take_take] at added
  refine (call.drains.appended _ _).trans ?_
  unfold batchOf at enq ⊢
  rw [placed.src] at enq ⊢
  rw [added, Nat.min_eq_left (enq ▸ Nat.min_le_left _ _)]

/-- A round, without the bounds of the numbers that it counts with. -/
theorem consoleRound_eq (placed : Placed count state) :
    consoleRound serial virtualiser data count state =
      if count ≤ state.sent then .ends state
      else if state.sent + (batchOf serial virtualiser data count state).1 = count ∨
          serial.queueFree (checkedOf serial virtualiser data count state) < 2 then
        .ends { state with
          sent := state.sent + (batchOf serial virtualiser data count state).1
          queue := checkedOf serial virtualiser data count state }
      else
        .goesOn
          { src := state.sent + (batchOf serial virtualiser data count state).1 + 1
            sent := state.sent + (batchOf serial virtualiser data count state).1 + 1
            queue := (serial.enqueueBatch (virtualiser (state.time + 2)
              (checkedOf serial virtualiser data count state)) [carriageReturn, newline]).2
            time := state.time + 3 } := by
  have inside := placed.inside
  have small := call.small
  have stop := (@stopOf_cases Queue data count state call.small placed).1
  have enq := call.batchOf_count placed
  unfold consoleRound
  dsimp only
  rw [Nat.mod_eq_of_lt (by omega : state.sent + (batchOf serial virtualiser data count state).1 <
    2 ^ 32), placed.src, Nat.add_assoc state.sent]
  split
  · rfl
  · split
    · rfl
    · rw [Nat.mod_eq_of_lt (by omega)]

/-- With room for two bytes, the two bytes are put into the queue. -/
theorem appended_insertion {time : Nat} {checked : Queue} (room : 2 ≤ serial.queueFree checked) :
    serial.appended (serial.enqueueBatch (virtualiser time checked) [carriageReturn, newline]).2 =
      serial.appended checked ++ [carriageReturn, newline] := by
  have later := call.drains.queueFree time checked
  have both : (serial.enqueueBatch (virtualiser time checked) [carriageReturn, newline]).1 = 2 := by
    refine (call.fits.count_eq _ _).trans (Nat.min_eq_left ?_)
    exact Nat.le_trans room later
  rw [call.fits.appended, both, call.drains.appended]
  rfl

/-- A round that others follow. -/
theorem of_goesOn (placed : Placed count state)
    (goesOn : GoesOn (consoleRound serial virtualiser data count) state next) :
    Placed count next ∧
      next.sent = state.sent + (batchOf serial virtualiser data count state).1 + 1 ∧
      state.sent < count ∧ 2 ≤ serial.queueFree (checkedOf serial virtualiser data count state) ∧
      serial.appended next.queue = serial.appended state.queue ++
        (data.drop state.sent).take (batchOf serial virtualiser data count state).1 ++
        [carriageReturn, newline] := by
  have stop := (@stopOf_cases Queue data count state call.small placed).1
  have enq := call.batchOf_count placed
  unfold GoesOn at goesOn
  rw [call.consoleRound_eq placed] at goesOn
  split at goesOn
  · cases goesOn
  · split at goesOn
    · cases goesOn
    · rename_i open_ ongoing
      rw [not_or, Nat.not_lt] at ongoing
      cases goesOn
      refine ⟨⟨rfl, ?_⟩, rfl, Nat.lt_of_not_le open_, ongoing.2, ?_⟩
      · dsimp only
        omega
      · rw [← call.appended_checkedOf placed]
        exact call.appended_insertion ongoing.2

/-- The last round. -/
theorem of_ends (placed : Placed count state)
    (ends : consoleRound serial virtualiser data count state = .ends final) :
    (count ≤ state.sent ∧ final = state) ∨ state.sent < count ∧
      final.sent = state.sent + (batchOf serial virtualiser data count state).1 ∧
      serial.appended final.queue = serial.appended state.queue ++
        (data.drop state.sent).take (batchOf serial virtualiser data count state).1 := by
  rw [call.consoleRound_eq placed] at ends
  split at ends
  · rename_i done
    cases ends
    exact .inl ⟨done, rfl⟩
  · split at ends
    · rename_i open_ _
      cases ends
      exact .inr ⟨Nat.lt_of_not_le open_, rfl, call.appended_checkedOf placed⟩
    · cases ends

/-! ### All rounds -/

theorem placed_of_getsTo {start : ConsoleState Queue} (initial : Placed count start)
    (gets : GetsTo (consoleRound serial virtualiser data count) start state) :
    Placed count state :=
  gets.invariant (Placed count) initial fun _ _ _ placed goesOn => (call.of_goesOn placed goesOn).1

theorem returns (queue : Queue) : ∃ final,
    loop (consoleRound serial virtualiser data count) (count + 1) (consoleStart queue) =
      some final := by
  refine loop_returns (Placed count) (fun state => count - state.sent)
    ⟨rfl, Nat.zero_le _⟩ ?_ (Nat.lt_succ_of_le (Nat.sub_le _ _))
  intro state next placed goesOn
  obtain ⟨after, further, open_, _⟩ := call.of_goesOn placed goesOn
  exact ⟨after, by omega⟩

end ConsoleCall

/-- All that was counted is in the queue, and nothing else. -/
def Counted (serial : SerialQueue Queue) (data : List UInt8T) (queue : Queue)
    (state : ConsoleState Queue) : Prop :=
  serial.appended state.queue = serial.appended queue ++ withReturns (data.take state.sent)

/-- A carriage return and a newline have got into the queue where the string has another byte. -/
def Corrupted (serial : SerialQueue Queue) (data : List UInt8T) (queue : Queue)
    (state : ConsoleState Queue) : Prop :=
  ∃ position c, position < state.sent ∧ data[position]? = some c ∧ c ≠ newline ∧
    serial.appended queue ++ withReturns (data.take position) ++ [carriageReturn, newline] <+:
      serial.appended state.queue

theorem Corrupted.not_counted (corrupted : Corrupted serial data queue state) :
    ¬ Counted serial data queue state := by
  obtain ⟨position, c, earlier, there, other, rest, same⟩ := corrupted
  intro counted
  obtain ⟨inside, rfl⟩ := List.getElem?_eq_some_iff.mp there
  obtain ⟨more, further⟩ := Nat.exists_eq_add_of_lt earlier
  rw [Counted, further, Nat.add_assoc, List.take_add, List.drop_eq_getElem_cons inside,
    withReturns_append, ← same, List.append_assoc, List.append_assoc, List.append_cancel_left_eq,
    List.append_cancel_left_eq] at counted
  exact withReturns_cons_ne other counted.symm

namespace ConsoleCall

variable (call : ConsoleCall serial virtualiser data count)

include call

section

variable (placed : Placed count state)
include placed

theorem newline_not_mem_batch : newline ∉
    (data.drop state.sent).take (batchOf serial virtualiser data count state).1 := by
  have none := (@stopOf_cases Queue data count state call.small placed).2.1
  rw [call.batchOf_count placed, Nat.min_comm, ← take_take]
  exact fun member => none (mem_of_mem_take member)

section

variable (counted : Counted serial data queue state)
include counted

/-- What was counted and a batch behind it. -/
theorem counted_batch :
    serial.appended state.queue ++
        (data.drop state.sent).take (batchOf serial virtualiser data count state).1 =
      serial.appended queue ++ withReturns (data.take
        (state.sent + (batchOf serial virtualiser data count state).1)) := by
  rw [counted, take_add, withReturns_append,
    withReturns_of_not_mem (call.newline_not_mem_batch placed), append_assoc]

theorem counted_of_goesOn (noticed : ¬ Overlooked serial virtualiser data count state)
    (goesOn : GoesOn (consoleRound serial virtualiser data count) state next) :
    Counted serial data queue next := by
  obtain ⟨after, sent, open_, room, appended⟩ := call.of_goesOn placed goesOn
  have enq := call.batchOf_count placed
  have whole : (batchOf serial virtualiser data count state).1 = stopOf data count state := by
    have all : ¬ serial.queueFree (virtualiser state.time state.queue) <
        stopOf data count state := fun less => noticed ⟨open_, less, room⟩
    omega
  obtain ⟨_, _, atEnd | there⟩ := @stopOf_cases Queue data count state call.small placed
  · have inside := after.inside
    omega
  · rw [← whole] at there
    obtain ⟨inside, same⟩ := List.getElem?_eq_some_iff.mp there
    have last : (data.drop (state.sent + (batchOf serial virtualiser data count state).1)).take 1 =
        [newline] := by
      rw [List.drop_eq_getElem_cons inside, same]
      rfl
    rw [Counted, appended, call.counted_batch placed counted, sent,
      @List.take_add _ data (state.sent + _) 1, last, withReturns_append, List.append_assoc]
    rfl

theorem corrupted_of_overlooked (overlooked : Overlooked serial virtualiser data count state)
    (goesOn : GoesOn (consoleRound serial virtualiser data count) state next) :
    Corrupted serial data queue next := by
  obtain ⟨after, sent, open_, room, appended⟩ := call.of_goesOn placed goesOn
  have enq := call.batchOf_count placed
  obtain ⟨stop, none, _⟩ := @stopOf_cases Queue data count state call.small placed
  have cut : (batchOf serial virtualiser data count state).1 < stopOf data count state := by
    have less := overlooked.2.1
    omega
  have long := call.long
  have inside : state.sent + (batchOf serial virtualiser data count state).1 < data.length := by
    omega
  refine ⟨_, data[state.sent + (batchOf serial virtualiser data count state).1],
    sent ▸ Nat.lt_succ_self _, getElem?_eq_getElem inside, fun same => none ?_, ?_⟩
  · rw [← same, mem_take_iff_getElem]
    refine ⟨(batchOf serial virtualiser data count state).1, ?_, getElem_drop⟩
    rw [length_drop]
    omega
  · rw [call.counted_batch placed counted] at appended
    exact appended ▸ prefix_rfl

end

theorem corrupted_of_goesOn (corrupted : Corrupted serial data queue state)
    (goesOn : GoesOn (consoleRound serial virtualiser data count) state next) :
    Corrupted serial data queue next := by
  obtain ⟨_, sent, _, _, appended⟩ := call.of_goesOn placed goesOn
  obtain ⟨position, c, earlier, there, other, stands⟩ := corrupted
  refine ⟨position, c, by omega, there, other, stands.trans ?_⟩
  rw [appended, append_assoc]
  exact prefix_append _ _

theorem counted_of_ends (counted : Counted serial data queue state)
    (ends : consoleRound serial virtualiser data count state = .ends final) :
    Counted serial data queue final := by
  rcases call.of_ends placed ends with ⟨_, same⟩ | ⟨_, sent, appended⟩
  · exact same ▸ counted
  · rw [Counted, appended, sent]
    exact call.counted_batch placed counted

theorem corrupted_of_ends (corrupted : Corrupted serial data queue state)
    (ends : consoleRound serial virtualiser data count state = .ends final) :
    Corrupted serial data queue final := by
  rcases call.of_ends placed ends with ⟨_, same⟩ | ⟨_, sent, appended⟩
  · exact same ▸ corrupted
  · obtain ⟨position, c, earlier, there, other, stands⟩ := corrupted
    refine ⟨position, c, by omega, there, other, stands.trans ?_⟩
    rw [appended]
    exact prefix_append _ _

theorem goesOn_of_overlooked (overlooked : Overlooked serial virtualiser data count state) :
    ∃ next, GoesOn (consoleRound serial virtualiser data count) state next := by
  obtain ⟨open_, less, room⟩ := overlooked
  have enq := call.batchOf_count placed
  have stop := (@stopOf_cases Queue data count state call.small placed).1
  have ongoing : ¬ (state.sent + (batchOf serial virtualiser data count state).1 = count ∨
      serial.queueFree (checkedOf serial virtualiser data count state) < 2) := by
    omega
  have taken := call.consoleRound_eq placed
  rw [if_neg (Nat.not_le.mpr open_), if_neg ongoing] at taken
  exact ⟨_, taken⟩

end

end ConsoleCall

end

/-- A write to the console returns, and has put the bytes that it counts into the queue, exactly if
no round lets room for two bytes appear after the queue did not take all of its batch. -/
theorem console_writes_counted_iff {Queue : Type} {serial : SerialQueue Queue}
    {virtualiser : Nat → Queue → Queue} {data : List UInt8T} {count : Nat}
    (call : ConsoleCall serial virtualiser data count) (queue : Queue) :
    WritesCounted serial virtualiser data count queue ↔
      ∀ state, GetsTo (consoleRound serial virtualiser data count) (consoleStart queue) state →
        ¬ Overlooked serial virtualiser data count state := by
  have placed {state : ConsoleState Queue}
      (gets : GetsTo (consoleRound serial virtualiser data count) (consoleStart queue) state) :
      Placed count state := call.placed_of_getsTo ⟨rfl, Nat.zero_le _⟩ gets
  have initial : Counted serial data queue (consoleStart queue) :=
    (append_nil _).symm
  obtain ⟨final, returned⟩ := call.returns queue
  obtain ⟨last, reached, ends⟩ := ends_of_loop returned
  have written : WritesCounted serial virtualiser data count queue ↔
      Counted serial data queue final := by
    unfold WritesCounted consoleWrite
    rw [returned]
    constructor
    · rintro ⟨_, ⟨⟩, counted⟩
      exact counted
    · exact fun counted => ⟨_, rfl, counted⟩
  rw [written]
  constructor
  · intro counted state gets overlooked
    -- From the first round that overlooks room on, the queue is corrupted.
    have either {state : ConsoleState Queue}
        (gets : GetsTo (consoleRound serial virtualiser data count) (consoleStart queue) state) :
        Counted serial data queue state ∨ Corrupted serial data queue state := by
      refine gets.invariant (fun state => Counted serial data queue state ∨
        Corrupted serial data queue state) (.inl initial) fun state next gets before goesOn => ?_
      rcases before with counted | corrupted
      · by_cases overlooked : Overlooked serial virtualiser data count state
        · exact .inr (call.corrupted_of_overlooked (placed gets) counted overlooked goesOn)
        · exact .inl (call.counted_of_goesOn (placed gets) counted overlooked goesOn)
      · exact .inr (call.corrupted_of_goesOn (placed gets) corrupted goesOn)
    obtain ⟨next, goesOn⟩ := call.goesOn_of_overlooked (placed gets) overlooked
    have corrupted : Corrupted serial data queue next := by
      rcases either gets with counted | corrupted
      · exact call.corrupted_of_overlooked (placed gets) counted overlooked goesOn
      · exact call.corrupted_of_goesOn (placed gets) corrupted goesOn
    have reachesNext := gets.tail goesOn
    obtain ⟨rest, returned⟩ := GetsTo.returned reachesNext returned
    obtain ⟨last, further, ends⟩ := ends_of_loop returned
    have stays : Corrupted serial data queue last :=
      further.invariant _ corrupted fun state next further corrupted goesOn =>
        call.corrupted_of_goesOn (placed (reachesNext.trans further)) corrupted goesOn
    have atEnd := call.corrupted_of_ends (placed (reachesNext.trans further)) stays ends
    exact atEnd.not_counted counted
  · intro noticed
    refine call.counted_of_ends (placed reached) ?_ ends
    exact reached.invariant _ initial fun state next gets counted goesOn =>
      call.counted_of_goesOn (placed gets) counted (noticed state gets) goesOn

theorem console_writes_counted_iff_of_line :
    WritesCounted (Pipe.queue 4) (fun _ pipe => pipe.drain 0) [65, newline] 2 Pipe.empty ↔
      ∀ state, GetsTo (consoleRound (Pipe.queue 4) (fun _ pipe => pipe.drain 0) [65, newline] 2)
          (consoleStart Pipe.empty) state →
        ¬ Overlooked (Pipe.queue 4) (fun _ pipe => pipe.drain 0) [65, newline] 2 state :=
  console_writes_counted_iff
    { fits := Pipe.queue_enqueuesWhatFits (by decide)
      drains := Pipe.queue_onlyDrains 4 fun _ => 0
      long := Nat.le_refl 2
      small := by decide } Pipe.empty

/-- The queue takes two of three letters, and the virtualiser takes them out at once. -/
theorem console_writes_corrupted : ¬ WritesCounted (Pipe.queue 2)
    (fun time pipe => pipe.drain (if time = 1 then 2 else 0)) [65, 66, 67] 3 Pipe.empty := by
  rintro ⟨written, same, counted⟩
  cases same
  exact absurd counted (by decide)

end LionsOS.Serial

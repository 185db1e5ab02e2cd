/-
This file keeps account of the receive window of a connected socket. lwIP takes
what a segment brings out of the window it advertises, and each read gives back
through `tcp_recved` what it hands to the application. The length that
`tcp_recved` is given has 16 bits, the receive buffer holds far more, and a read
of 65536 bytes or more gives back too little.
-/

import LionsOS.Sock.ReceiveQueues

namespace LionsOS.Sock

open StepRun BoundedQueue

/-! ### The account -/

def tcpMss : Nat := 1460
def tcpWnd : Nat := 1000 * tcpMss

/-- The `u16_t` that the count of a read becomes. -/
def tcpRecvedLen (copied : Nat) : Nat :=
  copied % 2 ^ 16

/-- The bytes that a call hands to the application. -/
def Outcome.handed : Outcome → Nat
  | .received bytes => bytes.length
  | _ => 0

/-- The bytes of a segment that is accepted. -/
def accepted : Receiving × Outcome → Nat
  | (.segment p, .returns _) => p.length
  | _ => 0

/-- The bytes that a read asks for. -/
def Receiving.asked : Receiving → Nat
  | .segment _ => 0
  | .recv len _ | .resume _ len => len

/-- The socket layer, and what was received, handed out and credited on one socket. -/
structure Account where
  layer : SocketLayer
  received : Nat
  handed : Nat
  credited : Nat

open Account

namespace Account

def start (layer : SocketLayer) : Account where
  layer := layer
  received := 0
  handed := 0
  credited := 0

def after (account : Account) (label : Receiving × Outcome) (layer : SocketLayer) : Account where
  layer := layer
  received := account.received + accepted label
  handed := account.handed + label.2.handed
  credited := account.credited + tcpRecvedLen label.2.handed

/-- The window that lwIP advertises. -/
def window (account : Account) : Int :=
  tcpWnd - account.received + account.credited

end Account

def AccountStep (index : Fin maxSockets) (account : Account) (label : Receiving × Outcome)
    (next : Account) : Prop :=
  ReceiveStep index account.layer label next.layer ∧ next = account.after label next.layer

/-- What was handed out has been credited. The buffer holds the rest, and the window is open again
once it is empty. -/
structure Account.Balanced (index : Fin maxSockets) (account : Account) : Prop where
  credited : account.credited = account.handed
  held : account.received = account.credited + (account.layer.sockets index).rx.rxLen
  window : (account.layer.sockets index).rx.rxLen = 0 → account.window = tcpWnd

/-- A read copies fewer bytes than 16 bits can count. -/
def ReadsShort (index : Fin maxSockets) (account : Account) (label : Receiving × Outcome) : Prop :=
  min label.1.asked (account.layer.sockets index).rx.rxLen < 2 ^ 16

/-! ### What a step moves -/

variable {index : Fin maxSockets} {queue longer : ByteQueue} {label : Receiving × Outcome}
  {account next : Account} {layer : SocketLayer}

theorem ByteQueue.read_moves (queue : ByteQueue) (len : Nat) {none : Outcome}
    (nothing : none.handed = 0) :
    (queue.read len none).1.handed = min len queue.items.length ∧
      (queue.read len none).2.items.length + (queue.read len none).1.handed =
        queue.items.length := by
  unfold ByteQueue.read
  by_cases empty : queue.items = []
  · simp [empty, nothing]
  · simp only [if_neg empty, take, Outcome.handed, List.length_take, List.length_drop]
    exact ⟨trivial, by omega⟩

/-- A queue hands out what is asked for, or all there is, and grows by what it accepts. -/
theorem ByteQueue.receiving_moves (queue : ByteQueue) (event : Receiving) :
    (queue.receiving event).1.handed = min event.asked queue.items.length ∧
      (queue.receiving event).2.items.length + (queue.receiving event).1.handed =
        queue.items.length + accepted (event, (queue.receiving event).1) := by
  cases event with
  | segment p =>
    simp only [ByteQueue.receiving]
    rcases Nat.lt_or_ge socketBufSize (queue.items.length + p.length) with full | fits
    · rw [put_of_full full]
      exact ⟨rfl, rfl⟩
    · rw [put_of_fits fits]
      exact ⟨rfl, List.length_append⟩
  | recv len nonblock => exact queue.read_moves len (by cases nonblock <;> rfl)
  | resume position len => exact queue.read_moves len rfl

theorem moves_of_step (step : QueueStep queue label longer) :
    label.2.handed = min label.1.asked queue.items.length ∧
      longer.items.length + label.2.handed = queue.items.length + accepted label := by
  have moves := queue.receiving_moves label.1
  rw [show queue.receiving label.1 = (label.2, longer) from step] at moves
  exact moves

namespace Account

/-- The socket holds what was received and not handed out. -/
def Keeps (index : Fin maxSockets) (account : Account) : Prop :=
  ∃ queue, account.layer.Represents index queue ∧
    account.received = account.handed + queue.items.length

theorem keeps_start (fresh : layer.JustConnected index) : (start layer).Keeps index :=
  ⟨_, fresh.represents, rfl⟩

theorem balanced_start (fresh : layer.JustConnected index) : (start layer).Balanced index where
  credited := rfl
  held := by
    rw [start, fresh.rxLen]
  window _ := by
    show (tcpWnd : Int) - 0 + 0 = tcpWnd
    omega

theorem step_keeps (keeps : account.Keeps index) (step : AccountStep index account label next) :
    next.Keeps index := by
  obtain ⟨queue, represents, received⟩ := keeps
  obtain ⟨taken, same⟩ := step
  obtain ⟨longer, queueStep, after⟩ := represents.step taken
  obtain ⟨_, length⟩ := moves_of_step queueStep
  refine ⟨longer, after, ?_⟩
  rw [same]
  show account.received + accepted label = account.handed + label.2.handed + longer.items.length
  omega

theorem step_balanced_iff (keeps : account.Keeps index) (balanced : account.Balanced index)
    (step : AccountStep index account label next) :
    next.Balanced index ↔ ReadsShort index account label := by
  obtain ⟨queue, represents, received⟩ := keeps
  obtain ⟨taken, same⟩ := step
  obtain ⟨longer, queueStep, after⟩ := represents.step taken
  obtain ⟨handed, length⟩ := moves_of_step queueStep
  have nextReceived : next.received = account.received + accepted label :=
    congrArg Account.received same
  have nextHanded : next.handed = account.handed + label.2.handed := congrArg Account.handed same
  have nextCredited : next.credited = account.credited + label.2.handed % 2 ^ 16 :=
    congrArg Account.credited same
  have credited := balanced.credited
  rw [ReadsShort, represents.length, ← handed]
  constructor
  · intro ⟨credits, _, _⟩
    have exact : label.2.handed % 2 ^ 16 = label.2.handed := by omega
    exact exact ▸ Nat.mod_lt _ (by decide)
  · intro short
    have held : next.received = next.credited + (next.layer.sockets index).rx.rxLen := by
      rw [after.length]
      omega
    refine ⟨by omega, held, fun empty => ?_⟩
    rw [Account.window]
    omega

end Account

/-- What a socket receives equals what it has credited and what it still holds, and the window is
not lost, exactly as long as every read copies fewer than 65536 bytes. -/
theorem credits_iff {index : Fin maxSockets} {layer : SocketLayer}
    {labels : List (Receiving × Outcome)} {account : Account}
    (fresh : layer.JustConnected index) :
    Run (Within (Account.Balanced index) (AccountStep index)) (start layer) labels account ↔
      Run (Guarded (ReadsShort index) (AccountStep index)) (start layer) labels
        account := by
  refine run_within_iff_guarded (Account.Keeps index) (keeps_start fresh)
    (balanced_start fresh) ?_ ?_
  · exact fun _ _ _ keeps step => step_keeps keeps step
  · exact fun _ _ _ keeps balanced step => step_balanced_iff keeps balanced step

namespace Account

/-- Every event that may happen has a step. -/
theorem exists_step (account : Account) (represents : account.layer.Represents index queue)
    (event : Receiving) (mayHappen : account.layer.MayHappen index event) :
    ∃ next, AccountStep index account (event, (queue.receiving event).1) next ∧
      next.layer.Represents index (queue.receiving event).2 := by
  obtain ⟨layer, step, after⟩ := represents.exists_step event mayHappen
  exact ⟨account.after _ layer, ⟨step, rfl⟩, after⟩

end Account

/-- A byte comes and is read. -/
theorem credits_iff_of_byte : ∃ account,
    Run (Within (Account.Balanced 0) (AccountStep 0)) (start .allConnected)
      [(.segment [7], .returns 0), (.recv 9 true, .received [7])] account := by
  have fresh := SocketLayer.allConnected_justConnected 0
  obtain ⟨first, segment, represents⟩ := (start .allConnected).exists_step
    fresh.represents (.segment [7]) trivial
  obtain ⟨second, read, _⟩ := first.exists_step represents (.recv 9 true) trivial
  have short (event : Receiving) (few : event.asked ≤ 9) (account : Account)
      (outcome : Outcome) : ReadsShort 0 account (event, outcome) :=
    (Nat.min_le_left _ _).trans_lt (few.trans_lt (by decide))
  have segmentShort := short (.segment [7]) (Nat.zero_le 9)
  have readShort := short (.recv 9 true) le_rfl
  exact ⟨second, (credits_iff fresh).mpr
    ((Run.single ⟨segmentShort _ _, segment⟩).snoc ⟨readShort _ _, read⟩)⟩

/-- The longest segment that the peer may send. -/
def fullSegment : List UInt8T :=
  List.replicate tcpMss 0

/-- Segments come, and nobody reads. -/
theorem Account.exists_filled (count : Nat) (room : count * tcpMss ≤ socketBufSize) :
    ∃ account, ∃ queue : ByteQueue, account.layer.Represents 0 queue ∧
      queue.items.length = count * tcpMss ∧ account.received = count * tcpMss ∧
      account.handed = 0 ∧ account.credited = 0 ∧
      Run (AccountStep 0) (start .allConnected)
        (List.replicate count (.segment fullSegment, .returns 0)) account := by
  induction count with
  | zero =>
    have fresh := SocketLayer.allConnected_justConnected 0
    refine ⟨_, _, fresh.represents, ?_, ?_, rfl, rfl, Run.nil⟩
    · exact (Nat.zero_mul _).symm
    · exact (Nat.zero_mul _).symm
  | succ count inductionHypothesis =>
    rw [Nat.succ_mul] at room
    obtain ⟨account, queue, represents, length, received, handed, credited, run⟩ :=
      inductionHypothesis (Nat.le_of_add_right_le room)
    have segment : fullSegment.length = tcpMss := List.length_replicate
    have fits : queue.items.length + fullSegment.length ≤ socketBufSize := by
      rwa [length, segment]
    have answer : queue.receiving (.segment fullSegment) =
        (.returns 0, ⟨queue.items ++ fullSegment, List.length_append ▸ fits⟩) := by
      rw [ByteQueue.receiving, put_of_fits fits]
    obtain ⟨next, step, after⟩ := account.exists_step represents (.segment fullSegment) trivial
    rw [answer] at step after
    refine ⟨next, _, after, ?_, ?_, ?_, ?_, ?_⟩
    · rw [List.length_append, length, segment, Nat.succ_mul]
    · rw [step.2]
      show account.received + fullSegment.length = _
      rw [received, segment, Nat.succ_mul]
    · rw [step.2]
      exact handed
    · rw [step.2]
      exact credited
    · rw [List.replicate_succ']
      exact run.snoc step

/-- Fifty segments are read at once. All of them are gone from the buffer, and lwIP gets back the
credit for a tenth of them. -/
theorem window_lost : ∃ account : Account, ∃ bytes, Run (AccountStep 0) (start .allConnected)
      (List.replicate 50 (.segment fullSegment, .returns 0) ++
        [(.recv 100000 false, .received bytes)]) account ∧
    account.received = 73000 ∧ account.handed = 73000 ∧ account.credited = 7464 ∧
    (account.layer.sockets 0).rx.rxLen = 0 ∧ account.window = tcpWnd - 65536 := by
  obtain ⟨account, queue, represents, length, received, handed, credited, run⟩ :=
    exists_filled 50 (by decide)
  replace length : queue.items.length = 73000 := length
  have some_bytes : queue.items ≠ [] := by
    rintro empty
    rw [empty] at length
    cases length
  have answer : queue.receiving (.recv 100000 false) =
      (.received (queue.take 100000).1, (queue.take 100000).2) :=
    if_neg some_bytes
  have all : (queue.take 100000).1.length = 73000 := by
    rw [take, List.length_take, length]
    rfl
  obtain ⟨next, step, after⟩ := account.exists_step represents (.recv 100000 false) trivial
  rw [answer] at step after
  have nextReceived : next.received = 73000 := by
    rw [step.2]
    exact received
  have nextCredited : next.credited = 7464 := by
    rw [step.2]
    show account.credited + (queue.take 100000).1.length % 2 ^ 16 = 7464
    rw [credited, all]
    decide
  refine ⟨next, _, run.snoc step, nextReceived, ?_, nextCredited, ?_, ?_⟩
  · rw [step.2]
    show account.handed + (queue.take 100000).1.length = 73000
    rw [handed, all]
  · rw [after.length, take, List.length_drop, length]
  · rw [window, nextReceived, nextCredited]
    rfl

end LionsOS.Sock

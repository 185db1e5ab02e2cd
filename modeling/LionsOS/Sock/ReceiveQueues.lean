/-
This file shows that the receive buffer of a connected socket is a queue of
bytes of a bounded length. Its ring, filled by the receive callback and emptied
by any number of readers, answers every segment and every read as the queue does.
The copies of both loops stay inside the ring, inside the segment and inside the
buffer of the reader.
-/

import LionsOS.Lib.BoundedQueue
import LionsOS.Lib.Runs
import LionsOS.Sock.Tcp

namespace LionsOS.Sock

open StepRun List BoundedQueue

/-! ### The ring as a list of bytes -/

namespace RxBuffer

/-- The bytes in the ring, the oldest one first. -/
def contents (buffer : RxBuffer) : List UInt8T :=
  (range buffer.rxLen).map fun index =>
    buffer.rxBuf ((buffer.rxHead + index) % socketBufSize)

structure InBounds (buffer : RxBuffer) : Prop where
  rxHead : buffer.rxHead < socketBufSize
  rxLen : buffer.rxLen ≤ socketBufSize

variable {buffer : RxBuffer} {returned received : List UInt8T}

@[simp]
theorem length_contents : buffer.contents.length = buffer.rxLen := by
  rw [contents, length_map, length_range]

theorem contents_getElem? {index : Nat} (inside : index < buffer.rxLen) :
    buffer.contents[index]? = some (buffer.rxBuf ((buffer.rxHead + index) % socketBufSize)) := by
  rw [contents, getElem?_map, getElem?_range inside, Option.map_some]

theorem contents_eq_nil_iff : buffer.contents = [] ↔ buffer.rxLen = 0 := by
  rw [← length_eq_zero_iff, length_contents]

theorem Keeps.inBounds (keeps : buffer.Keeps returned received) : buffer.InBounds where
  rxHead := by
    rw [keeps.head]
    exact Nat.mod_lt _ (by decide)
  rxLen := keeps.room

theorem Keeps.contents (keeps : buffer.Keeps returned received) :
    received = returned ++ buffer.contents := by
  obtain ⟨rest, rfl⟩ := keeps.inOrder
  have length := keeps.length
  rw [length_append] at length
  have holds (index : Nat) (inside : index < buffer.rxLen) :
      rest[index]? = some (buffer.rxBuf ((buffer.rxHead + index) % socketBufSize)) := by
    have older : index < rest.length := by omega
    have kept := keeps.holds (returned.length + index) (Nat.le_add_right _ _) rest[index]
      (by rw [getElem?_append_right (Nat.le_add_right _ _), Nat.add_sub_cancel_left,
        getElem?_eq_getElem older])
    rw [getElem?_eq_getElem older, ← kept, keeps.head, slotOfPosition, slotOfPosition,
      Nat.mod_add_mod]
  rw [append_right_inj]
  refine ext_getElem? fun index => ?_
  rcases Nat.lt_or_ge index buffer.rxLen with inside | outside
  · rw [holds index inside, contents_getElem? inside]
  · rw [getElem?_eq_none (by omega), getElem?_eq_none (length_contents ▸ outside)]

theorem InBounds.keeps (inBounds : buffer.InBounds) :
    buffer.Keeps (List.replicate buffer.rxHead 0)
      (List.replicate buffer.rxHead 0 ++ buffer.contents) where
  inOrder := List.prefix_append _ _
  head := by
    rw [List.length_replicate, slotOfPosition, Nat.mod_eq_of_lt inBounds.rxHead]
  length := by
    rw [List.length_append, length_contents]
  room := inBounds.rxLen
  holds := by
    intro position notYet item found
    rw [List.getElem?_append_right notYet] at found
    obtain ⟨inside, value⟩ := List.getElem?_eq_some_iff.mp found
    rw [length_contents] at inside
    rw [contents_getElem? inside, Option.some.injEq] at found
    rw [List.length_replicate] at notYet found
    rw [← found, slotOfPosition, Nat.add_sub_cancel' notYet]

theorem InBounds.copyIn (inBounds : buffer.InBounds) {p : List UInt8T}
    (fits : buffer.rxLen + p.length ≤ socketBufSize) :
    ∃ next, buffer.copyIn p = some next ∧ next.InBounds ∧
      next.contents = buffer.contents ++ p := by
  obtain ⟨next, copied, keeps⟩ := inBounds.keeps.copyIn fits
  refine ⟨next, copied, keeps.inBounds, ?_⟩
  have same := keeps.contents
  rw [append_assoc, append_right_inj] at same
  exact same.symm

theorem InBounds.copyOut (inBounds : buffer.InBounds) (len : Nat) :
    (buffer.copyOut len).1 = buffer.contents.take len ∧
      (buffer.copyOut len).2.contents = buffer.contents.drop len ∧
      (buffer.copyOut len).2.InBounds := by
  obtain ⟨keeps, length⟩ := inBounds.keeps.copyOut len
  have same := keeps.contents
  rw [append_assoc, append_right_inj] at same
  have short : (buffer.copyOut len).1.length = (buffer.contents.take len).length := by
    rw [length, length_take, length_contents]
  rw [← take_append_drop len buffer.contents] at same
  obtain ⟨first, rest⟩ := append_inj same short.symm
  exact ⟨first.symm, rest.symm, keeps.inBounds⟩

/-! ### The copies -/

/-- A copy of `toCopy` bytes between the ring at `rxStart` and a segment, or the buffer of a reader,
at `copied`. -/
structure RxCopy where
  rxStart : Nat
  copied : Nat
  toCopy : Nat

/-- The copy is inside the ring, and inside the `total` bytes of the other side. -/
structure RxCopy.Inside (copy : RxCopy) (total : Nat) : Prop where
  ring : copy.rxStart + copy.toCopy ≤ socketBufSize
  other : copy.copied + copy.toCopy ≤ total

/-- The copies that the loop of `copyIn` makes. -/
def copiesIn (buffer : RxBuffer) (p : List UInt8T) (copied : Nat) : List RxCopy :=
  if p = [] then []
  else
    let rxTail := (buffer.rxHead + buffer.rxLen) % socketBufSize
    let toCopy := min p.length (socketBufSize - max buffer.rxLen rxTail)
    if toCopy = 0 then []
    else
      ⟨rxTail, copied, toCopy⟩ ::
        copiesIn { buffer with rxLen := buffer.rxLen + toCopy } (p.drop toCopy) (copied + toCopy)
termination_by p.length
decreasing_by
  rw [length_drop]
  omega

/-- The copies that the loop of `copyOut` makes. -/
def copiesOut (buffer : RxBuffer) (len copied : Nat) : List RxCopy :=
  let toCopy := min len (min buffer.rxLen (socketBufSize - buffer.rxHead))
  if toCopy = 0 then []
  else
    ⟨buffer.rxHead, copied, toCopy⟩ :: copiesOut
        { buffer with
          rxHead := (buffer.rxHead + toCopy) % socketBufSize
          rxLen := buffer.rxLen - toCopy }
        (len - toCopy) (copied + toCopy)
termination_by len

theorem copiesIn_inside (buffer : RxBuffer) (p : List UInt8T) (copied : Nat) :
    ∀ copy ∈ buffer.copiesIn p copied, copy.Inside (copied + p.length) := by
  fun_induction copiesIn buffer p copied with
  | case1 => nofun
  | case2 => nofun
  | case3 buffer p copied some rxTail toCopy copies inductionHypothesis =>
    have most : toCopy ≤ p.length := Nat.min_le_left _ _
    rw [length_drop] at inductionHypothesis
    intro copy member
    rcases mem_cons.mp member with rfl | later
    · exact ⟨show rxTail + toCopy ≤ socketBufSize by omega, Nat.add_le_add_left most _⟩
    · obtain ⟨ring, other⟩ := inductionHypothesis copy later
      exact ⟨ring, by omega⟩

theorem copiesOut_inside (buffer : RxBuffer) (len copied : Nat)
    (head : buffer.rxHead < socketBufSize) :
    ∀ copy ∈ buffer.copiesOut len copied, copy.Inside (copied + len) := by
  fun_induction copiesOut buffer len copied with
  | case1 => nofun
  | case2 buffer len copied toCopy copies inductionHypothesis =>
    have most : toCopy ≤ len := Nat.min_le_left _ _
    intro copy member
    rcases mem_cons.mp member with rfl | later
    · exact ⟨show buffer.rxHead + toCopy ≤ socketBufSize by omega, Nat.add_le_add_left most _⟩
    · obtain ⟨ring, other⟩ := inductionHypothesis (Nat.mod_lt _ (by decide)) copy later
      exact ⟨ring, by omega⟩

/-- The loops end, and each of their copies is inside of both sides. -/
structure CopiesSafely (buffer : RxBuffer) : Prop where
  ends : ∀ p : List UInt8T, buffer.rxLen + p.length ≤ socketBufSize → (buffer.copyIn p).isSome
  into : ∀ p : List UInt8T, ∀ copy ∈ buffer.copiesIn p 0, copy.Inside p.length
  out : ∀ len, ∀ copy ∈ buffer.copiesOut len 0, copy.Inside len

theorem InBounds.copiesSafely (inBounds : buffer.InBounds) : buffer.CopiesSafely where
  ends p fits := by
    obtain ⟨next, copied, _⟩ := inBounds.copyIn fits
    rw [copied, Option.isSome_some]
  into p copy member := by
    have inside := buffer.copiesIn_inside p 0 copy member
    rwa [Nat.zero_add] at inside
  out len copy member := by
    have inside := buffer.copiesOut_inside len 0 inBounds.rxHead copy member
    rwa [Nat.zero_add] at inside

end RxBuffer

/-! ### Segments and reads of one socket -/

inductive Receiving where
  /-- `socket_recv_callback` is called with a segment. -/
  | segment (p : List UInt8T)
  | recv (len : Nat) (nonblock : Bool)
  /-- A reader that was woken goes on. -/
  | resume (position len : Nat)

namespace SocketLayer

def receiving (layer : SocketLayer) (index : Fin maxSockets) :
    Receiving → Except Fault (Outcome × SocketLayer)
  | .segment p => layer.socketRecvSegment (some index) p
  | .recv len nonblock => layer.tcpSocketRecv index len nonblock
  | .resume position len =>
    (layer.recvEnd index len ((layer.sockets index).recvLoop len)).map fun result =>
      (result.1, { result.2 with woken := result.2.woken.eraseIdx position })

/-- A reader can only go on if it was woken. -/
def MayHappen (layer : SocketLayer) (index : Fin maxSockets) : Receiving → Prop
  | .resume position len => layer.woken[position]? = some (index, .recv len)
  | _ => True

end SocketLayer

/-- A step of one socket, with how the call ends or that it waits. -/
def ReceiveStep (index : Fin maxSockets) (layer : SocketLayer) (label : Receiving × Outcome)
    (next : SocketLayer) : Prop :=
  layer.MayHappen index label.1 ∧ layer.receiving index label.1 = .ok (label.2, next)

/-! ### The queue -/

abbrev ByteQueue := BoundedQueue UInt8T socketBufSize

namespace ByteQueue

/-- A read takes what there is, and waits or fails if there is nothing. -/
def read (queue : ByteQueue) (len : Nat) (none : Outcome) : Outcome × ByteQueue :=
  if queue.items = [] then (none, queue)
  else (.received (queue.take len).1, (queue.take len).2)

/-- How a queue answers. -/
def receiving (queue : ByteQueue) : Receiving → Outcome × ByteQueue
  | .segment p =>
    match queue.put p with
    | some longer => (.returns 0, longer)
    | none => (.fails .enomem, queue)
  | .recv len nonblock => queue.read len (if nonblock then .fails .eagain else .waits)
  | .resume _ len => queue.read len .waits

end ByteQueue

def QueueStep (queue : ByteQueue) (label : Receiving × Outcome) (next : ByteQueue) : Prop :=
  queue.receiving label.1 = (label.2, next)

namespace SocketLayer

variable {layer next : SocketLayer} {index : Fin maxSockets} {queue : ByteQueue}

/-- A connected socket whose ring holds what a queue does. -/
structure Represents (layer : SocketLayer) (index : Fin maxSockets) (queue : ByteQueue) :
    Prop where
  connected : (layer.sockets index).state = .connected
  holds : ∃ tpcb, (layer.sockets index).sockTpcb = some tpcb ∧ layer.Live tpcb
  inBounds : (layer.sockets index).rx.InBounds
  contents : (layer.sockets index).rx.contents = queue.items

/-- A socket that has just been connected, with the ring that `socket_allocate` asserts. -/
structure JustConnected (layer : SocketLayer) (index : Fin maxSockets) : Prop where
  connected : (layer.sockets index).state = .connected
  holds : ∃ tpcb, (layer.sockets index).sockTpcb = some tpcb ∧ layer.Live tpcb
  rxHead : (layer.sockets index).rx.rxHead = 0
  rxLen : (layer.sockets index).rx.rxLen = 0

theorem JustConnected.represents (fresh : layer.JustConnected index) :
    layer.Represents index empty where
  connected := fresh.connected
  holds := fresh.holds
  inBounds := by
    refine ⟨?_, ?_⟩
    · rw [fresh.rxHead]
      decide
    · rw [fresh.rxLen]
      exact Nat.zero_le _
  contents := RxBuffer.contents_eq_nil_iff.mpr fresh.rxLen

section

variable (represents : layer.Represents index queue)
include represents

theorem Represents.length : (layer.sockets index).rx.rxLen = queue.items.length := by
  rw [← represents.contents, RxBuffer.length_contents]

theorem Represents.empty_iff : (layer.sockets index).rx.rxLen = 0 ↔ queue.items = [] := by
  rw [← represents.contents, RxBuffer.contents_eq_nil_iff]

/-- What a socket holds depends on its state, its ring and its PCB. -/
theorem Represents.congr (state : (next.sockets index).state = (layer.sockets index).state)
    (rx : (next.sockets index).rx = (layer.sockets index).rx)
    (sockTpcb : (next.sockets index).sockTpcb = (layer.sockets index).sockTpcb)
    (pcbs : next.pcbs = layer.pcbs) : next.Represents index queue where
  connected := state.trans represents.connected
  holds := by
    obtain ⟨tpcb, holds, live⟩ := represents.holds
    refine ⟨tpcb, sockTpcb.trans holds, ?_⟩
    rw [Live, pcbs]
    exact live
  inBounds := rx ▸ represents.inBounds
  contents := rx ▸ represents.contents

theorem Represents.signal (semaphore : Semaphore) :
    (layer.signal index semaphore).Represents index queue := by
  refine represents.congr ?_ ?_ ?_ rfl <;> simp [SocketLayer.signal, Socket.signal]

theorem Represents.setRx {rx : RxBuffer} (other : ByteQueue) (inBounds : rx.InBounds)
    (contents : rx.contents = other.items) :
    (layer.setSocket index { layer.sockets index with rx }).Represents index other where
  connected := by
    rw [setSocket_sockets_self]
    exact represents.connected
  holds := by
    rw [setSocket_sockets_self]
    exact represents.holds
  inBounds := by
    rw [setSocket_sockets_self]
    exact inBounds
  contents := by
    rw [setSocket_sockets_self]
    exact contents

end

/-! ### What a step does -/

theorem Represents.segment (represents : layer.Represents index queue) (p : List UInt8T) :
    ∃ next, layer.socketRecvSegment (some index) p = .ok ((queue.receiving (.segment p)).1, next) ∧
      next.Represents index (queue.receiving (.segment p)).2 := by
  have length := represents.length
  have bounded := queue.bounded
  simp only [socketRecvSegment, represents.connected, ByteQueue.receiving]
  rcases Nat.lt_or_ge socketBufSize (queue.items.length + p.length) with full | fits
  · have refused : socketBufSize - (layer.sockets index).rx.rxLen < p.length := by omega
    rw [Socket.receive, if_pos refused, put_of_full full]
    exact ⟨layer, rfl, represents⟩
  · have room : ¬ socketBufSize - (layer.sockets index).rx.rxLen < p.length := by omega
    obtain ⟨rx, copied, inBounds, contents⟩ := represents.inBounds.copyIn (length ▸ fits)
    rw [represents.contents] at contents
    rw [Socket.receive, if_neg room, copied, put_of_fits fits]
    exact ⟨_, rfl, (represents.setRx ⟨_, _⟩ inBounds contents).signal .recvSem⟩

section

variable (represents : layer.Represents index queue)
include represents

theorem Represents.copyOut (len : Nat) :
    ∃ next, layer.recvEnd index len ((layer.sockets index).copyOut len) =
        .ok (.received (queue.take len).1, next) ∧
      next.Represents index (queue.take len).2 ∧ next.woken = layer.woken := by
  obtain ⟨tpcb, holds, live⟩ := represents.holds
  obtain ⟨bytes, rest, inBounds⟩ := represents.inBounds.copyOut len
  rw [represents.contents] at bytes rest
  have alive : layer.alive (layer.sockets index).sockTpcb = .ok tpcb := by
    rw [holds]
    exact if_pos live
  simp only [recvEnd, Socket.copyOut, alive, bytes]
  exact ⟨_, rfl, represents.setRx _ inBounds rest, rfl⟩

theorem Represents.recvLoop (len : Nat) :
    ∃ next, layer.recvEnd index len ((layer.sockets index).recvLoop len) =
        .ok ((queue.read len .waits).1, next) ∧
      next.Represents index (queue.read len .waits).2 ∧ next.woken = layer.woken := by
  simp only [Socket.recvLoop, ByteQueue.read, represents.empty_iff, represents.connected]
  by_cases empty : queue.items = []
  · simp only [empty, recvEnd]
    refine ⟨_, rfl, represents.congr ?_ ?_ ?_ rfl, rfl⟩ <;> simp [wait, Socket.wait]
  · simp only [empty]
    exact represents.copyOut len

theorem Represents.recv (len : Nat) (nonblock : Bool) :
    ∃ next, layer.tcpSocketRecv index len nonblock =
        .ok ((queue.receiving (.recv len nonblock)).1, next) ∧
      next.Represents index (queue.receiving (.recv len nonblock)).2 := by
  simp only [tcpSocketRecv, Socket.tcpSocketRecv, represents.connected, ne_eq, represents.empty_iff,
    ByteQueue.receiving]
  by_cases empty : queue.items = []
  · cases nonblock with
    | true =>
      simp only [ByteQueue.read, if_pos empty]
      exact ⟨layer, rfl, represents⟩
    | false =>
      simp only [if_pos empty]
      obtain ⟨next, returned, after, _⟩ := represents.recvLoop len
      exact ⟨next, returned, after⟩
  · simp only [ByteQueue.read, if_neg empty]
    obtain ⟨next, returned, after, _⟩ := represents.copyOut len
    exact ⟨next, returned, after⟩

theorem Represents.receiving (event : Receiving) :
    ∃ next, layer.receiving index event = .ok ((queue.receiving event).1, next) ∧
      next.Represents index (queue.receiving event).2 := by
  cases event with
  | segment p => exact represents.segment p
  | recv len nonblock => exact represents.recv len nonblock
  | resume position len =>
    obtain ⟨next, returned, after, _⟩ := represents.recvLoop len
    refine ⟨{ next with woken := next.woken.eraseIdx position }, ?_, after.congr rfl rfl rfl rfl⟩
    rw [SocketLayer.receiving, returned]
    rfl

theorem Represents.exists_step (event : Receiving) (mayHappen : layer.MayHappen index event) :
    ∃ next, ReceiveStep index layer (event, (queue.receiving event).1) next ∧
      next.Represents index (queue.receiving event).2 := by
  obtain ⟨next, returned, after⟩ := represents.receiving event
  exact ⟨next, ⟨mayHappen, returned⟩, after⟩

theorem Represents.step {label : Receiving × Outcome} (step : ReceiveStep index layer label next) :
    ∃ longer, QueueStep queue label longer ∧ next.Represents index longer := by
  obtain ⟨after, returned, represented⟩ := represents.receiving label.1
  rw [step.2, Except.ok.injEq, Prod.mk.injEq] at returned
  obtain ⟨outcome, rfl⟩ := returned
  exact ⟨_, Prod.ext outcome.symm rfl, represented⟩

end

end SocketLayer

/-- However the segments and the reads of a connected socket are interleaved, each ends as it does
on a queue of the bytes, the ring stays in bounds, and every copy stays inside. -/
theorem receives_as_queue {index : Fin maxSockets} {start layer : SocketLayer}
    {labels : List (Receiving × Outcome)} (fresh : start.JustConnected index)
    (run : Run (ReceiveStep index) start labels layer) :
    ∃ queue : ByteQueue, Run QueueStep empty labels queue ∧
      (layer.sockets index).rx.contents = queue.items ∧ (layer.sockets index).rx.InBounds ∧
      (layer.sockets index).rx.CopiesSafely := by
  have simulated : ∃ queue : ByteQueue, Run QueueStep empty labels queue ∧
      layer.Represents index queue := by
    induction run with
    | nil => exact ⟨_, Run.nil, fresh.represents⟩
    | snoc _ last inductionHypothesis =>
      obtain ⟨queue, before, represents⟩ := inductionHypothesis
      obtain ⟨longer, step, after⟩ := represents.step last
      exact ⟨longer, before.snoc step, after⟩
  obtain ⟨queue, run, represents⟩ := simulated
  exact ⟨queue, run, represents.contents, represents.inBounds, represents.inBounds.copiesSafely⟩

/-- All slots are connected, and nothing has come yet. -/
def SocketLayer.allConnected : SocketLayer where
  sockets index := { Socket.zeroed with state := .connected, sockTpcb := some index }
  socketRefcount _ := 1
  pcbs tpcb :=
    { LwipPcb.fresh .established (some (Fin.ofNat maxSockets tpcb)) 0 with
      errFunc := true
      recvFunc := true }
  nextPcb := maxSockets
  woken := []
  fault := none

theorem SocketLayer.allConnected_justConnected (index : Fin maxSockets) :
    allConnected.JustConnected index :=
  ⟨rfl, ⟨index, rfl, nofun⟩, rfl, rfl⟩

/-- Two bytes come, and two reads get one of them each. -/
theorem receives_as_queue_of_two : ∃ layer : SocketLayer, ∃ queue : ByteQueue, Run QueueStep empty
      [(.segment [7, 8], .returns 0), (.recv 1 false, .received [7]),
        (.recv 9 true, .received [8])] queue ∧
    (layer.sockets 0).rx.contents = queue.items ∧ (layer.sockets 0).rx.InBounds ∧
    (layer.sockets 0).rx.CopiesSafely := by
  have fresh := SocketLayer.allConnected_justConnected 0
  obtain ⟨_, segment, represents⟩ := fresh.represents.exists_step (.segment [7, 8]) trivial
  obtain ⟨_, one, represents⟩ := represents.exists_step (.recv 1 false) trivial
  obtain ⟨_, rest, _⟩ := represents.exists_step (.recv 9 true) trivial
  exact ⟨_, receives_as_queue fresh (((Run.single segment).snoc one).snoc rest)⟩

end LionsOS.Sock

/-
This file compares what the peer of a connected socket sends with what is read
from the socket. lwIP hands over the segments of the peer's stream in order, and
the peer's FIN behind the last of them; any number of calls of `tcp_socket_recv`
read, wait and go on in between. What is read is always a prefix of what was
sent. When the FIN comes, however, the socket is no longer connected, and what is
still in its buffer cannot be read.
-/

import LionsOS.Lib.Runs
import LionsOS.Sock.Socket

namespace LionsOS.Sock

open StepRun

/-! ### A connection -/

/-- A connected socket, the readers that were woken, and the histories of its stream. -/
structure Connection where
  socket : Socket
  /-- Readers that have been signalled and have not run yet. -/
  woken : List Blocked
  /-- The bytes the socket has accepted from lwIP. -/
  received : List UInt8T
  /-- What all calls of `tcp_socket_recv` have returned, one after the other. -/
  returned : List UInt8T
  finReceived : Bool

open Connection

inductive ReadEvent where
  | segment (p : List UInt8T)
  | fin
  | recv (len : Nat) (nonblock : Bool)
  /-- A reader that was woken goes on. -/
  | resume (index : Nat)

namespace Connection

/-- Wake a reader, if one waits. -/
def wakeReader (connection : Connection) : Connection :=
  { connection with
    socket := connection.socket.signal .recvSem
    woken := connection.woken ++ (connection.socket.waiters .recvSem).take 1 }

/-- A call of `tcp_socket_recv` has come to its next wait or its end. -/
def settle (connection : Connection) (len : Nat) : Socket.RecvOutcome → Connection
  | .fails _ => connection
  | .waits => { connection with socket := connection.socket.wait .recvSem (.recv len) }
  | .returns bytes rx =>
    { connection with
      socket := { connection.socket with rx }
      returned := connection.returned ++ bytes }

/-- What an event does, when the peer sends `stream`. -/
def perform (stream : List UInt8T) (connection : Connection) : ReadEvent → Option Connection
  | .segment p =>
    if connection.finReceived = false ∧ connection.received ++ p <+: stream then
      match connection.socket.receive p with
      | some socket =>
        some { connection with socket, received := connection.received ++ p }.wakeReader
      | none => some connection
    else none
  | .fin =>
    if connection.finReceived = false ∧ connection.received = stream then
      some { connection with
        socket := { connection.socket with state := .closedByPeer }
        finReceived := true }.wakeReader
    else none
  | .recv len nonblock =>
    some (connection.settle len (connection.socket.tcpSocketRecv len nonblock))
  | .resume index =>
    match connection.woken[index]? with
    | some (.recv len) =>
      some ({ connection with woken := connection.woken.eraseIdx index }.settle len
        (connection.socket.recvLoop len))
    | _ => none

/-- A socket has just been connected. -/
structure Initial (connection : Connection) : Prop where
  connected : connection.socket.state = .connected
  rx : connection.socket.rx.rxHead = 0 ∧ connection.socket.rx.rxLen = 0
  nobody : connection.socket.waiters .recvSem = [] ∧ connection.woken = []
  received : connection.received = []
  returned : connection.returned = []
  finReceived : connection.finReceived = false

end Connection

def ReadStep (stream : List UInt8T) (connection : Connection) (event : ReadEvent)
    (next : Connection) : Prop :=
  connection.perform stream event = some next

namespace Connection

variable {stream : List UInt8T} {connection next : Connection} {event : ReadEvent}

/-! ### What every step keeps -/

/-- The buffer holds what was received and not returned, and the socket is connected until the FIN
comes. -/
structure Sound (stream : List UInt8T) (connection : Connection) : Prop where
  keeps : connection.socket.rx.Keeps connection.returned connection.received
  sent : connection.received <+: stream
  state : connection.socket.state =
    if connection.finReceived then SocketState.closedByPeer else SocketState.connected

theorem Initial.sound (initial : connection.Initial) : connection.Sound stream where
  keeps := by
    rw [initial.received, initial.returned]
    refine ⟨List.prefix_rfl, initial.rx.1, ?_, ?_, RingBuffer.Holds.nil⟩
    · exact (Nat.zero_add _).trans initial.rx.2
    · rw [initial.rx.2]
      exact Nat.zero_le _
  sent := by
    rw [initial.received]
    exact List.nil_prefix
  state := by
    rw [initial.connected, initial.finReceived]
    rfl

section

variable (sound : connection.Sound stream)
include sound

theorem Sound.wakeReader : connection.wakeReader.Sound stream :=
  ⟨sound.keeps, sound.sent, sound.state⟩

theorem Sound.receive {p : List UInt8T} {socket : Socket}
    (received : connection.socket.receive p = some socket) :
    socket.rx.Keeps connection.returned (connection.received ++ p) ∧
      socket.state = connection.socket.state := by
  obtain ⟨room, copied⟩ := Option.ite_none_left_eq_some.mp received
  obtain ⟨rx, copies, rfl⟩ := Option.map_eq_some_iff.mp copied
  have fits : connection.socket.rx.rxLen + p.length ≤ socketBufSize :=
    Nat.add_le_of_le_sub' sound.keeps.room (Nat.le_of_not_lt room)
  obtain ⟨kept, same, keeps⟩ := sound.keeps.copyIn fits
  rw [copies, Option.some.injEq] at same
  exact ⟨same ▸ keeps, rfl⟩

theorem Sound.settle_copyOut (len : Nat) :
    (connection.settle len (connection.socket.copyOut len)).Sound stream :=
  ⟨(sound.keeps.copyOut len).1, sound.sent, sound.state⟩

theorem Sound.settle_recvLoop (len : Nat) :
    (connection.settle len (connection.socket.recvLoop len)).Sound stream := by
  unfold Socket.recvLoop
  split_ifs
  · exact ⟨sound.keeps, sound.sent, sound.state⟩
  · exact sound.settle_copyOut len

theorem Sound.settle_recv (len : Nat) (nonblock : Bool) :
    (connection.settle len (connection.socket.tcpSocketRecv len nonblock)).Sound stream := by
  unfold Socket.tcpSocketRecv
  split_ifs
  · exact sound
  · exact sound
  · exact sound.settle_recvLoop len
  · exact sound.settle_copyOut len

end

/-- The events that can happen, each with what it does. -/
inductive Acts (stream : List UInt8T) (connection : Connection) : ReadEvent → Connection → Prop
  | accepted {p : List UInt8T} {socket : Socket} (ongoing : connection.finReceived = false)
    (inOrder : connection.received ++ p <+: stream)
    (received : connection.socket.receive p = some socket) :
    Acts stream connection (.segment p)
      { connection with socket, received := connection.received ++ p }.wakeReader
  | refused {p : List UInt8T} : Acts stream connection (.segment p) connection
  | fin (ongoing : connection.finReceived = false) (all : connection.received = stream) :
    Acts stream connection .fin
      { connection with
        socket := { connection.socket with state := .closedByPeer }
        finReceived := true }.wakeReader
  | recv {len : Nat} {nonblock : Bool} :
    Acts stream connection (.recv len nonblock)
      (connection.settle len (connection.socket.tcpSocketRecv len nonblock))
  | resume {index len : Nat} :
    Acts stream connection (.resume index)
      ({ connection with woken := connection.woken.eraseIdx index }.settle len
        (connection.socket.recvLoop len))

theorem acts (step : ReadStep stream connection event next) : connection.Acts stream event next := by
  unfold ReadStep at step
  cases event with
  | segment p =>
    obtain ⟨⟨ongoing, inOrder⟩, performed⟩ := Option.ite_none_right_eq_some.mp step
    cases received : connection.socket.receive p with
    | none =>
      simp only [received, Option.some.injEq] at performed
      subst performed
      exact Acts.refused
    | some socket =>
      simp only [received, Option.some.injEq] at performed
      subst performed
      exact Acts.accepted ongoing inOrder received
  | fin =>
    obtain ⟨⟨ongoing, all⟩, same⟩ := Option.ite_none_right_eq_some.mp step
    cases same
    exact Acts.fin ongoing all
  | recv len nonblock =>
    cases step
    exact Acts.recv
  | resume index =>
    simp only [perform] at step
    split at step
    · cases step
      exact Acts.resume
    · cases step

/-- The FIN comes behind the last byte. -/
def closedByPeer (connection : Connection) : Connection :=
  { connection with
    socket := { connection.socket with state := .closedByPeer }
    finReceived := true }.wakeReader

theorem step_sound (sound : connection.Sound stream)
    (step : ReadStep stream connection event next) : next.Sound stream := by
  cases acts step with
  | accepted ongoing inOrder received =>
    obtain ⟨keeps, state⟩ := sound.receive received
    exact Sound.wakeReader ⟨keeps, inOrder, state.trans sound.state⟩
  | refused => exact sound
  | fin ongoing all => exact Sound.wakeReader ⟨sound.keeps, sound.sent, rfl⟩
  | recv => exact sound.settle_recv _ _
  | @resume index len =>
    have before : Sound stream { connection with woken := connection.woken.eraseIdx index } :=
      ⟨sound.keeps, sound.sent, sound.state⟩
    exact before.settle_recvLoop len

/-! ### What can be read -/

section

variable (sound : connection.Sound stream)
include sound

theorem Sound.inOrder : connection.returned <+: stream :=
  sound.keeps.inOrder.trans sound.sent

end

/-- A socket that has just been connected. -/
def opened : Connection where
  socket := { Socket.zeroed with state := .connected, sockTpcb := some 0 }
  woken := []
  received := []
  returned := []
  finReceived := false

end Connection

end LionsOS.Sock

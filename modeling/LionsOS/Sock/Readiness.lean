/-
This file compares what `ppoll` says of a socket with what its calls do. That a
socket is writable is read off the queue of the network driver, and no look is
taken at the socket; that it is readable is read off its accept queue or its
receive buffer, and no look is taken at the end of the stream.
-/

import LionsOS.Sock.Changes

namespace LionsOS.Sock

/-! ### What is reported -/

/-- The transmit queue of the driver has a free buffer. No socket is looked at. -/
def tcpSocketWritable (txFree : Bool) : Bool :=
  txFree

namespace SocketLayer

variable (layer : SocketLayer) (index : Fin maxSockets)

def tcpSocketReadable : Bool :=
  let socket := layer.sockets index
  if socket.state = .listening then socket.acceptQueue.head ≠ socket.acceptQueue.tail
  else socket.rx.rxLen ≠ 0

def tcpSocketHup : Bool :=
  (layer.sockets index).state = .closedByPeer

def tcpSocketErr : Option Errno :=
  if (layer.sockets index).state = .error then
    some ((layer.sockets index).lastError.getD .econnreset)
  else none

end SocketLayer

/-! ### What the calls do -/

/-- `tcp_write` and `tcp_output` have no answer that asks to try again. -/
structure LwipAnswers.NeverBlocks (answers : LwipAnswers) : Prop where
  write : answers.write ≠ some .wouldblock
  output : answers.output ≠ some .wouldblock

theorem lwipErrToErrno_eq_eagain_iff (err : LwipErr) :
    lwipErrToErrno err = .eagain ↔ err = .wouldblock := by
  cases err <;> simp [lwipErrToErrno]

namespace SocketLayer

variable {layer : SocketLayer} {index : Fin maxSockets} {next : SocketLayer}

/-- A nonblocking write of at least one byte ends with `EAGAIN`. -/
def WriteRefused (layer : SocketLayer) (index : Fin maxSockets) : Prop :=
  ∃ len answers next, 0 < len ∧ answers.NeverBlocks ∧
    layer.tcpSocketWrite index len true answers = .ok (.fails .eagain, next)

/-- The connection is on its way, or its send buffer is full, or the error that ended it is
reported. -/
def RefusesWrites (layer : SocketLayer) (index : Fin maxSockets) : Prop :=
  match (layer.sockets index).state with
  | .connecting => True
  | .connected => ∃ tpcb, (layer.sockets index).sockTpcb = some tpcb ∧ layer.Live tpcb ∧
    (layer.pcbs tpcb).sndbuf = 0
  | .error => (layer.sockets index).lastError = some .eagain
  | _ => False

theorem writeErr_ne_wouldblock {pcb : LwipPcb} {answer : Option LwipErr}
    (never : answer ≠ some .wouldblock) : pcb.writeErr answer ≠ some .wouldblock := by
  unfold LwipPcb.writeErr
  split
  · exact never
  · exact nofun

theorem writeEnd_ne_eagain {tpcb : Pcb} {len : Nat} {answers : LwipAnswers}
    (neverBlocks : answers.NeverBlocks) :
    layer.writeEnd tpcb len answers ≠ .ok (.fails .eagain, next) := by
  have other {err : LwipErr} {after : SocketLayer} (different : err ≠ .wouldblock) :
      Except.ok (ε := Fault) (Outcome.fails (lwipErrToErrno err), after) ≠
        .ok (.fails .eagain, next) := by
    intro same
    rw [Except.ok.injEq, Prod.mk.injEq, Outcome.fails.injEq, lwipErrToErrno_eq_eagain_iff] at same
    exact different same.1
  unfold writeEnd
  dsimp only
  split
  · exact nofun
  · split
    · rename_i err answered
      exact other fun same => writeErr_ne_wouldblock neverBlocks.write (same ▸ answered)
    · split
      · rename_i err answered
        exact other fun same => neverBlocks.output (same ▸ answered)
      · exact nofun

/-- What lwIP answers when it takes all it is given. -/
def takesAll : LwipAnswers where
  close := .keeps
  write := none
  output := none

theorem takesAll_neverBlocks : takesAll.NeverBlocks :=
  ⟨nofun, nofun⟩

theorem writeRefused_iff : layer.WriteRefused index ↔ layer.RefusesWrites index := by
  unfold RefusesWrites
  constructor
  · rintro ⟨len, answers, next, _, neverBlocks, refused⟩
    unfold tcpSocketWrite at refused
    cases state : (layer.sockets index).state with
    | connecting => trivial
    | connected =>
      simp only [state, reduceCtorEq, if_false, ne_eq] at refused
      obtain ⟨tpcb, holds, live, ends⟩ := alive_bind_eq_ok.mp refused
      refine ⟨tpcb, holds, live, ?_⟩
      by_contra room
      rw [if_neg room] at ends
      exact writeEnd_ne_eagain neverBlocks ends
    | error =>
      simp only [state, reduceCtorEq, false_and, if_false, ne_eq, not_false_eq_true, if_true,
        Except.ok.injEq, Prod.mk.injEq, Outcome.fails.injEq] at refused
      cases lastError : (layer.sockets index).lastError with
      | none =>
        rw [lastError] at refused
        exact nomatch refused.1
      | some error =>
        rw [lastError] at refused
        exact congrArg some refused.1
    | _ =>
      simp only [state, reduceCtorEq, false_and, if_false, ne_eq, not_false_eq_true, if_true,
        Except.ok.injEq, Prod.mk.injEq, Outcome.fails.injEq] at refused
  · intro refuses
    refine ⟨1, takesAll, layer, Nat.one_pos, takesAll_neverBlocks, ?_⟩
    unfold tcpSocketWrite
    dsimp only
    cases state : (layer.sockets index).state with
    | connecting => rfl
    | connected =>
      rw [state] at refuses
      obtain ⟨tpcb, holds, live, full⟩ := refuses
      exact alive_bind_eq_ok.mpr ⟨tpcb, holds, live, by rw [if_pos full]; rfl⟩
    | error =>
      rw [state] at refuses
      simp only [reduceCtorEq, false_and, ne_eq, if_true, refuses]
      rfl
    | _ =>
      rw [state] at refuses
      exact refuses.elim

/-- A nonblocking `accept` has a connection, or a nonblocking `recv` has data or the end of the
stream, for which the peer has closed. -/
inductive Delivers (layer : SocketLayer) (index : Fin maxSockets) : Prop
  | connection {result : CloseResult} {new : Nat} {next : SocketLayer}
    (accepted : layer.tcpSocketAccept index true result = .ok (.returns new, next))
  | data {len : Nat} {bytes : List UInt8T} {next : SocketLayer}
    (received : layer.tcpSocketRecv index len true = .ok (.received bytes, next))
  | ended {len : Nat} {outcome : Outcome} {next : SocketLayer}
    (closed : (layer.sockets index).state = .closedByPeer)
    (received : layer.tcpSocketRecv index len true = .ok (outcome, next))
    (answer : outcome ≠ .fails .eagain)

theorem readable_of_accepted {result : CloseResult} {new : Nat}
    (accepted : layer.tcpSocketAccept index true result = .ok (.returns new, next)) :
    layer.tcpSocketReadable index = true := by
  unfold tcpSocketAccept at accepted
  dsimp only at accepted
  split at accepted
  · cases accepted
  · rename_i listening
    split at accepted
    · cases accepted
    · rename_i waiting
      simp [tcpSocketReadable, not_not.mp listening, waiting]

theorem readable_of_received {len : Nat} {bytes : List UInt8T}
    (received : layer.tcpSocketRecv index len true = .ok (.received bytes, next)) :
    layer.tcpSocketReadable index = true := by
  unfold tcpSocketRecv Socket.tcpSocketRecv at received
  split at received
  · cases received
  · rename_i connected
    split at received
    · cases received
    · rename_i some_bytes
      simp [tcpSocketReadable, not_not.mp connected, some_bytes]

theorem delivers_readable_iff : (layer.Delivers index → layer.tcpSocketReadable index = true) ↔
    ((layer.sockets index).state = .closedByPeer → (layer.sockets index).rx.rxLen ≠ 0) := by
  have reported (closed : (layer.sockets index).state = .closedByPeer) :
      layer.tcpSocketReadable index = true ↔ (layer.sockets index).rx.rxLen ≠ 0 := by
    simp [tcpSocketReadable, closed]
  constructor
  · intro readable closed
    refine (reported closed).mp (readable (@Delivers.ended _ _ 1 (.fails .enotconn) layer closed
      ?_ nofun))
    simp [tcpSocketRecv, Socket.tcpSocketRecv, closed, recvEnd]
  · intro unread delivers
    cases delivers with
    | connection accepted => exact readable_of_accepted accepted
    | data received => exact readable_of_received received
    | ended closed => exact (reported closed).mpr (unread closed)

end SocketLayer

end LionsOS.Sock

/-
This file is about how much of a buffer a write hands to lwIP. `tcp_write` takes a
length of 16 bits, and with window scaling the send buffer is far larger. What a
write hands over is as much as the send buffer takes, with an assertion that this
is a number of 16 bits.
-/

import LionsOS.Sock.Readiness
import LionsOS.Sock.WindowCredit

namespace LionsOS.Sock

open StepRun SocketLayer

/-! ### What lwIP is handed -/

def ushrtMax : Nat := 65535
def tcpSndBuf : Nat := tcpWnd

/-- The arguments of `tcp_write`: where in the buffer of the application it starts, and the `u16_t`
that its length becomes. -/
structure TcpWrite where
  dataptr : Nat
  len : Nat
  deriving DecidableEq

namespace SocketLayer

variable {layer : SocketLayer} {index : Fin maxSockets} {tpcb : Pcb} {len : Nat}
  {answers : LwipAnswers}

/-- The call of `tcp_write` at the end of `tcp_socket_write`, behind the assertion. -/
def tcpWriteCall (layer : SocketLayer) (tpcb : Pcb) (len : Nat) : Except Fault TcpWrite :=
  let toWrite := min len (layer.pcbs tpcb).sndbuf
  if ushrtMax < toWrite then .error .assertion
  else .ok { dataptr := 0, len := toWrite % 2 ^ 16 }

/-- What follows the call of `tcp_write`. -/
def writeReturned (layer : SocketLayer) (tpcb : Pcb) (answers : LwipAnswers) (call : TcpWrite) :
    Outcome × SocketLayer :=
  let pcb := layer.pcbs tpcb
  match pcb.writeErr answers.write with
  | some err => (.fails (lwipErrToErrno err), layer)
  | none =>
    let written := layer.setPcb tpcb { pcb with sndbuf := pcb.sndbuf - call.len }
    match answers.output with
    | some err => (.fails (lwipErrToErrno err), written)
    | none => (.returns call.len, written)

/-- The end of a write is the call of `tcp_write` and what follows it. -/
theorem writeEnd_eq (layer : SocketLayer) (tpcb : Pcb) (len : Nat) (answers : LwipAnswers) :
    layer.writeEnd tpcb len answers =
      (layer.tcpWriteCall tpcb len).map (layer.writeReturned tpcb answers) := by
  unfold writeEnd tcpWriteCall
  by_cases large : 65535 < min len (layer.pcbs tpcb).sndbuf
  · have beyond : ushrtMax < min len (layer.pcbs tpcb).sndbuf := large
    rw [if_pos large, if_pos beyond]
    rfl
  · have exact_len : min len (layer.pcbs tpcb).sndbuf % 2 ^ 16 =
        min len (layer.pcbs tpcb).sndbuf := Nat.mod_eq_of_lt (by omega)
    have small : ¬ ushrtMax < min len (layer.pcbs tpcb).sndbuf := large
    rw [if_neg large, if_neg small, exact_len]
    unfold Except.map writeReturned
    dsimp only
    cases (layer.pcbs tpcb).writeErr answers.write with
    | some err => rfl
    | none => cases answers.output <;> rfl

/-! ### Writes on a connected socket -/

/-- A write at its beginning, or one that goes on after it has waited for room. -/
inductive Writing where
  | call (nonblock : Bool)
  | resumed

def writing (layer : SocketLayer) (index : Fin maxSockets) (len : Nat) (answers : LwipAnswers) :
    Writing → Except Fault (Outcome × SocketLayer)
  | .call nonblock => layer.tcpSocketWrite index len nonblock answers
  | .resumed => layer.resume index answers (.write len)

/-- As many bytes as there is room for, and as lwIP can take at once. -/
def writable (layer : SocketLayer) (tpcb : Pcb) (len : Nat) : Nat :=
  min len (min (layer.pcbs tpcb).sndbuf ushrtMax)

/-- A write fails no assertion. With room in the send buffer, the first bytes of the buffer are
handed to lwIP, as many as fit, and if lwIP takes them, their number is returned. -/
structure WritesRight (layer : SocketLayer) (index : Fin maxSockets) (tpcb : Pcb) (len : Nat)
    (answers : LwipAnswers) (writing : Writing) : Prop where
  asserted : layer.writing index len answers writing ≠ .error .assertion
  hands : (layer.pcbs tpcb).sndbuf ≠ 0 →
    layer.tcpWriteCall tpcb len = .ok { dataptr := 0, len := layer.writable tpcb len }
  returns : (layer.pcbs tpcb).sndbuf ≠ 0 →
    (layer.pcbs tpcb).writeErr answers.write = none → answers.output = none →
    ∃ next, layer.writing index len answers writing =
      .ok (.returns (layer.writable tpcb len), next)

/-- A connected socket, and the PCB that it writes to. -/
structure WritesTo (layer : SocketLayer) (index : Fin maxSockets) (tpcb : Pcb) : Prop where
  connected : (layer.sockets index).state = .connected
  holds : (layer.sockets index).sockTpcb = some tpcb
  live : layer.Live tpcb

theorem WritesTo.bind_alive (writesTo : layer.WritesTo index tpcb) {Result : Type}
    (rest : Pcb → Except Fault Result) :
    (layer.alive (layer.sockets index).sockTpcb >>= rest) = rest tpcb := by
  rw [writesTo.holds, alive, if_pos writesTo.live]
  rfl

theorem WritesTo.writing_of_full (writesTo : layer.WritesTo index tpcb)
    (full : (layer.pcbs tpcb).sndbuf = 0) (writing : Writing) :
    ∃ result, layer.writing index len answers writing = .ok result := by
  cases writing with
  | call nonblock =>
    unfold writing tcpSocketWrite
    simp only [writesTo.connected, reduceCtorEq, if_false, ne_eq, writesTo.bind_alive, if_pos full]
    cases nonblock with
    | true => exact ⟨_, rfl⟩
    | false =>
      unfold writeLoop
      simp only [writesTo.bind_alive, full, writesTo.connected, and_self, if_true]
      exact ⟨_, rfl⟩
  | resumed =>
    unfold writing resume writeLoop
    simp only [writesTo.bind_alive, full, writesTo.connected]
    exact ⟨_, rfl⟩

theorem WritesTo.writing_of_room (writesTo : layer.WritesTo index tpcb)
    (room : (layer.pcbs tpcb).sndbuf ≠ 0) (writing : Writing) :
    layer.writing index len answers writing = layer.writeEnd tpcb len answers := by
  cases writing with
  | call nonblock =>
    unfold writing tcpSocketWrite
    simp only [writesTo.connected, reduceCtorEq, false_and, if_false, ne_eq, not_true_eq_false,
      writesTo.bind_alive, if_neg room]
  | resumed =>
    unfold writing resume writeLoop
    simp only [writesTo.bind_alive, room, false_and, if_false]

end SocketLayer

/-- A write on a connected socket is right exactly if what there is to write, or the room for it, is
no more than 16 bits can count. -/
theorem writes_right_iff {layer : SocketLayer} {index : Fin maxSockets} {tpcb : Pcb}
    (writesTo : layer.WritesTo index tpcb) (len : Nat) (answers : LwipAnswers)
    (writing : SocketLayer.Writing) :
    layer.WritesRight index tpcb len answers writing ↔
      min len (layer.pcbs tpcb).sndbuf ≤ ushrtMax := by
  by_cases full : (layer.pcbs tpcb).sndbuf = 0
  · refine iff_of_true ⟨?_, fun room => (room full).elim, fun room => (room full).elim⟩ ?_
    · obtain ⟨result, written⟩ := @SocketLayer.WritesTo.writing_of_full layer index tpcb len answers
        writesTo full writing
      rw [written]
      exact nofun
    · rw [full, Nat.min_zero]
      exact Nat.zero_le _
  · have ends := @SocketLayer.WritesTo.writing_of_room layer index tpcb len answers writesTo full
      writing
    rw [writeEnd_eq] at ends
    constructor
    · intro right
      by_contra large
      refine right.asserted ?_
      rw [ends, tcpWriteCall, if_pos (Nat.lt_of_not_le large)]
      rfl
    · intro small
      have amount : min len (layer.pcbs tpcb).sndbuf = layer.writable tpcb len := by
        rw [writable, ← Nat.min_assoc, Nat.min_eq_left small]
      have call : layer.tcpWriteCall tpcb len =
          .ok { dataptr := 0, len := layer.writable tpcb len } := by
        rw [tcpWriteCall, if_neg (Nat.not_lt.mpr small), amount,
          Nat.mod_eq_of_lt (amount ▸ Nat.lt_succ_of_le small)]
      rw [call] at ends
      refine ⟨?_, fun _ => call, fun _ taken output => ?_⟩
      · rw [ends]
        exact nofun
      · rw [ends, Except.map, writeReturned]
        simp only [taken, output]
        exact ⟨_, rfl⟩

theorem SocketLayer.connected_writesTo : ∃ layer,
    Run LayerStep zeroed [.socket (some tcpSndBuf) .keeps, .connect 0 none true, .lwipConnected 0]
      layer ∧ layer.WritesTo 0 0 ∧ (layer.pcbs 0).sndbuf = tcpSndBuf := by
  refine ⟨_, Run.of_foldlM (fun _ _ => layerStep_of_stepTo) rfl, ⟨rfl, rfl, ?_⟩, rfl⟩
  exact (by decide : PcbPhase.established ≠ .freed)

theorem writes_right_iff_of_request : ∃ layer : SocketLayer, layer.WritesTo 0 0 ∧
    (layer.WritesRight 0 0 100 takesAll (.call true) ↔
      min 100 (layer.pcbs 0).sndbuf ≤ ushrtMax) := by
  obtain ⟨layer, _, writesTo, _⟩ := connected_writesTo
  exact ⟨layer, writesTo, writes_right_iff writesTo 100 takesAll (.call true)⟩

/-- The first write on a new connection has 65536 bytes. -/
theorem write_asserts : ∃ layer,
    Run LayerStep .zeroed [.socket (some tcpSndBuf) .keeps, .connect 0 none true,
      .lwipConnected 0] layer ∧ (layer.pcbs 0).sndbuf = tcpSndBuf ∧
      layer.perform (.write 0 65536 true takesAll) = .error .assertion ∧
      ¬ layer.WritesRight 0 0 65536 takesAll (.call true) := by
  refine ⟨_, Run.of_foldlM (fun _ _ => layerStep_of_stepTo) rfl, rfl, rfl,
    fun right => right.asserted rfl⟩

end LionsOS.Sock

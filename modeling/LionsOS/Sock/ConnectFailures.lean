/-
This file is about connects that lwIP refuses at once. `tcp_socket_connect` makes
the socket one that is connecting before it asks lwIP, and leaves it so when lwIP
refuses. From then on the socket takes itself for connecting: a later connect is
refused as already in progress, and a nonblocking write is put off.
-/

import LionsOS.Lib.Runs
import LionsOS.Sock.Readiness

namespace LionsOS.Sock

open StepRun SocketLayer

namespace SocketLayer

variable {layer next : SocketLayer} {index : Fin maxSockets} {answer : Option LwipErr}
  {err : LwipErr}

/-- `tcp_connect` is called for a socket, and returns an error. -/
structure ConnectFails (layer : SocketLayer) (index : Fin maxSockets) (answer : Option LwipErr)
    (err : LwipErr) : Prop where
  state : (layer.sockets index).state = .bound ∨ (layer.sockets index).state = .allocated
  refused : ∃ tpcb, (layer.sockets index).sockTpcb = some tpcb ∧ layer.Live tpcb ∧
    (if (layer.pcbs tpcb).phase = .idle then answer else some .isconn) = some err

/-- A connect has left no trace: the socket has the state it had, the next connect is attempted, and
neither writes nor polls take the socket for one that is connecting. -/
structure Undone (layer next : SocketLayer) (index : Fin maxSockets) : Prop where
  state : (next.sockets index).state = (layer.sockets index).state
  again : ∀ nonblock after,
    next.tcpSocketConnect index none nonblock ≠ .ok (.fails .ealready, after)
  writes : ¬ next.WriteRefused index
  readable : next.tcpSocketReadable index = layer.tcpSocketReadable index
  hup : next.tcpSocketHup index = layer.tcpSocketHup index
  error : next.tcpSocketErr index = layer.tcpSocketErr index

theorem connect_of_fails (fails : layer.ConnectFails index answer err) (nonblock : Bool) :
    layer.tcpSocketConnect index answer nonblock =
      .ok (.fails (lwipErrToErrno err), layer.setState index .connecting) := by
  obtain ⟨tpcb, holds, live, refused⟩ := fails.refused
  have connected : (layer.sockets index).state ≠ .connected := by
    rcases fails.state with state | state <;> rw [state] <;> exact nofun
  have connecting : (layer.sockets index).state ≠ .connecting := by
    rcases fails.state with state | state <;> rw [state] <;> exact nofun
  have ready : ¬ ((layer.sockets index).state ≠ .bound ∧ (layer.sockets index).state ≠ .allocated) :=
    fun other => fails.state.elim other.1 other.2
  unfold tcpSocketConnect
  rw [if_neg connected, if_neg connecting, if_neg ready]
  refine alive_bind_eq_ok.mpr ⟨tpcb, holds, live, ?_⟩
  simp only [refused]

theorem connect_of_connecting (state : (layer.sockets index).state = .connecting)
    (answer : Option LwipErr) (nonblock : Bool) :
    layer.tcpSocketConnect index answer nonblock = .ok (.fails .ealready, layer) := by
  unfold tcpSocketConnect
  simp only [state, reduceCtorEq, if_false, if_true]

theorem writeRefused_of_connecting (state : (layer.sockets index).state = .connecting) :
    layer.WriteRefused index := by
  rw [writeRefused_iff, RefusesWrites, state]
  trivial

end SocketLayer

/-- Whatever the socket and whatever error `tcp_connect` returns at once, the connect is not undone:
the socket stays one that is connecting, every later connect is refused as already in progress, and
nonblocking writes end with `EAGAIN`. -/
theorem failed_connect_never_undone {layer : SocketLayer} {index : Fin maxSockets}
    {answer : Option LwipErr} {err : LwipErr} (fails : layer.ConnectFails index answer err)
    (nonblock : Bool) :
    ∃ next, layer.tcpSocketConnect index answer nonblock = .ok (.fails (lwipErrToErrno err), next) ∧
      ¬ layer.Undone next index ∧ (next.sockets index).state = .connecting ∧
      (∀ answer nonblock, next.tcpSocketConnect index answer nonblock =
        .ok (.fails .ealready, next)) ∧
      next.WriteRefused index := by
  have state : ((layer.setState index .connecting).sockets index).state = .connecting := by
    rw [setState_sockets_self]
  have refused := connect_of_connecting state
  refine ⟨_, connect_of_fails fails nonblock, fun undone => ?_, state, refused,
    writeRefused_of_connecting state⟩
  exact undone.again nonblock _ (refused none nonblock)

theorem SocketLayer.opened_connectFails : ∃ layer, Run LayerStep zeroed [.socket (some 100) .keeps]
    layer ∧ layer.ConnectFails 0 (some .rte) .rte := by
  refine ⟨_, Run.of_foldlM (fun _ _ => layerStep_of_stepTo) rfl, .inr rfl, 0, rfl, ?_, rfl⟩
  exact (by decide : PcbPhase.idle ≠ .freed)

theorem failed_connect_of_route : ∃ layer : SocketLayer,
    layer.ConnectFails 0 (some .rte) .rte ∧ ∃ next,
      layer.tcpSocketConnect 0 (some .rte) false = .ok (.fails .ehostunreach, next) ∧
        ¬ layer.Undone next 0 ∧ (next.sockets 0).state = .connecting ∧
        (∀ answer nonblock, next.tcpSocketConnect 0 answer nonblock =
          .ok (.fails .ealready, next)) ∧
        next.WriteRefused 0 := by
  obtain ⟨layer, _, fails⟩ := opened_connectFails
  exact ⟨layer, fails, failed_connect_never_undone fails false⟩

/-- There is no route to the first address. A connect to any other is refused as already in
progress. -/
theorem second_connect_refused : ∃ layer next,
    Run LayerStep .zeroed [.socket (some 100) .keeps] layer ∧
      layer.tcpSocketConnect 0 (some .rte) false = .ok (.fails .ehostunreach, next) ∧
      (layer.sockets 0).state = .allocated ∧ (next.sockets 0).state = .connecting ∧
      next.tcpSocketConnect 0 none false = .ok (.fails .ealready, next) ∧
      ¬ layer.Undone next 0 := by
  refine ⟨_, _, Run.of_foldlM (fun _ _ => layerStep_of_stepTo) rfl, rfl, rfl, rfl, rfl,
    fun undone => ?_⟩
  exact undone.again false _ rfl

end LionsOS.Sock

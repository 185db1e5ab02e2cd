/-
This file is about the reference counts of the slots. An open or an accept that
succeeds counts one for a slot that nobody referred to, `dup` counts one more and
`close` one less; no other event changes a count. A slot that is in use, or has
failed, has to be counted, or nobody is left who could release it.
-/

import LionsOS.Sock.SlotRelease

open Function

namespace LionsOS.Sock

namespace SocketLayer

variable {layer next : SocketLayer} {event : Event} {outcome : Outcome} {pcbs : Pcb → LwipPcb}
  {nextPcb : Pcb}

variable {index : Fin maxSockets} {result : CloseResult}

/-! ### What an event does to the counts -/

/-- A call returns a slot that nobody referred to and that it has counted, or it returns none. -/
inductive TakesSlot (layer next : SocketLayer) (outcome : Outcome) : Prop
  | takes {new : Fin maxSockets} (returned : outcome = .returns new)
    (unreferenced : layer.socketRefcount new = 0)
    (counted : next.socketRefcount =
      update layer.socketRefcount new (layer.socketRefcount new + 1))
  | fails (returned : ∀ value, outcome ≠ .returns value)
    (counted : next.socketRefcount = layer.socketRefcount)

theorem acceptEnd_takes (sound : layer.Sound)
    (performed : layer.acceptEnd index result = .ok (outcome, next)) :
    layer.TakesSlot next outcome := by
  cases performed ▸ sound.acceptEnds index result with
  | empty => exact .fails (by simp) rfl
  | dropped _ _ _ becomes => exact .fails (by simp) becomes.socketRefcount
  | accepted _ _ _ state becomes =>
    exact .takes rfl (sound.of_unallocated state).2 becomes.socketRefcount

theorem tcpSocketAccept_takes {nonblock : Bool} (sound : layer.Sound)
    (performed : layer.tcpSocketAccept index nonblock result = .ok (outcome, next)) :
    layer.TakesSlot next outcome := by
  unfold tcpSocketAccept at performed
  dsimp only at performed
  split_ifs at performed
  · cases performed
    exact .fails (by simp) rfl
  · cases performed
    exact .fails (by simp) rfl
  · cases performed
    exact .fails (by simp) rfl
  · exact acceptEnd_takes sound performed

/-- An open takes a slot, unless there is no memory for its PCB. -/
theorem openSocket_takes {memory : Option Nat} (sound : layer.Sound)
    (performed : layer.openSocket memory result = .ok (outcome, next)) :
    layer.TakesSlot next outcome ∨ memory = none ∧ outcome = .fails .enomem ∧
      ∃ index, (layer.sockets index).state = .unallocated ∧ next.socketRefcount =
        update layer.socketRefcount index (layer.socketRefcount index - 1) := by
  rcases sound.socketAllocate_cases with ⟨allocated, _⟩ | ⟨index, allocated⟩
  · simp only [openSocket, allocated] at performed
    cases performed
    exact .inl (.fails (by simp) rfl)
  · have state := state_of_socketAllocate allocated
    cases memory with
    | none =>
      obtain ⟨closed, computed, becomes⟩ := openSocket_none result sound allocated
      cases computed.symm.trans performed
      exact .inr ⟨rfl, rfl, index, state, becomes.socketRefcount⟩
    | some sndbuf =>
      obtain ⟨opened, computed, becomes⟩ := openSocket_some result allocated
      cases computed.symm.trans performed
      exact .inl (.takes rfl (sound.of_unallocated state).2 becomes.socketRefcount)

theorem tcpSocketDup_counts (performed : layer.tcpSocketDup index = .ok (outcome, next)) :
    next.socketRefcount = update layer.socketRefcount index (layer.socketRefcount index + 1) := by
  unfold tcpSocketDup at performed
  split_ifs at performed
  cases performed
  rfl

theorem tcpSocketCloseInt_counts
    (performed : layer.tcpSocketCloseInt index result = .ok (outcome, next)) :
    next.socketRefcount = layer.socketRefcount := by
  unfold tcpSocketCloseInt at performed
  dsimp only at performed
  split at performed
  case h_1 | h_2 | h_3 =>
    obtain ⟨tpcb, holds, live, performed⟩ := alive_bind_eq_ok.mp performed
    cases performed
    rfl
  all_goals cases performed
  all_goals rfl

theorem tcpSocketClose_counts (performed : layer.tcpSocketClose index result = .ok (outcome, next)) :
    next.socketRefcount = update layer.socketRefcount index (layer.socketRefcount index - 1) := by
  unfold tcpSocketClose at performed
  split_ifs at performed
  · exact tcpSocketCloseInt_counts performed
  · cases performed
    rfl

/-! ### Events that change no count -/

/-- Unless it comes to a fault, a call leaves the counts as they are. -/
def KeepsCounts (layer : SocketLayer) (result : Except Fault (Outcome × SocketLayer)) : Prop :=
  ∀ outcome next, result = .ok (outcome, next) → next.socketRefcount = layer.socketRefcount

namespace KeepsCounts

theorem ok (same : next.socketRefcount = layer.socketRefcount) :
    layer.KeepsCounts (.ok (outcome, next)) := by
  rintro _ _ ⟨⟩
  exact same

theorem error {fault : Fault} : layer.KeepsCounts (.error fault) := by
  rintro _ _ ⟨⟩

theorem alive {tpcb : Option Pcb} {rest : Pcb → Except Fault (Outcome × SocketLayer)}
    (kept : ∀ own, layer.KeepsCounts (rest own)) :
    layer.KeepsCounts (next.alive tpcb >>= rest) := by
  intro _ _ performed
  obtain ⟨own, _, _, ends⟩ := alive_bind_eq_ok.mp performed
  exact kept own _ _ ends

end KeepsCounts

theorem tcpSocketBind_keeps (index : Fin maxSockets) (found : Bool) (answer : Option LwipErr) :
    layer.KeepsCounts (layer.tcpSocketBind index found answer) := by
  unfold tcpSocketBind
  dsimp only
  split_ifs
  · exact .ok rfl
  · exact .ok rfl
  · refine .alive fun tpcb => ?_
    split <;> exact .ok rfl

theorem connectLoop_keeps (index : Fin maxSockets) :
    layer.KeepsCounts (layer.connectLoop index) := by
  unfold connectLoop
  split_ifs <;> exact .ok rfl

theorem tcpSocketConnect_keeps (index : Fin maxSockets) (answer : Option LwipErr)
    (nonblock : Bool) : layer.KeepsCounts (layer.tcpSocketConnect index answer nonblock) := by
  unfold tcpSocketConnect
  dsimp only
  split_ifs
  · exact .ok rfl
  · exact .ok rfl
  · exact .ok rfl
  · refine .alive fun tpcb => ?_
    split
    · exact .ok rfl
    · exact .ok rfl
  · refine .alive fun tpcb => ?_
    split
    · exact .ok rfl
    · exact connectLoop_keeps index

theorem tcpSocketListen_keeps (index : Fin maxSockets) (memory : Bool) :
    layer.KeepsCounts (layer.tcpSocketListen index memory) := by
  refine .alive fun tpcb => ?_
  split
  · exact .ok rfl
  · exact .error

theorem writeEnd_keeps (tpcb : Pcb) (len : Nat) (answers : LwipAnswers) :
    layer.KeepsCounts (layer.writeEnd tpcb len answers) := by
  unfold writeEnd
  dsimp only
  split_ifs
  · exact .error
  · split
    · exact .ok rfl
    · split <;> exact .ok rfl

theorem writeLoop_keeps (index : Fin maxSockets) (len : Nat) (answers : LwipAnswers) :
    layer.KeepsCounts (layer.writeLoop index len answers) := by
  refine .alive fun tpcb => ?_
  split_ifs
  · exact .ok rfl
  · exact writeEnd_keeps tpcb len answers

theorem tcpSocketWrite_keeps (index : Fin maxSockets) (len : Nat) (nonblock : Bool)
    (answers : LwipAnswers) :
    layer.KeepsCounts (layer.tcpSocketWrite index len nonblock answers) := by
  unfold tcpSocketWrite
  dsimp only
  split
  · exact .ok rfl
  · split
    · split_ifs <;> exact .ok rfl
    · refine .alive fun tpcb => ?_
      split_ifs
      · exact .ok rfl
      · exact writeLoop_keeps index len answers
      · exact writeEnd_keeps tpcb len answers

theorem recvEnd_keeps (index : Fin maxSockets) (len : Nat) (result : Socket.RecvOutcome) :
    layer.KeepsCounts (layer.recvEnd index len result) := by
  cases result with
  | fails error => exact .ok rfl
  | waits => exact .ok rfl
  | returns bytes rx => exact .alive fun _ => .ok rfl

/-- Of the calls that go on only that of `accept` changes a count. -/
theorem resume_keeps {answers : LwipAnswers} {call : Blocked} (other : call ≠ .accept) :
    layer.KeepsCounts (layer.resume index answers call) := by
  cases call with
  | connect => exact connectLoop_keeps index
  | write len => exact writeLoop_keeps index len answers
  | recv len => exact recvEnd_keeps index len _
  | accept => exact (other rfl).elim

section

variable (arg : Option (Fin maxSockets))
include arg

theorem socketErrFunc_keeps (err : LwipErr) :
    (layer.socketErrFunc arg err).socketRefcount = layer.socketRefcount := by
  cases arg with
  | none => rfl
  | some index => exact (socketErrFunc_cases (some index) err index).2.1

theorem socketRecvSegment_keeps (p : List UInt8T) :
    layer.KeepsCounts (layer.socketRecvSegment arg p) := by
  unfold socketRecvSegment
  split
  · exact .error
  · split
    · split <;> exact .ok rfl
    · exact .ok rfl
    · exact .ok rfl
    · exact .error

theorem socketRecvFin_keeps (tpcb : Pcb) (result : CloseResult) :
    layer.KeepsCounts (layer.socketRecvFin arg tpcb result) := by
  unfold socketRecvFin
  split
  · exact .error
  · split
    · exact .alive fun _ => .alive fun _ => .ok rfl
    · exact .alive fun _ => .ok rfl
    · exact .alive fun _ => .ok rfl
    · exact .error

theorem socketSentCallback_keeps : layer.KeepsCounts (layer.socketSentCallback arg) := by
  unfold socketSentCallback
  split
  · exact .error
  · exact .ok rfl

theorem socketConnected_keeps (tpcb : Pcb) :
    layer.KeepsCounts (layer.socketConnected arg tpcb) := by
  unfold socketConnected
  split
  · exact .error
  · split_ifs
    · exact .error
    · exact .ok rfl

theorem tcpSocketAcceptCb_keeps (newpcb : Pcb) (err : Option LwipErr) :
    layer.KeepsCounts (layer.tcpSocketAcceptCb arg newpcb err) := by
  unfold tcpSocketAcceptCb
  split
  · exact .error
  · split_ifs
    · exact .error
    · split
      · exact .ok rfl
      · dsimp only
        split_ifs <;> exact .ok rfl

end

theorem acceptConnection_keeps (tpcb : Pcb) (sndbuf : Nat) :
    layer.KeepsCounts (layer.acceptConnection tpcb sndbuf) := by
  intro outcome next performed
  cases performed ▸ layer.acceptConnection_arrives tpcb sndbuf <;> rfl

/-! ### Slots that have to be counted -/

/-- A slot that has failed or was just opened is released by those who refer to it. -/
def Referenced (layer : SocketLayer) (index : Fin maxSockets) : Prop :=
  (layer.sockets index).state = .error ∨ (layer.sockets index).state = .allocated →
    0 < layer.socketRefcount index

/-- What an event changes of a slot keeps it referenced. -/
theorem Referenced.of_update (referenced : ∀ index, layer.Referenced index) {socket : Socket}
    {count : Int}
    (becomes : next.Becomes (update layer.sockets index socket)
      (update layer.socketRefcount index count) pcbs nextPcb)
    (own : socket.state = .error ∨ socket.state = .allocated → 0 < count) (other : Fin maxSockets) :
    next.Referenced other := by
  unfold Referenced
  rw [becomes.sockets, becomes.socketRefcount]
  by_cases same : other = index
  · rw [same, update_self, update_self]
    exact own
  · rw [update_of_ne same, update_of_ne same]
    exact referenced other

theorem Becomes.same_sockets {count : Fin maxSockets → Int}
    (becomes : next.Becomes layer.sockets count pcbs nextPcb) (index : Fin maxSockets) :
    next.Becomes (update layer.sockets index (layer.sockets index)) count pcbs nextPcb := by
  rwa [update_eq_self]

theorem Referenced.of_same (referenced : layer.Referenced index)
    (state : (next.sockets index).state = (layer.sockets index).state)
    (counted : next.socketRefcount = layer.socketRefcount) : next.Referenced index := by
  unfold Referenced
  rw [state, counted]
  exact referenced

theorem Quiet.referenced (referenced : layer.Referenced index) (quiet : Quiet layer event next) :
    next.Referenced index := by
  cases quiet with
  | same _ becomes | refused _ _ becomes | writes _ _ becomes | sentUnnoticed _ _ becomes =>
    exact referenced.of_same (by rw [becomes.sockets]) becomes.socketRefcount
  | waitsConnect _ _ _ becomes | waitsRecv _ _ becomes | waitsSend _ _ _ _ _ becomes
  | waitsAccept _ _ _ becomes | reads _ _ _ becomes | segment _ _ _ _ _ becomes
  | sent _ _ _ _ becomes =>
    exact referenced.of_same (kept_of_update becomes.sockets rfl rfl index).1 becomes.socketRefcount

/-- The event is none of these: an open that fails, with a slot for it, and the failure of a
connection whose socket has been closed. -/
structure LeavesReferenced (layer : SocketLayer) (event : Event) : Prop where
  opens : ∀ result, event = .socket none result → ∀ index,
    (layer.sockets index).state ≠ .unallocated
  err : ∀ tpcb err, event = .lwipErr tpcb err → (layer.pcbs tpcb).errFunc = true → ∀ index,
    (layer.pcbs tpcb).arg = some index → (layer.sockets index).state ≠ .closing

theorem Change.referenced (sound : layer.Sound) (referenced : ∀ index, layer.Referenced index)
    (condition : layer.LeavesReferenced event) (change : Change layer event next)
    (other : Fin maxSockets) : next.Referenced other := by
  cases change with
  | quiet quiet => exact Quiet.referenced (referenced other) quiet
  | opened _ state becomes =>
    refine .of_update referenced becomes (fun _ => ?_) other
    rw [(sound.of_unallocated state).2]
    decide
  | openFailed happened state => exact (condition.opens _ happened _ state).elim
  | bound _ _ _ becomes | connects _ _ _ _ becomes | listens _ _ _ _ becomes
  | connected _ _ _ _ becomes | ended _ _ _ _ _ _ _ becomes | endedClosing _ _ _ _ _ becomes =>
    exact .of_update referenced (becomes.same_refcount _)
      (by simp [Socket.signal, Socket.release]) other
  | dropped _ _ _ becomes | queued _ _ _ _ becomes | turnedAway _ _ _ _ _ _ becomes =>
    exact (referenced other).of_same (kept_of_update becomes.sockets rfl rfl other).1
      becomes.socketRefcount
  | @accepted index new _ _ _ _ _ _ becomes =>
    have taken : ∀ slot, (layer.dequeue index).Referenced slot :=
      fun slot => (referenced slot).of_same (layer.dequeue_alike index slot).1 rfl
    exact .of_update taken becomes (by simp) other
  | @duplicated index _ counted becomes =>
    refine .of_update referenced (becomes.same_sockets index) (fun _ => ?_) other
    exact Int.lt_add_one_of_le counted.le
  | @closedShared index _ _ shared becomes =>
    exact .of_update referenced (becomes.same_sockets index) (fun _ => Int.sub_pos_of_lt shared)
      other
  | closed _ _ _ _ _ becomes | aborted _ _ _ _ becomes | released _ _ _ becomes =>
    refine .of_update referenced becomes ?_ other
    exact fun state => by rcases state with state | state <;> cases state
  | @failed index tpcb err _ happened active errFunc arg becomes =>
    refine .of_update referenced (becomes.same_refcount _) (fun _ => ?_) other
    exact sound.referenced_of_active ((sound.pcbs tpcb).called active errFunc index arg) active
      (condition.err _ _ happened errFunc index arg)
  | failedUnnoticed _ _ _ becomes | freed _ _ becomes | endedUnnoticed _ _ _ _ becomes =>
    exact (referenced other).of_same (by rw [becomes.sockets]) becomes.socketRefcount

theorem socketErrFunc_state (index : Fin maxSockets) (err : LwipErr) :
    ((layer.socketErrFunc (some index) err).sockets index).state = .error := by
  unfold socketErrFunc
  dsimp only
  split_ifs
  · simp [signal, Socket.signal]
  · simp

theorem step_referenced_iff (sound : layer.Sound)
    (referenced : ∀ index, layer.Referenced index) (step : LayerStep layer event next) :
    (∀ index, next.Referenced index) ↔ layer.LeavesReferenced event := by
  constructor
  · intro still
    refine ⟨?_, ?_⟩
    · rintro result rfl index state
      obtain ⟨lost, counted, failed⟩ := step_openFailed sound step state
      have positive := still lost (.inr failed)
      omega
    · rintro tpcb err rfl errFunc index arg state
      have failed : (next.sockets index).state = .error := by
        obtain ⟨_, _, rfl⟩ := step
        unfold perform
        dsimp only
        rw [if_pos errFunc, arg]
        exact socketErrFunc_state index err
      have counted := (step_err step index).2.1
      obtain ⟨_, _, _, _, _, closed⟩ := sound.of_closing state
      have positive := still index (.inl failed)
      rw [counted, closed] at positive
      exact absurd positive (lt_irrefl _)
  · intro condition
    rcases step_cases sound step with ⟨fault, _, rfl⟩ | ⟨change, _⟩
    · exact referenced
    · exact Change.referenced sound referenced condition change

end SocketLayer

end LionsOS.Sock

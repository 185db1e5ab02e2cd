/-
This file is about the assertions of the socket layer. Those about slots and
reference counts always hold, and so do those of the callbacks for connections,
data and the end of data. What is left are three: that lwIP makes a PCB listen,
that a write hands over no more than 16 bits can count, and that an
acknowledgement comes while the PCB has its argument.
-/

import LionsOS.Sock.CallbackArgs
import LionsOS.Sock.FreedPcbs
import LionsOS.Sock.WriteLengths

namespace LionsOS.Sock

open StepRun

namespace SocketLayer

variable {layer next : SocketLayer} {event : Event} {tpcb : Option Pcb} {Result : Type}
  {rest : Pcb → Except Fault Result}

/-! ### When the assertions hold -/

/-- What the slot can hand over at once is counted by 16 bits. -/
def FitsWrite (layer : SocketLayer) (index : Fin maxSockets) (len : Nat) : Prop :=
  ∀ tpcb, (layer.sockets index).sockTpcb = some tpcb → layer.Live tpcb →
    min len (layer.pcbs tpcb).sndbuf ≤ ushrtMax

/-- Each assertion on the way of the event holds. -/
def MeetsAssertions (layer : SocketLayer) : Event → Prop
  | .listen index memory => ∀ tpcb, (layer.sockets index).sockTpcb = some tpcb →
    layer.Live tpcb → (layer.pcbs tpcb).phase = .idle ∧ memory = true
  | .write index len _ _ => (layer.sockets index).state = .connected → layer.FitsWrite index len
  | .resume position _ => ∀ index len,
    layer.woken[position]? = some (index, .write len) → layer.FitsWrite index len
  | .lwipSent tpcb _ => (layer.pcbs tpcb).recvFunc = true → (layer.pcbs tpcb).arg ≠ none
  | _ => True

theorem alive_bind_eq_assertion :
    (layer.alive tpcb >>= rest) = .error .assertion ↔
      ∃ own, tpcb = some own ∧ layer.Live own ∧ rest own = .error .assertion := by
  cases tpcb with
  | none => exact iff_of_false (by rintro ⟨⟩) (by rintro ⟨_, ⟨⟩, _⟩)
  | some own =>
    by_cases live : layer.Live own
    · rw [alive_bind_of_live live]
      constructor
      · exact fun fails => ⟨own, rfl, live, fails⟩
      · rintro ⟨_, same, _, fails⟩
        exact Option.some.inj same ▸ fails
    · have given : layer.alive (some own) = .error .deadPcb := if_neg live
      rw [given]
      refine iff_of_false (by rintro ⟨⟩) ?_
      rintro ⟨_, same, other, _⟩
      exact live (Option.some.inj same ▸ other)

theorem alive_bind_ne_assertion (holds : ∀ own, rest own ≠ .error .assertion) :
    (layer.alive tpcb >>= rest) ≠ .error .assertion := by
  intro fails
  obtain ⟨own, _, _, failed⟩ := alive_bind_eq_assertion.mp fails
  exact holds own failed

/-! ### Slots -/

theorem tcpSocketBind_ne_assertion (index : Fin maxSockets) (found : Bool)
    (answer : Option LwipErr) : layer.tcpSocketBind index found answer ≠ .error .assertion := by
  unfold tcpSocketBind
  dsimp only
  split_ifs with state
  · simp
  · simp
  · refine alive_bind_ne_assertion fun own => ?_
    split <;> simp

theorem tcpSocketConnect_ne_assertion (index : Fin maxSockets) (answer : Option LwipErr)
    (nonblock : Bool) : layer.tcpSocketConnect index answer nonblock ≠ .error .assertion := by
  unfold tcpSocketConnect
  dsimp only
  split_ifs
  · simp
  · simp
  · simp
  · refine alive_bind_ne_assertion fun own => ?_
    split <;> simp
  · refine alive_bind_ne_assertion fun own => ?_
    split
    · simp
    · exact connectLoop_ne_error index _

theorem tcpSocketListen_assertion_iff (index : Fin maxSockets) (memory : Bool) :
    layer.tcpSocketListen index memory = .error .assertion ↔
      ¬ layer.MeetsAssertions (.listen index memory) := by
  unfold tcpSocketListen MeetsAssertions
  rw [alive_bind_eq_assertion]
  push Not
  refine exists_congr fun own => and_congr_right fun _ => and_congr_right fun _ => ?_
  split
  · rename_i phase
    exact iff_of_false (by rintro ⟨⟩) fun other => other phase rfl
  · rename_i other
    refine iff_of_true rfl fun phase memory => ?_
    exact other phase memory

section

variable (sound : layer.Sound) (index : Fin maxSockets)
include sound index

theorem acceptEnd_ne_assertion (result : CloseResult) :
    layer.acceptEnd index result ≠ .error .assertion := by
  intro failed
  cases failed ▸ sound.acceptEnds index result

theorem tcpSocketAccept_ne_assertion (nonblock : Bool) (result : CloseResult) :
    layer.tcpSocketAccept index nonblock result ≠ .error .assertion := by
  unfold tcpSocketAccept
  dsimp only
  split
  · simp
  · split
    · split <;> simp
    · exact acceptEnd_ne_assertion sound index result

theorem tcpSocketClose_ne_assertion (result : CloseResult) :
    layer.tcpSocketClose index result ≠ .error .assertion := by
  unfold tcpSocketClose
  split
  · unfold tcpSocketCloseInt
    dsimp only [setRefcount]
    cases state : (layer.sockets index).state with
    | connected | listening | connecting => exact alive_bind_ne_assertion (by simp)
    | allocated | bound | error | closedByPeer => simp
    | unallocated =>
      have closed := (sound.of_unallocated state).2
      omega
    | closing =>
      obtain ⟨_, _, _, _, _, closed⟩ := sound.of_closing state
      omega
  · simp

end

/-! ### Data -/

theorem writeEnd_assertion_iff (tpcb : Pcb) (len : Nat) (answers : LwipAnswers) :
    layer.writeEnd tpcb len answers = .error .assertion ↔
      ushrtMax < min len (layer.pcbs tpcb).sndbuf := by
  rw [writeEnd_eq]
  unfold tcpWriteCall
  dsimp only
  split
  · rename_i large
    exact iff_of_true rfl large
  · rename_i small
    exact iff_of_false (by rintro ⟨⟩) small

theorem not_fitsWrite_iff {index : Fin maxSockets} {len : Nat} :
    ¬ layer.FitsWrite index len ↔ ∃ own, (layer.sockets index).sockTpcb = some own ∧
      layer.Live own ∧ ushrtMax < min len (layer.pcbs own).sndbuf := by
  unfold FitsWrite
  push Not
  rfl

theorem writeLoop_assertion_iff (index : Fin maxSockets) (len : Nat) (answers : LwipAnswers) :
    layer.writeLoop index len answers = .error .assertion ↔ ¬ layer.FitsWrite index len := by
  unfold writeLoop
  rw [alive_bind_eq_assertion, not_fitsWrite_iff]
  refine exists_congr fun own => and_congr_right fun _ => and_congr_right fun _ => ?_
  split
  · rename_i full
    rw [full.1, Nat.min_zero]
    exact iff_of_false (by rintro ⟨⟩) (Nat.not_lt_zero _)
  · exact writeEnd_assertion_iff own len answers

theorem tcpSocketWrite_assertion_iff (index : Fin maxSockets) (len : Nat) (nonblock : Bool)
    (answers : LwipAnswers) : layer.tcpSocketWrite index len nonblock answers = .error .assertion ↔
      ¬ layer.MeetsAssertions (.write index len nonblock answers) := by
  unfold tcpSocketWrite MeetsAssertions
  dsimp only
  split
  · rename_i connecting
    refine iff_of_false (by simp) fun fails => fails fun state => ?_
    cases state.symm.trans connecting.1
  · split
    · rename_i other
      refine iff_of_false ?_ fun fails => fails fun state => (other state).elim
      split <;> simp
    · rename_i connected
      rw [forall_prop_of_true (not_not.mp connected), alive_bind_eq_assertion, not_fitsWrite_iff]
      refine exists_congr fun own => and_congr_right fun holds => and_congr_right fun live => ?_
      split
      · rename_i full
        rw [full, Nat.min_zero]
        refine iff_of_false ?_ (Nat.not_lt_zero _)
        split
        · simp
        · rw [writeLoop_assertion_iff, not_fitsWrite_iff]
          rintro ⟨other, same, _, large⟩
          rw [← Option.some.inj (holds.symm.trans same), full, Nat.min_zero] at large
          exact Nat.not_lt_zero _ large
      · exact writeEnd_assertion_iff own len answers

theorem recvEnd_ne_assertion (index : Fin maxSockets) (len : Nat)
    (result : Socket.RecvOutcome) : layer.recvEnd index len result ≠ .error .assertion := by
  cases result with
  | fails | waits => rintro ⟨⟩
  | returns bytes rx => exact alive_bind_ne_assertion (by simp)

theorem resume_assertion_iff (sound : layer.Sound) (index : Fin maxSockets)
    (answers : LwipAnswers) (call : Blocked) :
    layer.resume index answers call = .error .assertion ↔
      ¬ ∀ len, call = .write len → layer.FitsWrite index len := by
  cases call with
  | connect =>
    exact iff_of_false (connectLoop_ne_error index _) fun fails => fails (by rintro _ ⟨⟩)
  | write len =>
    refine (writeLoop_assertion_iff index len answers).trans (not_congr ⟨?_, ?_⟩)
    · rintro fits _ ⟨⟩
      exact fits
    · exact fun fits => fits len rfl
  | recv len =>
    exact iff_of_false (recvEnd_ne_assertion index len _) fun fails => fails (by rintro _ ⟨⟩)
  | accept =>
    exact iff_of_false (acceptEnd_ne_assertion sound index _) fun fails =>
      fails (by rintro _ ⟨⟩)

/-! ### Callbacks -/

theorem lwipConnected_ne_assertion (sound : layer.Sound) (called : layer.Called) {tpcb : Pcb}
    (phase : (layer.pcbs tpcb).phase = .connecting) :
    layer.perform (.lwipConnected tpcb) ≠ .error .assertion := by
  obtain ⟨index, arg, state⟩ := called.of_connecting sound phase
  dsimp only [perform]
  rw [arg]
  dsimp only [socketConnected, setPcb]
  rw [if_neg (not_not_intro state)]
  rintro ⟨⟩

theorem tcpSocketAcceptCb_ne_assertion {index : Fin maxSockets}
    (state : (layer.sockets index).state = .listening) (newpcb : Pcb) (err : Option LwipErr) :
    layer.tcpSocketAcceptCb (some index) newpcb err ≠ .error .assertion := by
  unfold tcpSocketAcceptCb
  dsimp only
  rw [if_neg (not_not_intro state)]
  split
  · simp
  · split <;> simp

theorem lwipAccept_ne_assertion (called : layer.Called) {tpcb : Pcb}
    (phase : (layer.pcbs tpcb).phase = .listening) (sndbuf : Nat) (err : Option LwipErr) :
    layer.perform (.lwipAccept tpcb sndbuf err) ≠ .error .assertion := by
  obtain ⟨index, arg, state, _⟩ := called.listening tpcb phase
  cases err with
  | some err =>
    dsimp only [perform]
    rw [arg]
    exact tcpSocketAcceptCb_ne_assertion state _ _
  | none =>
    dsimp only [perform]
    intro fails
    cases fails ▸ layer.acceptConnection_arrives tpcb sndbuf with
    | unheard unheard => exact unheard index arg state

section

variable (sound : layer.Sound) (called : layer.Called) {tpcb : Pcb}
  (transfers : layer.Transfers tpcb) (ongoing : (layer.pcbs tpcb).finReceived = false)
include sound called transfers ongoing

theorem lwipRecv_ne_assertion (p : List UInt8T) :
    layer.perform (.lwipRecv tpcb p) ≠ .error .assertion := by
  dsimp only [perform]
  split
  · rename_i recvFunc
    obtain ⟨index, arg, state⟩ := called.of_receiving sound transfers recvFunc ongoing
    rw [arg]
    unfold socketRecvSegment
    dsimp only
    rcases state with state | state <;> rw [state] <;> dsimp only
    · split <;> simp
    · simp
  · simp

theorem lwipFin_ne_assertion (result : CloseResult) :
    layer.perform (.lwipFin tpcb result) ≠ .error .assertion := by
  dsimp only [perform]
  split
  · rename_i recvFunc
    obtain ⟨index, arg, state⟩ := called.of_receiving sound transfers recvFunc ongoing
    rw [arg]
    unfold socketRecvFin
    dsimp only [setPcb]
    rcases state with state | state <;> rw [state] <;> dsimp only
    · refine alive_bind_ne_assertion fun _ => alive_bind_ne_assertion fun _ => ?_
      rintro ⟨⟩
    · exact alive_bind_ne_assertion (by rintro _ ⟨⟩)
  · simp

end

theorem lwipSent_assertion_iff (tpcb : Pcb) (len : Nat) :
    layer.perform (.lwipSent tpcb len) = .error .assertion ↔
      ¬ layer.MeetsAssertions (.lwipSent tpcb len) := by
  unfold perform MeetsAssertions
  dsimp only
  split
  · rename_i recvFunc
    rw [forall_prop_of_true recvFunc, not_not]
    cases (layer.pcbs tpcb).arg with
    | none => exact iff_of_true rfl rfl
    | some index => exact iff_of_false (by rintro ⟨⟩) (by rintro ⟨⟩)
  · rename_i unregistered
    exact iff_of_false (by simp) fun fails => fails fun recvFunc => (unregistered recvFunc).elim

/-! ### Every event -/

theorem perform_assertion_iff (sound : layer.Sound) (called : layer.Called)
    (enabled : layer.Enabled event) :
    layer.perform event = .error .assertion ↔ ¬ layer.MeetsAssertions event := by
  cases event with
  | socket memory result =>
    exact iff_of_false (openSocket_ne_error sound memory result _) (not_not_intro trivial)
  | bind index found answer =>
    exact iff_of_false (tcpSocketBind_ne_assertion index found answer) (not_not_intro trivial)
  | connect index answer nonblock =>
    exact iff_of_false (tcpSocketConnect_ne_assertion index answer nonblock) (not_not_intro trivial)
  | listen index memory => exact tcpSocketListen_assertion_iff index memory
  | accept index nonblock result =>
    exact iff_of_false (tcpSocketAccept_ne_assertion sound index nonblock result)
      (not_not_intro trivial)
  | dup index =>
    refine iff_of_false ?_ (not_not_intro trivial)
    have referenced : 0 < layer.socketRefcount index := enabled
    unfold perform tcpSocketDup
    dsimp only
    rw [if_pos referenced]
    rintro ⟨⟩
  | close index result =>
    exact iff_of_false (tcpSocketClose_ne_assertion sound index result) (not_not_intro trivial)
  | write index len nonblock answers =>
    exact tcpSocketWrite_assertion_iff index len nonblock answers
  | recv index len nonblock =>
    exact iff_of_false (recvEnd_ne_assertion index len _) (not_not_intro trivial)
  | resume position answers =>
    unfold perform MeetsAssertions
    dsimp only
    cases resumed : layer.woken[position]? with
    | none => exact iff_of_false (by simp) fun fails => fails (by simp)
    | some waiting =>
      obtain ⟨index, call⟩ := waiting
      rw [Fallible.map_eq_error, resume_assertion_iff sound index answers call]
      refine not_congr ⟨fun fits other len same => ?_, fun fits len same => ?_⟩
      · cases same
        exact fits len rfl
      · exact fits index len (same ▸ rfl)
  | lwipConnected tpcb =>
    exact iff_of_false (lwipConnected_ne_assertion sound called enabled) (not_not_intro trivial)
  | lwipErr tpcb err => exact iff_of_false (by rintro ⟨⟩) (not_not_intro trivial)
  | lwipAccept tpcb sndbuf err =>
    exact iff_of_false (lwipAccept_ne_assertion called enabled sndbuf err) (not_not_intro trivial)
  | lwipRecv tpcb p =>
    exact iff_of_false (lwipRecv_ne_assertion sound called enabled.1 enabled.2.1 p)
      (not_not_intro trivial)
  | lwipFin tpcb result =>
    exact iff_of_false (lwipFin_ne_assertion sound called enabled.1 enabled.2 result)
      (not_not_intro trivial)
  | lwipSent tpcb len => exact lwipSent_assertion_iff tpcb len
  | lwipFree tpcb => exact iff_of_false (by rintro ⟨⟩) (not_not_intro trivial)

/-- No assertion has failed. -/
def AssertionsHeld (layer : SocketLayer) : Prop :=
  layer.fault ≠ some .assertion

theorem step_assertionsHeld_iff (sound : layer.Sound) (called : layer.Called)
    (step : LayerStep layer event next) :
    next.AssertionsHeld ↔ layer.MeetsAssertions event := by
  obtain ⟨_, enabled, rfl⟩ := step
  unfold AssertionsHeld
  rw [← not_iff_not, not_not, fault_after_iff]
  exact perform_assertion_iff sound called enabled

end SocketLayer

open SocketLayer

/-- However the calls of applications and the callbacks of lwIP are interleaved, no assertion fails,
exactly as long as listening is only asked of a PCB that is idle and while lwIP has memory, no write
can hand over more than 16 bits can count, and no acknowledgement comes behind the FIN. -/
theorem assertions_held_iff {layer : SocketLayer} {events : List Event} :
    Run (Within AssertionsHeld LayerStep) zeroed events layer ↔
      Run (Guarded MeetsAssertions LayerStep) zeroed events layer := by
  refine run_within_iff_guarded (fun layer => layer.Sound ∧ layer.Called)
    ⟨zeroed_sound, zeroed_called⟩ ?_ ?_ ?_
  · rintro ⟨⟩
  · exact fun _ _ _ inv step => ⟨step_sound inv.1 step, step_called inv.1 inv.2 step⟩
  · exact fun _ _ _ inv _ step => step_assertionsHeld_iff inv.1 inv.2 step

/-- A peer ends its data before it acknowledges the byte that it was sent. -/
theorem sent_behind_fin : ∃ layer,
    Run LayerStep zeroed [.socket (some 1) .keeps, .connect 0 none true, .lwipConnected 0,
      .write 0 1 true takesAll, .lwipFin 0 .keeps, .lwipSent 0 1] layer ∧
      ¬ layer.AssertionsHeld := by
  refine ⟨_, Run.of_foldlM (fun _ _ => layerStep_of_stepTo) rfl, ?_⟩
  exact not_not_intro rfl

end LionsOS.Sock

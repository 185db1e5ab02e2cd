/-
This file is about calls that wait on the semaphores of a slot. A call may wait
only while what it waits for has not come and can still come. A callback signals
one semaphore once, which is enough for one call that waits; it is not enough
where several calls wait, where the callback ends the wait on another semaphore
as well, or where there is no callback at all.
-/

import LionsOS.Sock.Invariant

open Function

namespace LionsOS.Sock

open StepRun SocketState

/-! ### Waiting -/

/-- The state of a slot in which calls wait on a semaphore. -/
def Semaphore.waitsIn : Semaphore → SocketState
  | .connectSem => .connecting
  | .recvSem | .sendSem => .connected
  | .acceptSem => .listening

/-- What calls wait for has not come, and the PCB of the slot can still make it come. -/
def Pending (pcbs : Pcb → LwipPcb) (socket : Socket) : Semaphore → Prop
  | .connectSem => ∃ tpcb, socket.sockTpcb = some tpcb ∧ (pcbs tpcb).phase = .connecting
  | .recvSem =>
    socket.rx.rxLen = 0 ∧ ∃ tpcb, socket.sockTpcb = some tpcb ∧ (pcbs tpcb).phase ≠ .freed
  | .sendSem => ∃ tpcb, socket.sockTpcb = some tpcb ∧ (pcbs tpcb).phase ≠ .freed ∧
    (pcbs tpcb).sndbuf = 0
  | .acceptSem => socket.acceptQueue.head = socket.acceptQueue.tail ∧
    ∃ tpcb, socket.sockTpcb = some tpcb ∧ (pcbs tpcb).phase = .listening

/-- Calls only wait where what they wait for is pending. -/
def WaitsRightly (pcbs : Pcb → LwipPcb) (socket : Socket) : Prop :=
  ∀ semaphore, socket.waiters semaphore ≠ [] →
    socket.state = semaphore.waitsIn ∧ Pending pcbs socket semaphore

variable {pcbs pcbs' : Pcb → LwipPcb} {socket socket' : Socket} {semaphore : Semaphore}
  {index : Fin maxSockets} {other : Semaphore} {call : Blocked} {held : Pcb}

theorem WaitsRightly.eq_nil (waits : WaitsRightly pcbs socket)
    (other : socket.state ≠ semaphore.waitsIn) : socket.waiters semaphore = [] := by
  by_contra waiting
  exact other (waits semaphore waiting).1

theorem WaitsRightly.of_nil (none : ∀ semaphore, socket.waiters semaphore = []) :
    WaitsRightly pcbs socket :=
  fun semaphore waiting => (waiting (none semaphore)).elim

theorem waitsRightly_iff_of_state
    (other : ∀ semaphore : Semaphore, socket.state ≠ semaphore.waitsIn) :
    WaitsRightly pcbs socket ↔ ∀ semaphore, socket.waiters semaphore = [] :=
  ⟨fun waits _ => waits.eq_nil (other _), WaitsRightly.of_nil⟩

/-- What is pending stays so if the PCB gets no further and no data comes. -/
theorem Pending.congr (pending : Pending pcbs socket semaphore)
    (sockTpcb : socket'.sockTpcb = socket.sockTpcb)
    (rx : socket.rx.rxLen = 0 → socket'.rx.rxLen = 0)
    (queue : semaphore = .acceptSem → socket'.acceptQueue = socket.acceptQueue)
    (same : ∀ tpcb, socket.sockTpcb = some tpcb → (pcbs' tpcb).phase = (pcbs tpcb).phase ∧
      (semaphore = .sendSem → (pcbs tpcb).sndbuf = 0 → (pcbs' tpcb).sndbuf = 0)) :
    Pending pcbs' socket' semaphore := by
  cases semaphore with
  | connectSem =>
    obtain ⟨tpcb, holds, phase⟩ := pending
    exact ⟨tpcb, sockTpcb.trans holds, (same tpcb holds).1.trans phase⟩
  | recvSem =>
    obtain ⟨empty, tpcb, holds, live⟩ := pending
    exact ⟨rx empty, tpcb, sockTpcb.trans holds, by rwa [(same tpcb holds).1]⟩
  | sendSem =>
    obtain ⟨tpcb, holds, live, full⟩ := pending
    exact ⟨tpcb, sockTpcb.trans holds, by rwa [(same tpcb holds).1], (same tpcb holds).2 rfl full⟩
  | acceptSem =>
    obtain ⟨empty, tpcb, holds, phase⟩ := pending
    exact ⟨by rwa [queue rfl], tpcb, sockTpcb.trans holds, (same tpcb holds).1.trans phase⟩

/-- The same calls wait for the same. -/
theorem WaitsRightly.congr (waits : WaitsRightly pcbs socket)
    (waiters : socket'.waiters = socket.waiters) (state : socket'.state = socket.state)
    (sockTpcb : socket'.sockTpcb = socket.sockTpcb)
    (rx : socket.rx.rxLen = 0 → socket'.rx.rxLen = 0)
    (queue : socket.waiters .acceptSem ≠ [] → socket'.acceptQueue = socket.acceptQueue)
    (same : ∀ tpcb, socket.sockTpcb = some tpcb → (pcbs' tpcb).phase = (pcbs tpcb).phase ∧
      (socket.waiters .sendSem ≠ [] → (pcbs tpcb).sndbuf = 0 → (pcbs' tpcb).sndbuf = 0)) :
    WaitsRightly pcbs' socket' := by
  intro semaphore waiting
  rw [waiters] at waiting
  obtain ⟨waitsIn, pending⟩ := waits semaphore waiting
  refine ⟨state.trans waitsIn, pending.congr sockTpcb rx (fun accepts => ?_) fun tpcb holds => ?_⟩
  · exact queue (accepts ▸ waiting)
  · exact ⟨(same tpcb holds).1, fun sends => (same tpcb holds).2 (sends ▸ waiting)⟩

theorem pending_wait :
    Pending pcbs (socket.wait other call) semaphore ↔ Pending pcbs socket semaphore := by
  cases semaphore <;> exact Iff.rfl

theorem pending_signal :
    Pending pcbs (socket.signal other) semaphore ↔ Pending pcbs socket semaphore := by
  cases semaphore <;> exact Iff.rfl

theorem waitsRightly_wait_iff (waits : WaitsRightly pcbs socket) :
    WaitsRightly pcbs (socket.wait semaphore call) ↔
      socket.state = semaphore.waitsIn ∧ Pending pcbs socket semaphore := by
  constructor
  · intro after
    obtain ⟨waitsIn, pending⟩ := after semaphore (by simp [Socket.waiters_wait_self])
    exact ⟨waitsIn, pending_wait.mp pending⟩
  · intro right other waiting
    by_cases same : other = semaphore
    · rw [same]
      exact right
    · refine waits other ?_
      rwa [Socket.waiters_wait_of_ne same] at waiting

/-- A signal is enough for one call that waits for what is not pending any more. -/
theorem waitsRightly_signal_iff
    (others : ∀ other, other ≠ semaphore → socket.waiters other ≠ [] →
      socket.state = other.waitsIn ∧ Pending pcbs socket other)
    (past : ¬ (socket.state = semaphore.waitsIn ∧ Pending pcbs socket semaphore)) :
    WaitsRightly pcbs (socket.signal semaphore) ↔ (socket.waiters semaphore).length ≤ 1 := by
  rw [← List.drop_eq_nil_iff, ← Socket.waiters_signal_self]
  constructor
  · intro after
    by_contra waiting
    obtain ⟨waitsIn, pending⟩ := after semaphore waiting
    exact past ⟨waitsIn, pending_signal.mp pending⟩
  · intro none other waiting
    by_cases same : other = semaphore
    · rw [same] at waiting
      exact (waiting none).elim
    · rw [Socket.waiters_signal_of_ne same] at waiting
      exact others other same waiting

theorem WaitsRightly.signal (waits : WaitsRightly pcbs socket)
    (none : socket.waiters semaphore = []) : WaitsRightly pcbs (socket.signal semaphore) := by
  refine waits.congr ?_ rfl rfl id (fun _ => rfl) fun _ _ => ⟨rfl, fun _ => id⟩
  rw [Socket.signal, none, List.drop_nil, ← none, update_eq_self]

namespace SocketLayer

variable {layer next : SocketLayer} {event : Event}

variable {index : Fin maxSockets} {pcb : LwipPcb} {tpcb : Pcb}

def EveryWaitRight (layer : SocketLayer) : Prop :=
  ∀ index, WaitsRightly layer.pcbs (layer.sockets index)

/-! ### Which events wake enough -/

/-- The event leaves no call waiting that should not wait any longer, and lets none begin to wait
for what cannot come. -/
def WakesWaiters (layer : SocketLayer) : Event → Prop
  | .recv index _ nonblock => nonblock = false → (layer.sockets index).state = .connected →
    (layer.sockets index).rx.rxLen = 0 → ∀ tpcb, (layer.sockets index).sockTpcb = some tpcb →
      (layer.pcbs tpcb).phase ≠ .freed
  | .resume position _ => ∀ index call, layer.woken[position]? = some (index, call) →
    match call with
    | .connect => (layer.sockets index).state = .connecting → ∀ tpcb,
      (layer.sockets index).sockTpcb = some tpcb → (layer.pcbs tpcb).phase = .connecting
    | .recv _ => (layer.sockets index).state = .connected →
      (layer.sockets index).rx.rxLen = 0 → ∀ tpcb, (layer.sockets index).sockTpcb = some tpcb →
        (layer.pcbs tpcb).phase ≠ .freed
    | .write _ | .accept => True
  | .close index _ => layer.socketRefcount index = 1 →
    ∀ semaphore, (layer.sockets index).waiters semaphore = []
  | .lwipConnected tpcb => ∀ index, (layer.pcbs tpcb).arg = some index →
    ((layer.sockets index).waiters .connectSem).length ≤ 1
  | .lwipErr tpcb _ => (layer.pcbs tpcb).errFunc = true → ∀ index,
    (layer.pcbs tpcb).arg = some index → (layer.sockets index).waiters .recvSem = [] ∧
      (layer.sockets index).waiters .sendSem = [] ∧
      ((layer.sockets index).waiters .connectSem).length ≤ 1
  | .lwipAccept tpcb _ none => ∀ index, (layer.pcbs tpcb).arg = some index →
    (layer.sockets index).state = .listening → ((layer.sockets index).waiters .acceptSem).length ≤ 1
  | .lwipRecv tpcb _ => (layer.pcbs tpcb).recvFunc = true → ∀ index,
    (layer.pcbs tpcb).arg = some index → (layer.sockets index).state = .connected →
      ((layer.sockets index).waiters .recvSem).length ≤ 1
  | .lwipFin tpcb result => (layer.pcbs tpcb).recvFunc = true → ∀ index,
    (layer.pcbs tpcb).arg = some index → (layer.sockets index).state = .connected →
      ((layer.pcbs tpcb).phase = .established → result ≠ .frees) →
        (layer.sockets index).waiters .sendSem = [] ∧
          ((layer.sockets index).waiters .recvSem).length ≤ 1
  | .lwipSent tpcb _ => (layer.pcbs tpcb).recvFunc = true → ∀ index,
    (layer.pcbs tpcb).arg = some index → ((layer.sockets index).waiters .sendSem).length ≤ 1
  | .lwipFree tpcb => ∀ index, (layer.sockets index).state = .connected →
    (layer.sockets index).sockTpcb = some tpcb → (layer.sockets index).waiters .recvSem = [] ∧
      (layer.sockets index).waiters .sendSem = []
  | _ => True

/-! ### One slot -/

/-- Only one slot is changed, and no other loses what its calls wait for. -/
theorem everyWaitRight_iff (waits : layer.EveryWaitRight)
    (sockets : next.sockets = update layer.sockets index socket)
    (same : ∀ other, other ≠ index → ∀ tpcb, (layer.sockets other).sockTpcb = some tpcb →
      next.pcbs tpcb = layer.pcbs tpcb) : next.EveryWaitRight ↔ WaitsRightly next.pcbs socket := by
  constructor
  · intro after
    have here := after index
    rwa [sockets, update_self] at here
  · intro here other
    by_cases at_index : other = index
    · rwa [at_index, sockets, update_self]
    · rw [sockets, update_of_ne at_index]
      refine (waits other).congr rfl rfl rfl id (fun _ => rfl) fun tpcb holds => ?_
      rw [same other at_index tpcb holds]
      exact ⟨rfl, fun _ => id⟩

/-- The slot keeps all that its calls wait for. -/
theorem EveryWaitRight.of_same (waits : layer.EveryWaitRight)
    (sockets : next.sockets = layer.sockets)
    (same : ∀ other tpcb, (layer.sockets other).sockTpcb = some tpcb →
      (next.pcbs tpcb).phase = (layer.pcbs tpcb).phase ∧
        ((layer.sockets other).waiters .sendSem ≠ [] → (layer.pcbs tpcb).sndbuf = 0 →
          (next.pcbs tpcb).sndbuf = 0)) : next.EveryWaitRight := by
  intro other
  rw [sockets]
  exact (waits other).congr rfl rfl rfl id (fun _ => rfl) (same other)

theorem same_of_update (pcbs : next.pcbs = update layer.pcbs tpcb pcb) (different : held ≠ tpcb) :
    next.pcbs held = layer.pcbs held := by
  rw [pcbs, update_of_ne different]

/-- Only one slot is changed, and the PCB that it holds. -/
theorem Sound.everyWaitRight_iff_of_held (sound : layer.Sound) (waits : layer.EveryWaitRight)
    (holds : (layer.sockets index).sockTpcb = some tpcb)
    (sockets : next.sockets = update layer.sockets index socket)
    (pcbs : next.pcbs = update layer.pcbs tpcb pcb) :
    next.EveryWaitRight ↔ WaitsRightly next.pcbs socket :=
  everyWaitRight_iff waits sockets fun _ different _ held =>
    same_of_update pcbs fun equal => sound.holds_unique holds different (equal ▸ held)

theorem Sound.ne_oldest_of_held (sound : layer.Sound) {other : Fin maxSockets}
    (oldest : layer.Oldest index tpcb)
    (holds : ((layer.dequeue index).sockets other).sockTpcb = some held) : held ≠ tpcb := by
  rintro rfl
  rw [(layer.dequeue_alike index other).2.1] at holds
  exact sound.not_holds_oldest oldest other holds

/-! ### Calls -/

/-- No call goes on that waits to be connected again. -/
def DoesNotReconnect (layer : SocketLayer) (event : Event) : Prop :=
  ∀ index position answers, event = .resume position answers →
    layer.woken[position]? = some (index, .connect) → (layer.sockets index).state ≠ .connecting

theorem Proceeds.wakesWaiters (proceeds : layer.Proceeds event)
    (connects : layer.DoesNotReconnect event) : layer.WakesWaiters event := by
  obtain ⟨calls, proceeds⟩ := proceeds
  cases calls with
  | recv =>
    intro blocks state empty
    exact (proceeds _ ⟨state, empty, .inl ⟨_, by rw [blocks]⟩⟩).elim
  | resume =>
    intro index call found
    cases call with
    | connect => exact fun state => (connects index _ _ rfl found state).elim
    | recv len =>
      exact fun state empty =>
        (proceeds index ⟨state, empty, .inr ⟨_, _, len, rfl, found⟩⟩).elim
    | write | accept => trivial
  | socket | bind | connect | listen | accept | dup | write | acceptFailed => trivial

theorem WaitsForData.wakesWaiters_iff (waits : layer.WaitsForData event index) :
    layer.WakesWaiters event ↔ ∀ tpcb, (layer.sockets index).sockTpcb = some tpcb →
      (layer.pcbs tpcb).phase ≠ .freed := by
  obtain ⟨state, empty, ⟨len, rfl⟩ | ⟨position, answers, len, rfl, found⟩⟩ := waits
  · exact ⟨fun wakes => wakes rfl state empty, fun live _ _ _ => live⟩
  · constructor
    · exact fun wakes => wakes index _ found state empty
    · intro live other call found'
      cases found.symm.trans found'
      exact fun _ _ => live

theorem Quiet.everyWaitRight_iff (sound : layer.Sound) (waits : layer.EveryWaitRight)
    (enabled : layer.Enabled event)
    (connects : layer.DoesNotReconnect event) (quiet : Quiet layer event next) :
    next.EveryWaitRight ↔ layer.WakesWaiters event := by
  cases quiet with
  | same proceeds becomes =>
    refine iff_of_true (waits.of_same becomes.sockets fun _ _ _ => ?_)
      (Proceeds.wakesWaiters proceeds connects)
    rw [becomes.pcbs]
    exact ⟨rfl, fun _ => id⟩
  | waitsConnect _ state resumed _ =>
    obtain ⟨position, answers, happened, found⟩ := resumed
    exact (connects _ _ _ happened found state).elim
  | @waitsRecv index call calls waiting becomes =>
    rw [WaitsForData.wakesWaiters_iff waiting]
    rw [SocketLayer.everyWaitRight_iff waits becomes.sockets fun _ _ _ _ => by rw [becomes.pcbs],
      becomes.pcbs, waitsRightly_wait_iff (waits index)]
    obtain ⟨state, empty, _⟩ := waiting
    obtain ⟨tpcb, holds, _⟩ := sound.of_connected state
    constructor
    · rintro ⟨_, _, own, holds', live⟩ other same
      exact Option.some.inj (holds'.symm.trans same) ▸ live
    · exact fun live => ⟨state, empty, tpcb, holds, live tpcb holds⟩
  | @waitsSend index tpcb call proceeds state holds live full becomes =>
    refine iff_of_true ?_ (Proceeds.wakesWaiters proceeds connects)
    rw [SocketLayer.everyWaitRight_iff waits becomes.sockets fun _ _ _ _ => by rw [becomes.pcbs],
      becomes.pcbs, waitsRightly_wait_iff (waits index)]
    exact ⟨state, tpcb, holds, live, full⟩
  | @waitsAccept index call proceeds state empty becomes =>
    refine iff_of_true ?_ (Proceeds.wakesWaiters proceeds connects)
    rw [SocketLayer.everyWaitRight_iff waits becomes.sockets fun _ _ _ _ => by rw [becomes.pcbs],
      becomes.pcbs, waitsRightly_wait_iff (waits index)]
    obtain ⟨tpcb, holds, phase, _⟩ := sound.of_listening state
    exact ⟨state, empty, tpcb, holds, phase⟩
  | @reads index tpcb rx proceeds holds fewer becomes =>
    refine iff_of_true ?_ (Proceeds.wakesWaiters proceeds connects)
    rw [SocketLayer.everyWaitRight_iff waits becomes.sockets fun _ _ _ _ => by rw [becomes.pcbs],
      becomes.pcbs]
    exact (waits index).congr rfl rfl rfl (fun empty => Nat.le_zero.mp (empty ▸ fewer))
      (fun _ => rfl) fun _ _ => ⟨rfl, fun _ => id⟩
  | @writes tpcb sndbuf proceeds fewer becomes =>
    refine iff_of_true (waits.of_same becomes.sockets fun _ held _ => ?_)
      (Proceeds.wakesWaiters proceeds connects)
    rw [becomes.pcbs]
    by_cases same : held = tpcb
    · rw [same, update_self]
      exact ⟨rfl, fun _ full => Nat.le_zero.mp (full ▸ fewer)⟩
    · rw [update_of_ne same]
      exact ⟨rfl, fun _ => id⟩
  | refused happened refused becomes =>
    refine iff_of_true (waits.of_same becomes.sockets fun _ _ _ => ?_) ?_
    · rw [becomes.pcbs]
      exact ⟨rfl, fun _ => id⟩
    · rw [happened]
      intro recvFunc index arg state
      have some_bytes := refused recvFunc index arg state
      have none : (layer.sockets index).waiters .recvSem = [] := by
        by_contra waiting
        exact some_bytes.ne' (waits index .recvSem waiting).2.1
      rw [none]
      exact Nat.zero_le _
  | @segment index tpcb p rx happened recvFunc arg state more becomes =>
    rw [SocketLayer.everyWaitRight_iff waits becomes.sockets fun _ _ _ _ => by rw [becomes.pcbs],
      becomes.pcbs, happened]
    rw [waitsRightly_signal_iff ?_ ?_]
    · constructor
      · intro enough _ other arg' _
        cases arg.symm.trans arg'
        exact enough
      · exact fun wakes => wakes recvFunc index arg state
    · intro other different waiting
      obtain ⟨waitsIn, pending⟩ := waits index other waiting
      refine ⟨waitsIn, ?_⟩
      cases other with
      | recvSem => exact (different rfl).elim
      | connectSem | sendSem | acceptSem => exact pending
    · exact fun pending => more.ne' pending.2.1
  | @sent index tpcb len happened recvFunc arg more becomes =>
    subst happened
    have holds := (sound.pcbs tpcb).called (Transfers.active enabled.1).1
      ((sound.pcbs tpcb).recvFunc recvFunc) index arg
    have pcb :
        next.pcbs tpcb = { layer.pcbs tpcb with sndbuf := (layer.pcbs tpcb).sndbuf + len } := by
      rw [becomes.pcbs, update_self]
    rw [sound.everyWaitRight_iff_of_held waits holds becomes.sockets becomes.pcbs,
      waitsRightly_signal_iff ?_ ?_]
    · constructor
      · intro enough _ other arg'
        cases arg.symm.trans arg'
        exact enough
      · exact fun wakes => wakes recvFunc index arg
    · intro other different waiting
      obtain ⟨waitsIn, pending⟩ := waits index other waiting
      refine ⟨waitsIn, pending.congr rfl id (fun _ => rfl) fun own holds' => ?_⟩
      cases holds.symm.trans holds'
      rw [pcb]
      exact ⟨rfl, fun sends => (different sends).elim⟩
    · rintro ⟨_, own, holds', _, full⟩
      cases holds.symm.trans holds'
      rw [pcb] at full
      exact more.ne' (Nat.eq_zero_of_add_eq_zero_left full)
  | @sentUnnoticed tpcb len happened recvFunc becomes =>
    subst happened
    refine iff_of_true (waits.of_same becomes.sockets fun other held holds => ?_) ?_
    · rw [becomes.pcbs]
      by_cases same : held = tpcb
      · rw [same, update_self]
        refine ⟨rfl, fun waiting => ?_⟩
        obtain ⟨own, holds', _, _, registered, _⟩ := sound.of_connected (waits other _ waiting).1
        cases holds.symm.trans holds'
        rw [same] at registered
        cases recvFunc.symm.trans registered
      · rw [update_of_ne same]
        exact ⟨rfl, fun _ => id⟩
    · exact fun registered => by cases recvFunc.symm.trans registered

/-! ### Every event -/

theorem EveryWaitRight.eq_nil (waits : layer.EveryWaitRight)
    (other : ∀ semaphore : Semaphore, (layer.sockets index).state ≠ semaphore.waitsIn)
    (semaphore : Semaphore) : (layer.sockets index).waiters semaphore = [] :=
  (waits index).eq_nil (other semaphore)

theorem unallocated_ne_waitsIn (semaphore : Semaphore) : unallocated ≠ semaphore.waitsIn := by
  cases semaphore <;> rintro ⟨⟩

theorem allocated_ne_waitsIn (semaphore : Semaphore) :
    allocated ≠ semaphore.waitsIn ∧ bound ≠ semaphore.waitsIn := by
  cases semaphore <;> exact ⟨by rintro ⟨⟩, by rintro ⟨⟩⟩

theorem closed_ne_waitsIn (semaphore : Semaphore) :
    closing ≠ semaphore.waitsIn ∧ closedByPeer ≠ semaphore.waitsIn ∧ error ≠ semaphore.waitsIn := by
  cases semaphore <;> exact ⟨by rintro ⟨⟩, by rintro ⟨⟩, by rintro ⟨⟩⟩

/-- Nothing waits on a slot that lwIP has not been told to connect. -/
theorem Sound.waiters_eq_nil_of_idle (sound : layer.Sound) (waits : layer.EveryWaitRight)
    (holds : (layer.sockets index).sockTpcb = some tpcb) (idle : (layer.pcbs tpcb).phase = .idle)
    (semaphore : Semaphore) : (layer.sockets index).waiters semaphore = [] := by
  by_contra waiting
  obtain ⟨state, pending⟩ := waits index semaphore waiting
  cases semaphore with
  | connectSem =>
    obtain ⟨own, holds', phase⟩ := pending
    cases holds.symm.trans holds'
    cases idle.symm.trans phase
  | recvSem | sendSem =>
    obtain ⟨own, holds', opened, _⟩ := sound.of_connected state
    cases holds.symm.trans holds'
    rw [idle] at opened
    exact opened
  | acceptSem =>
    obtain ⟨own, holds', phase, _⟩ := sound.of_listening state
    cases holds.symm.trans holds'
    cases idle.symm.trans phase

theorem EveryWaitRight.dequeue (waits : layer.EveryWaitRight)
    (oldest : layer.Oldest index tpcb) : (layer.dequeue index).EveryWaitRight := by
  have sockets : (layer.dequeue index).sockets = update layer.sockets index _ := rfl
  rw [SocketLayer.everyWaitRight_iff waits sockets fun _ _ _ _ => rfl]
  refine (waits index).congr rfl rfl rfl id (fun accepts => ?_) fun _ _ => ⟨rfl, fun _ => id⟩
  exact (oldest.waiting (waits index .acceptSem accepts).2.1).elim

/-- A PCB is closed or freed that no call waits for. -/
theorem EveryWaitRight.of_pcb (waits : layer.EveryWaitRight)
    (sockets : next.sockets = layer.sockets) (pcbs : next.pcbs = update layer.pcbs tpcb pcb)
    (idle : ∀ index, (layer.sockets index).sockTpcb = some tpcb →
      ∀ semaphore, (layer.sockets index).waiters semaphore = []) : next.EveryWaitRight := by
  intro other
  rw [sockets]
  by_cases holds : (layer.sockets other).sockTpcb = some tpcb
  · exact .of_nil (idle other holds)
  · refine (waits other).congr rfl rfl rfl id (fun _ => rfl) fun held holds' => ?_
    rw [same_of_update pcbs fun equal => holds (equal ▸ holds')]
    exact ⟨rfl, fun _ => id⟩

/-- A PCB that nobody is told of is not waited for. -/
theorem Sound.waiters_eq_nil_of_unnoticed (sound : layer.Sound) (waits : layer.EveryWaitRight)
    (holds : (layer.sockets index).sockTpcb = some tpcb) (active : (layer.pcbs tpcb).phase.Active)
    (unnoticed : (layer.pcbs tpcb).errFunc = true → (layer.pcbs tpcb).arg = none)
    (semaphore : Semaphore) : (layer.sockets index).waiters semaphore = [] := by
  by_contra waiting
  obtain ⟨state, pending⟩ := waits index semaphore waiting
  cases semaphore with
  | connectSem =>
    obtain ⟨own, holds', _, owned, _⟩ := sound.of_connecting state
    cases holds.symm.trans holds'
    cases (unnoticed owned.errFunc).symm.trans owned.arg
  | recvSem | sendSem =>
    obtain ⟨own, holds', _, owned, _⟩ := sound.of_connected state
    cases holds.symm.trans holds'
    cases (unnoticed owned.errFunc).symm.trans owned.arg
  | acceptSem =>
    obtain ⟨own, holds', phase, _⟩ := sound.of_listening state
    cases holds.symm.trans holds'
    rw [phase] at active
    exact active

/-- A call that waits on a slot whose connection has been made waits for data or room. -/
theorem EveryWaitRight.eq_nil_of_opened (waits : layer.EveryWaitRight)
    (holds : (layer.sockets index).sockTpcb = some tpcb) (transfers : layer.Transfers tpcb) :
    (layer.sockets index).waiters .connectSem = [] ∧
      (layer.sockets index).waiters .acceptSem = [] := by
  constructor
  · by_contra waiting
    obtain ⟨own, holds', phase⟩ := (waits index _ waiting).2
    cases holds.symm.trans holds'
    rcases transfers with other | other <;> cases phase.symm.trans other
  · by_contra waiting
    obtain ⟨_, own, holds', phase⟩ := (waits index _ waiting).2
    cases holds.symm.trans holds'
    rcases transfers with other | other <;> cases phase.symm.trans other

theorem Change.everyWaitRight_iff (sound : layer.Sound) (waits : layer.EveryWaitRight)
    (enabled : layer.Enabled event) (connects : layer.DoesNotReconnect event)
    (change : Change layer event next) : next.EveryWaitRight ↔ layer.WakesWaiters event := by
  cases change with
  | quiet quiet => exact Quiet.everyWaitRight_iff sound waits enabled connects quiet
  | @opened index sndbuf proceeds _ becomes =>
    refine iff_of_true ?_ (Proceeds.wakesWaiters proceeds connects)
    rw [SocketLayer.everyWaitRight_iff waits becomes.sockets fun other _ _ holds =>
      same_of_update becomes.pcbs fun equal => sound.not_holds_next other (equal ▸ holds)]
    exact .of_nil fun _ => rfl
  | @openFailed index _ happened state becomes =>
    subst happened
    refine iff_of_true ?_ trivial
    rw [SocketLayer.everyWaitRight_iff waits becomes.sockets fun _ _ _ _ => by rw [becomes.pcbs]]
    exact .of_nil (waits.eq_nil (state ▸ unallocated_ne_waitsIn))
  | @bound index _ proceeds state _ becomes =>
    refine iff_of_true ?_ (Proceeds.wakesWaiters proceeds connects)
    rw [SocketLayer.everyWaitRight_iff waits becomes.sockets fun _ _ _ _ => by rw [becomes.pcbs]]
    exact .of_nil (waits.eq_nil (state ▸ fun semaphore => (allocated_ne_waitsIn semaphore).1))
  | @connects index tpcb phase waiters proceeds state holds started becomes =>
    refine iff_of_true ?_ (Proceeds.wakesWaiters proceeds connects)
    rw [sound.everyWaitRight_iff_of_held waits holds becomes.sockets becomes.pcbs]
    have none := sound.waiters_eq_nil_of_idle waits holds (sound.of_unconnected state.symm holds).1
    rcases started with ⟨connecting, others⟩ | ⟨_, same⟩
    · intro semaphore waiting
      by_cases same : semaphore = .connectSem
      · rw [same]
        refine ⟨rfl, tpcb, holds, ?_⟩
        rw [becomes.pcbs, update_self]
        exact connecting
      · exact (waiting ((others semaphore same).trans (none semaphore))).elim
    · exact .of_nil fun semaphore => (congrFun same semaphore).trans (none semaphore)
  | @listens index tpcb proceeds _ holds idle becomes =>
    refine iff_of_true ?_ (Proceeds.wakesWaiters proceeds connects)
    rw [SocketLayer.everyWaitRight_iff waits becomes.sockets fun other different held holds' => ?_]
    · exact .of_nil (sound.waiters_eq_nil_of_idle waits holds idle)
    · have known : held ≠ layer.nextPcb := fun equal => sound.not_holds_next other (equal ▸ holds')
      have old : held ≠ tpcb := fun equal => sound.holds_unique holds different (equal ▸ holds')
      rw [becomes.pcbs, update_of_ne known, update_of_ne old]
  | @dropped index tpcb _ proceeds oldest _ becomes =>
    refine iff_of_true ?_ (Proceeds.wakesWaiters proceeds connects)
    refine (EveryWaitRight.dequeue waits oldest).of_same becomes.sockets fun other held holds => ?_
    rw [becomes.pcbs, update_of_ne (sound.ne_oldest_of_held oldest holds)]
    exact ⟨rfl, fun _ => id⟩
  | @accepted index new tpcb proceeds oldest different state _ becomes =>
    refine iff_of_true ?_ (Proceeds.wakesWaiters proceeds connects)
    rw [SocketLayer.everyWaitRight_iff (EveryWaitRight.dequeue waits oldest) becomes.sockets
      fun other _ held holds => ?_]
    · refine .of_nil fun semaphore => ?_
      have none := waits.eq_nil (state ▸ unallocated_ne_waitsIn) semaphore
      dsimp only
      split
      · rfl
      · exact none
    · exact same_of_update becomes.pcbs (sound.ne_oldest_of_held oldest holds)
  | duplicated proceeds _ becomes =>
    refine iff_of_true (waits.of_same becomes.sockets fun _ _ _ => ?_)
      (Proceeds.wakesWaiters proceeds connects)
    rw [becomes.pcbs]
    exact ⟨rfl, fun _ => id⟩
  | closedShared happened shared becomes =>
    subst happened
    refine iff_of_true (waits.of_same becomes.sockets fun _ _ _ => ?_) fun last => ?_
    · rw [becomes.pcbs]
      exact ⟨rfl, fun _ => id⟩
    · exact absurd last shared.ne'
  | @closed index tpcb _ happened last _ holds _ becomes =>
    subst happened
    rw [sound.everyWaitRight_iff_of_held waits holds becomes.sockets becomes.pcbs]
    rw [waitsRightly_iff_of_state fun semaphore => (closed_ne_waitsIn semaphore).1]
    exact ⟨fun none _ => none, fun wakes => wakes last⟩
  | @aborted index tpcb _ happened last _ holds becomes =>
    subst happened
    rw [sound.everyWaitRight_iff_of_held waits holds becomes.sockets becomes.pcbs]
    rw [waitsRightly_iff_of_state unallocated_ne_waitsIn]
    exact ⟨fun none _ => none, fun wakes => wakes last⟩
  | @released index _ happened last _ becomes =>
    subst happened
    rw [SocketLayer.everyWaitRight_iff waits becomes.sockets fun _ _ _ _ => by rw [becomes.pcbs]]
    rw [waitsRightly_iff_of_state unallocated_ne_waitsIn]
    exact ⟨fun none _ => none, fun wakes => wakes last⟩
  | @connected index tpcb happened phase arg state becomes =>
    subst happened
    have holds := (sound.pcbs tpcb).called (by rw [phase]; trivial)
      ((sound.pcbs tpcb).connecting phase) index arg
    rw [sound.everyWaitRight_iff_of_held waits holds becomes.sockets becomes.pcbs,
      waitsRightly_signal_iff ?_ ?_]
    · constructor
      · intro enough other arg'
        cases arg.symm.trans arg'
        exact enough
      · exact fun wakes => wakes index arg
    · intro other different waiting
      have waitsIn := (waits index other waiting).1
      rw [state] at waitsIn
      cases other with
      | connectSem => exact (different rfl).elim
      | recvSem | sendSem | acceptSem => cases waitsIn
    · exact fun pending => by cases pending.1
  | @failed index tpcb err lastError happened active errFunc arg becomes =>
    subst happened
    have holds := (sound.pcbs tpcb).called active errFunc index arg
    have accepts : (layer.sockets index).waiters .acceptSem = [] := by
      by_contra waiting
      obtain ⟨_, own, holds', phase⟩ := (waits index _ waiting).2
      cases holds.symm.trans holds'
      rw [phase] at active
      exact active
    have here : layer.WakesWaiters (.lwipErr tpcb err) ↔
        (layer.sockets index).waiters .recvSem = [] ∧ (layer.sockets index).waiters .sendSem = [] ∧
          ((layer.sockets index).waiters .connectSem).length ≤ 1 := by
      refine ⟨fun wakes => wakes errFunc index arg, fun enough _ other arg' => ?_⟩
      cases arg.symm.trans arg'
      exact enough
    rw [here, sound.everyWaitRight_iff_of_held waits holds becomes.sockets becomes.pcbs]
    split
    · rw [waitsRightly_iff_of_state fun semaphore => (closed_ne_waitsIn semaphore).2.2,
        Socket.waiters_signal_eq_nil_iff]
      constructor
      · rintro ⟨others, enough⟩
        exact ⟨others .recvSem (by simp), others .sendSem (by simp), enough⟩
      · rintro ⟨receives, sends, enough⟩
        refine ⟨fun other different => ?_, enough⟩
        cases other with
        | recvSem => exact receives
        | sendSem => exact sends
        | acceptSem => exact accepts
        | connectSem => exact (different rfl).elim
    · rename_i connecting
      have connects := @WaitsRightly.eq_nil _ _ .connectSem (waits index) connecting
      rw [waitsRightly_iff_of_state fun semaphore => (closed_ne_waitsIn semaphore).2.2]
      constructor
      · refine fun none => ⟨none .recvSem, none .sendSem, ?_⟩
        rw [connects]
        exact Nat.zero_le _
      · rintro ⟨receives, sends, _⟩ other
        cases other with
        | recvSem => exact receives
        | sendSem => exact sends
        | acceptSem => exact accepts
        | connectSem => exact connects
  | @failedUnnoticed tpcb err happened active unnoticed becomes =>
    subst happened
    refine iff_of_true (EveryWaitRight.of_pcb waits becomes.sockets becomes.pcbs fun index holds =>
      sound.waiters_eq_nil_of_unnoticed waits holds active unnoticed) ?_
    exact fun registered index arg => by cases (unnoticed registered).symm.trans arg
  | @queued index tpcb sndbuf happened arg state room becomes =>
    subst happened
    rw [SocketLayer.everyWaitRight_iff waits becomes.sockets fun other _ held holds =>
        same_of_update becomes.pcbs fun equal => sound.not_holds_next other (equal ▸ holds),
      waitsRightly_signal_iff ?_ ?_]
    · constructor
      · intro enough other arg' _
        cases arg.symm.trans arg'
        exact enough
      · exact fun wakes => wakes index arg state
    · intro other different waiting
      have waitsIn := (waits index other waiting).1
      rw [state] at waitsIn
      cases other with
      | acceptSem => exact (different rfl).elim
      | recvSem | sendSem | connectSem => cases waitsIn
    · exact fun pending => room pending.2.1
  | @turnedAway index tpcb sndbuf pcb happened arg state full _ _ becomes =>
    subst happened
    have none : (layer.sockets index).waiters .acceptSem = [] := by
      by_contra waiting
      have empty := (waits index _ waiting).2.1
      unfold maxListenBacklog at *
      omega
    refine iff_of_true ?_ fun other arg' _ => ?_
    · rw [SocketLayer.everyWaitRight_iff waits becomes.sockets fun other _ held holds =>
        same_of_update becomes.pcbs fun equal => sound.not_holds_next other (equal ▸ holds)]
      refine WaitsRightly.signal ?_ none
      refine (waits index).congr rfl rfl rfl id (fun _ => rfl) fun held holds => ?_
      rw [same_of_update becomes.pcbs fun equal => sound.not_holds_next index (equal ▸ holds)]
      exact ⟨rfl, fun _ => id⟩
    · cases arg.symm.trans arg'
      rw [none]
      exact Nat.zero_le _
  | @ended index tpcb result pcb happened recvFunc transfers arg state live _ becomes =>
    subst happened
    have holds := (sound.pcbs tpcb).called transfers.active.1
      ((sound.pcbs tpcb).recvFunc recvFunc) index arg
    obtain ⟨connects, accepts⟩ := EveryWaitRight.eq_nil_of_opened waits holds transfers
    have keeps : (layer.pcbs tpcb).phase = .established → result ≠ .frees := fun phase frees =>
      live ((close_freed_iff transfers).mpr ⟨phase, frees⟩)
    have here : layer.WakesWaiters (.lwipFin tpcb result) ↔
        (layer.sockets index).waiters .sendSem = [] ∧
          ((layer.sockets index).waiters .recvSem).length ≤ 1 := by
      refine ⟨fun wakes => wakes recvFunc index arg state keeps, fun enough _ other arg' _ _ => ?_⟩
      cases arg.symm.trans arg'
      exact enough
    rw [here, sound.everyWaitRight_iff_of_held waits holds becomes.sockets becomes.pcbs]
    rw [waitsRightly_iff_of_state fun semaphore => (closed_ne_waitsIn semaphore).2.1,
      Socket.waiters_signal_eq_nil_iff]
    constructor
    · exact fun ⟨others, enough⟩ => ⟨others .sendSem (by simp), enough⟩
    · rintro ⟨sends, enough⟩
      refine ⟨fun other different => ?_, enough⟩
      cases other with
      | sendSem => exact sends
      | connectSem => exact connects
      | acceptSem => exact accepts
      | recvSem => exact (different rfl).elim
  | @endedClosing index tpcb result happened recvFunc transfers arg state becomes =>
    subst happened
    have holds := (sound.pcbs tpcb).called transfers.active.1
      ((sound.pcbs tpcb).recvFunc recvFunc) index arg
    refine iff_of_true ?_ fun _ other arg' connected => ?_
    · rw [sound.everyWaitRight_iff_of_held waits holds becomes.sockets becomes.pcbs]
      exact .of_nil (waits.eq_nil (state ▸ fun semaphore => (closed_ne_waitsIn semaphore).1))
    · cases arg.symm.trans arg'
      cases state.symm.trans connected
  | @endedUnnoticed tpcb result pcb happened recvFunc transfers _ becomes =>
    subst happened
    refine iff_of_true (EveryWaitRight.of_pcb waits becomes.sockets becomes.pcbs
      fun index holds semaphore => ?_) fun registered => by cases recvFunc.symm.trans registered
    obtain ⟨connects, accepts⟩ := EveryWaitRight.eq_nil_of_opened waits holds transfers
    have unregistered : (layer.sockets index).state ≠ .connected := by
      intro state
      obtain ⟨own, holds', _, _, registered, _⟩ := sound.of_connected state
      cases holds.symm.trans holds'
      cases recvFunc.symm.trans registered
    cases semaphore with
    | connectSem => exact connects
    | acceptSem => exact accepts
    | recvSem | sendSem => exact (waits index).eq_nil unregistered
  | @freed tpcb happened phase becomes =>
    subst happened
    have freed : (next.pcbs tpcb).phase = .freed := by
      rw [becomes.pcbs, update_self]
      rfl
    constructor
    · intro after index state holds
      have holds' : (next.sockets index).sockTpcb = some tpcb := by rwa [becomes.sockets]
      have dead {semaphore : Semaphore} (waiting : (next.sockets index).waiters semaphore ≠ [])
          (live : Pending next.pcbs (next.sockets index) semaphore → ∃ own,
            (next.sockets index).sockTpcb = some own ∧ (next.pcbs own).phase ≠ .freed) : False := by
        obtain ⟨own, same, live⟩ := live (after index semaphore waiting).2
        cases holds'.symm.trans same
        exact live freed
      rw [← becomes.sockets]
      constructor
      · by_contra waiting
        exact dead waiting fun pending => pending.2
      · by_contra waiting
        exact dead waiting fun ⟨own, same, live, _⟩ => ⟨own, same, live⟩
    · intro wakes
      refine EveryWaitRight.of_pcb waits becomes.sockets becomes.pcbs fun index holds semaphore => ?_
      obtain ⟨connects, accepts⟩ := EveryWaitRight.eq_nil_of_opened waits holds (.inr phase)
      by_cases state : (layer.sockets index).state = .connected
      · obtain ⟨receives, sends⟩ := wakes index state holds
        cases semaphore with
        | recvSem => exact receives
        | sendSem => exact sends
        | connectSem => exact connects
        | acceptSem => exact accepts
      · cases semaphore with
        | recvSem | sendSem => exact (waits index).eq_nil state
        | connectSem => exact connects
        | acceptSem => exact accepts

/-- A call that waits again to be connected may do so if and only if lwIP still tries. -/
theorem reconnects_iff (sound : layer.Sound) (waits : layer.EveryWaitRight) {position : Nat}
    {answers : LwipAnswers} (found : layer.woken[position]? = some (index, .connect))
    (state : (layer.sockets index).state = .connecting)
    (step : LayerStep layer (.resume position answers) next) :
    next.EveryWaitRight ↔ layer.WakesWaiters (.resume position answers) := by
  obtain ⟨_, _, rfl⟩ := step
  have loops : layer.resume index answers .connect =
      .ok (.waits, layer.wait index .connectSem .connect) := if_pos state
  have sockets : (layer.after (layer.perform (.resume position answers))).sockets =
      update layer.sockets index ((layer.sockets index).wait .connectSem .connect) := by
    unfold perform
    dsimp only
    rw [found]
    dsimp only
    rw [loops]
    rfl
  have pcbs : (layer.after (layer.perform (.resume position answers))).pcbs = layer.pcbs := by
    unfold perform
    dsimp only
    rw [found]
    dsimp only
    rw [loops]
    rfl
  rw [SocketLayer.everyWaitRight_iff waits sockets fun _ _ _ _ => by rw [pcbs], pcbs,
    waitsRightly_wait_iff (waits index)]
  obtain ⟨tpcb, holds, _⟩ := sound.of_connecting state
  constructor
  · rintro ⟨_, own, holds', phase⟩ other call found'
    cases found.symm.trans found'
    exact fun _ other same => Option.some.inj (holds'.symm.trans same) ▸ phase
  · exact fun wakes => ⟨state, tpcb, holds, wakes index _ found state tpcb holds⟩

theorem socketRecvFin_connected {result : CloseResult}
    (state : (layer.sockets index).state = .connected)
    (holds : (layer.sockets index).sockTpcb = some tpcb) (live : layer.Live tpcb)
    (keeps : ((layer.pcbs tpcb).close result).phase ≠ .freed) :
    ∃ done, layer.socketRecvFin (some index) tpcb result = .ok done := by
  have kept : ((layer.setState index .closedByPeer).setPcb tpcb
      ((layer.pcbs tpcb).close result)).Live tpcb := by
    rw [Live, setPcb_pcbs_self]
    exact keeps
  unfold socketRecvFin
  dsimp only
  rw [state]
  exact ⟨_, alive_bind_eq_ok.mpr ⟨tpcb, rfl, live, alive_bind_eq_ok.mpr ⟨tpcb, holds, kept, rfl⟩⟩⟩

theorem wakesWaiters_of_fault (sound : layer.Sound) (waits : layer.EveryWaitRight)
    (enabled : layer.Enabled event) {fault : Fault} (failed : layer.perform event = .error fault) :
    layer.WakesWaiters event := by
  cases event with
  | recv index len nonblock =>
    intro blocks state empty
    have loops : (layer.sockets index).tcpSocketRecv len nonblock = .waits :=
      Socket.tcpSocketRecv_eq_waits_iff.mpr ⟨state, empty, blocks⟩
    rw [perform, tcpSocketRecv, loops] at failed
    cases failed
  | resume position answers =>
    intro index call found
    unfold perform at failed
    dsimp only at failed
    rw [found] at failed
    dsimp only at failed
    cases call with
    | connect =>
      intro state
      rw [show layer.resume index answers .connect = .ok _ from if_pos state] at failed
      cases failed
    | recv len =>
      intro state empty
      have loops : (layer.sockets index).recvLoop len = .waits :=
        Socket.recvLoop_eq_waits_iff.mpr ⟨state, empty⟩
      rw [resume, loops] at failed
      cases failed
    | write | accept => trivial
  | close index result =>
    intro last semaphore
    by_contra waiting
    obtain ⟨state, pending⟩ := waits index semaphore waiting
    rw [perform, tcpSocketClose_of_last last] at failed
    have opened {own : Pcb} (state : (layer.sockets index).state = .listening ∨
        (layer.sockets index).state = .connected)
        (holds : (layer.sockets index).sockTpcb = some own) (live : layer.Live own) : False := by
      have closes : (layer.setRefcount index 0).tcpSocketCloseInt index result = .ok _ :=
        tcpSocketCloseInt_opened state holds live
      cases closes.symm.trans failed
    cases semaphore with
    | connectSem =>
      obtain ⟨own, holds, phase⟩ := pending
      have live : layer.Live own := fun freed => by cases phase.symm.trans freed
      have closes : (layer.setRefcount index 0).tcpSocketCloseInt index result = .ok _ :=
        tcpSocketCloseInt_connecting state holds live
      cases closes.symm.trans failed
    | recvSem =>
      obtain ⟨_, own, holds, live⟩ := pending
      exact opened (.inr state) holds live
    | sendSem =>
      obtain ⟨own, holds, live, _⟩ := pending
      exact opened (.inr state) holds live
    | acceptSem =>
      obtain ⟨_, own, holds, phase⟩ := pending
      exact opened (.inl state) holds fun freed => by cases phase.symm.trans freed
  | lwipConnected tpcb =>
    intro index arg
    have state := sound.state_of_connecting enabled arg
    simp only [perform, socketConnected, arg] at failed
    split at failed
    · rename_i other
      exact (other state).elim
    · cases failed
  | lwipErr tpcb err => cases failed
  | lwipAccept tpcb sndbuf err =>
    cases err with
    | some err => trivial
    | none =>
      intro index arg state
      rw [perform] at failed
      cases failed ▸ layer.acceptConnection_arrives tpcb sndbuf with
      | unheard unheard => exact (unheard index arg state).elim
  | lwipRecv tpcb p =>
    intro recvFunc index arg state
    simp only [perform, if_pos recvFunc, arg, socketRecvSegment, state] at failed
    split at failed <;> cases failed
  | lwipFin tpcb result =>
    intro recvFunc index arg state keeps
    have holds := (sound.pcbs tpcb).called (Transfers.active enabled.1).1
      ((sound.pcbs tpcb).recvFunc recvFunc) index arg
    have live : (layer.setPcb tpcb { layer.pcbs tpcb with finReceived := true }).Live tpcb := by
      rw [Live, setPcb_pcbs_self]
      exact (Transfers.active enabled.1).1.not_freed
    have kept : (((layer.setPcb tpcb { layer.pcbs tpcb with finReceived := true }).pcbs
        tpcb).close result).phase ≠ .freed := by
      rw [setPcb_pcbs_self, close_phase_finReceived]
      intro freed
      obtain ⟨phase, frees⟩ := (close_freed_iff enabled.1).mp freed
      exact keeps phase frees
    obtain ⟨done, closes⟩ :=
      @socketRecvFin_connected (layer.setPcb tpcb _) index tpcb result state holds live kept
    have called := congrArg (fun slot => (layer.setPcb tpcb
      { layer.pcbs tpcb with finReceived := true }).socketRecvFin slot tpcb result) arg
    unfold perform at failed
    dsimp only at failed
    rw [if_pos recvFunc] at failed
    cases failed.symm.trans (called.trans closes)
  | lwipSent tpcb len =>
    intro recvFunc index arg
    simp only [perform, if_pos recvFunc, arg] at failed
    cases failed
  | lwipFree tpcb => cases failed
  | socket | bind | connect | listen | accept | dup | write => trivial

theorem step_everyWaitRight_iff (sound : layer.Sound) (waits : layer.EveryWaitRight)
    (step : LayerStep layer event next) : next.EveryWaitRight ↔ layer.WakesWaiters event := by
  by_cases connects : layer.DoesNotReconnect event
  · rcases step_cases sound step with ⟨fault, failed, rfl⟩ | ⟨change, _⟩
    · exact iff_of_true waits (wakesWaiters_of_fault sound waits step.2.1 failed)
    · exact Change.everyWaitRight_iff sound waits step.2.1 connects change
  · unfold DoesNotReconnect at connects
    push Not at connects
    obtain ⟨index, position, answers, rfl, found, state⟩ := connects
    exact reconnects_iff sound waits found state step

end SocketLayer

open SocketLayer

/-- However the calls of applications and the callbacks of lwIP are interleaved, calls only wait for
what has not come and can still come, exactly as long as no callback ends the wait of more calls than
the one it wakes, no slot on which a call waits is closed, lwIP frees no PCB without a callback while
a call waits on it, and no call begins to wait on a PCB that lwIP has freed or does not connect. -/
theorem waits_right_iff {layer : SocketLayer} {events : List Event} :
    Run (Within EveryWaitRight LayerStep) zeroed events layer ↔
      Run (Guarded WakesWaiters LayerStep) zeroed events layer := by
  refine run_within_iff_guarded Sound zeroed_sound ?_ ?_ ?_
  · exact fun _ => WaitsRightly.of_nil fun _ => rfl
  · exact fun _ _ _ sound step => step_sound sound step
  · exact fun _ _ _ sound waits step => step_everyWaitRight_iff sound waits step

/-- A call waits for data when the connection is reset. Nobody wakes it. -/
theorem reset_not_signalled : ∃ layer,
    Run LayerStep zeroed [.socket (some 0) .keeps, .connect 0 none true, .lwipConnected 0,
      .recv 0 1 false, .lwipErr 0 .rst] layer ∧ ¬ layer.EveryWaitRight := by
  refine ⟨_, Run.of_foldlM (fun _ _ => layerStep_of_stepTo) rfl, ?_⟩
  refine fun waits => ?_
  have waiting := waits 0 .recvSem ?_
  · cases waiting.1
  · rintro ⟨⟩

end LionsOS.Sock

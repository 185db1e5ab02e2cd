/-
This file says once what the events of the socket layer can do. Most events change
one slot and one PCB; a call that waits or goes on without an effect on who owns
what is told apart from those that open, connect, hand over or release something.
Whatever is proved of every reachable state is proved from this list.
-/

import LionsOS.Sock.Ownership

open Function

namespace LionsOS.Sock

open LwipPcb

/-! ### Shapes of events -/

/-- The running call wants to wait for data of a slot. -/
def SocketLayer.WaitsForData (layer : SocketLayer) (event : Event) (index : Fin maxSockets) : Prop :=
  (layer.sockets index).state = .connected ∧ (layer.sockets index).rx.rxLen = 0 ∧
    ((∃ len, event = .recv index len false) ∨
      ∃ position answers len, event = .resume position answers ∧
        layer.woken[position]? = some (index, .recv len))

/-- Events that neither end the use of a slot nor come from a connection. -/
inductive Event.Calls : Event → Prop
  | socket {memory : Option Nat} {result : CloseResult} : Calls (.socket memory result)
  | bind {index : Fin maxSockets} {found : Bool} {answer : Option LwipErr} :
    Calls (.bind index found answer)
  | connect {index : Fin maxSockets} {answer : Option LwipErr} {nonblock : Bool} :
    Calls (.connect index answer nonblock)
  | listen {index : Fin maxSockets} {memory : Bool} : Calls (.listen index memory)
  | accept {index : Fin maxSockets} {nonblock : Bool} {result : CloseResult} :
    Calls (.accept index nonblock result)
  | dup {index : Fin maxSockets} : Calls (.dup index)
  | write {index : Fin maxSockets} {len : Nat} {nonblock : Bool} {answers : LwipAnswers} :
    Calls (.write index len nonblock answers)
  | recv {index : Fin maxSockets} {len : Nat} {nonblock : Bool} :
    Calls (.recv index len nonblock)
  | resume {position : Nat} {answers : LwipAnswers} : Calls (.resume position answers)
  | acceptFailed {tpcb : Pcb} {sndbuf : Nat} {err : LwipErr} :
    Calls (.lwipAccept tpcb sndbuf (some err))

/-- An event whose call does not wait for data. -/
structure SocketLayer.Proceeds (layer : SocketLayer) (event : Event) : Prop where
  calls : event.Calls
  proceeds : ∀ index, ¬ layer.WaitsForData event index

/-! ### What events do -/

/-- What the slots, their counts and the PCBs are. -/
structure SocketLayer.Becomes (next : SocketLayer) (sockets : Fin maxSockets → Socket)
    (socketRefcount : Fin maxSockets → Int) (pcbs : Pcb → LwipPcb) (nextPcb : Pcb) : Prop where
  sockets : next.sockets = sockets
  socketRefcount : next.socketRefcount = socketRefcount
  pcbs : next.pcbs = pcbs
  nextPcb : next.nextPcb = nextPcb

namespace SocketLayer.Becomes

variable {next : SocketLayer} {sockets : Fin maxSockets → Socket} {counts : Fin maxSockets → Int}
  {pcbs : Pcb → LwipPcb} {nextPcb tpcb held : Pcb} {index other : Fin maxSockets} {socket : Socket}
  {count : Int} {pcb : LwipPcb}

theorem socket_self (becomes : next.Becomes (update sockets index socket) counts pcbs nextPcb) :
    next.sockets index = socket := by
  rw [becomes.sockets, update_self]

theorem socket_of_ne (becomes : next.Becomes (update sockets index socket) counts pcbs nextPcb)
    (different : other ≠ index) : next.sockets other = sockets other := by
  rw [becomes.sockets, update_of_ne different]

theorem refcount_self (becomes : next.Becomes sockets (update counts index count) pcbs nextPcb) :
    next.socketRefcount index = count := by
  rw [becomes.socketRefcount, update_self]

theorem refcount_of_ne (becomes : next.Becomes sockets (update counts index count) pcbs nextPcb)
    (different : other ≠ index) : next.socketRefcount other = counts other := by
  rw [becomes.socketRefcount, update_of_ne different]

theorem pcb_self (becomes : next.Becomes sockets counts (update pcbs tpcb pcb) nextPcb) :
    next.pcbs tpcb = pcb := by
  rw [becomes.pcbs, update_self]

theorem pcb_of_ne (becomes : next.Becomes sockets counts (update pcbs tpcb pcb) nextPcb)
    (different : held ≠ tpcb) : next.pcbs held = pcbs held := by
  rw [becomes.pcbs, update_of_ne different]

end SocketLayer.Becomes

/-- The layer after the oldest connection was taken from a queue. -/
abbrev SocketLayer.dequeue (layer : SocketLayer) (index : Fin maxSockets) : SocketLayer :=
  layer.setSocket index
    { layer.sockets index with acceptQueue := (layer.sockets index).acceptQueue.dequeue }

/-- A slot that takes over a connection. -/
abbrev Socket.taking (socket : Socket) (tpcb : Pcb) : Socket :=
  { socket with
    sockTpcb := some tpcb
    state := .connected
    waiters := fun semaphore =>
      if semaphore = .recvSem ∨ semaphore = .sendSem then [] else socket.waiters semaphore }

/-- What an event does that leaves it as it is who holds what. -/
inductive Quiet (layer : SocketLayer) (event : Event) (next : SocketLayer) : Prop
  | same (proceeds : layer.Proceeds event)
    (becomes : next.Becomes layer.sockets layer.socketRefcount layer.pcbs layer.nextPcb)
  | waitsConnect {index : Fin maxSockets} {call : Blocked} (proceeds : layer.Proceeds event)
    (state : (layer.sockets index).state = .connecting)
    (resumed : ∃ position answers, event = .resume position answers ∧
      layer.woken[position]? = some (index, .connect))
    (becomes : next.Becomes
      (update layer.sockets index ((layer.sockets index).wait .connectSem call))
      layer.socketRefcount layer.pcbs layer.nextPcb)
  | waitsRecv {index : Fin maxSockets} {call : Blocked} (calls : event.Calls)
    (waits : layer.WaitsForData event index)
    (becomes : next.Becomes
      (update layer.sockets index ((layer.sockets index).wait .recvSem call))
      layer.socketRefcount layer.pcbs layer.nextPcb)
  | waitsSend {index : Fin maxSockets} {tpcb : Pcb} {call : Blocked}
    (proceeds : layer.Proceeds event) (state : (layer.sockets index).state = .connected)
    (holds : (layer.sockets index).sockTpcb = some tpcb) (live : layer.Live tpcb)
    (full : (layer.pcbs tpcb).sndbuf = 0)
    (becomes : next.Becomes
      (update layer.sockets index ((layer.sockets index).wait .sendSem call))
      layer.socketRefcount layer.pcbs layer.nextPcb)
  | waitsAccept {index : Fin maxSockets} {call : Blocked} (proceeds : layer.Proceeds event)
    (state : (layer.sockets index).state = .listening)
    (empty : (layer.sockets index).acceptQueue.head = (layer.sockets index).acceptQueue.tail)
    (becomes : next.Becomes
      (update layer.sockets index ((layer.sockets index).wait .acceptSem call))
      layer.socketRefcount layer.pcbs layer.nextPcb)
  | reads {index : Fin maxSockets} {tpcb : Pcb} {rx : RxBuffer} (proceeds : layer.Proceeds event)
    (holds : (layer.sockets index).sockTpcb = some tpcb)
    (fewer : rx.rxLen ≤ (layer.sockets index).rx.rxLen)
    (becomes : next.Becomes
      (update layer.sockets index { layer.sockets index with rx })
      layer.socketRefcount layer.pcbs layer.nextPcb)
  | writes {tpcb : Pcb} {sndbuf : Nat} (proceeds : layer.Proceeds event)
    (fewer : sndbuf ≤ (layer.pcbs tpcb).sndbuf)
    (becomes : next.Becomes layer.sockets layer.socketRefcount
      (update layer.pcbs tpcb { layer.pcbs tpcb with sndbuf }) layer.nextPcb)
  | refused {tpcb : Pcb} {p : List UInt8T} (happened : event = .lwipRecv tpcb p)
    (refused : (layer.pcbs tpcb).recvFunc = true → ∀ index, (layer.pcbs tpcb).arg = some index →
      (layer.sockets index).state = .connected → 0 < (layer.sockets index).rx.rxLen)
    (becomes : next.Becomes layer.sockets layer.socketRefcount layer.pcbs layer.nextPcb)
  | segment {index : Fin maxSockets} {tpcb : Pcb} {p : List UInt8T} {rx : RxBuffer}
    (happened : event = .lwipRecv tpcb p) (recvFunc : (layer.pcbs tpcb).recvFunc = true)
    (arg : (layer.pcbs tpcb).arg = some index)
    (state : (layer.sockets index).state = .connected)
    (more : 0 < rx.rxLen)
    (becomes : next.Becomes
      (update layer.sockets index
        (({ layer.sockets index with rx } : Socket).signal .recvSem))
      layer.socketRefcount layer.pcbs layer.nextPcb)
  | sent {index : Fin maxSockets} {tpcb : Pcb} {len : Nat}
    (happened : event = .lwipSent tpcb len) (recvFunc : (layer.pcbs tpcb).recvFunc = true)
    (arg : (layer.pcbs tpcb).arg = some index) (more : 0 < len)
    (becomes : next.Becomes
      (update layer.sockets index ((layer.sockets index).signal .sendSem))
      layer.socketRefcount
      (update layer.pcbs tpcb
        { layer.pcbs tpcb with sndbuf := (layer.pcbs tpcb).sndbuf + len })
      layer.nextPcb)
  | sentUnnoticed {tpcb : Pcb} {len : Nat} (happened : event = .lwipSent tpcb len)
    (recvFunc : (layer.pcbs tpcb).recvFunc = false)
    (becomes : next.Becomes layer.sockets layer.socketRefcount
      (update layer.pcbs tpcb
        { layer.pcbs tpcb with sndbuf := (layer.pcbs tpcb).sndbuf + len })
      layer.nextPcb)

/-- What an event does. -/
inductive Change (layer : SocketLayer) (event : Event) (next : SocketLayer) : Prop
  | quiet (quiet : Quiet layer event next)
  | opened {index : Fin maxSockets} {sndbuf : Nat} (proceeds : layer.Proceeds event)
    (state : (layer.sockets index).state = .unallocated)
    (becomes : next.Becomes
      (update layer.sockets index
        { layer.sockets index with
          state := .allocated
          sockTpcb := some layer.nextPcb
          acceptQueue := { (layer.sockets index).acceptQueue with head := 0, tail := 0 }
          waiters := fun _ => [] })
      (update layer.socketRefcount index (layer.socketRefcount index + 1))
      (update layer.pcbs layer.nextPcb
        { fresh .idle (some index) sndbuf with errFunc := true })
      (layer.nextPcb + 1))
  | openFailed {index : Fin maxSockets} {result : CloseResult}
    (happened : event = .socket none result)
    (state : (layer.sockets index).state = .unallocated)
    (becomes : next.Becomes
      (update layer.sockets index
        { layer.sockets index with state := .allocated, sockTpcb := none })
      (update layer.socketRefcount index (layer.socketRefcount index - 1))
      layer.pcbs layer.nextPcb)
  | bound {index : Fin maxSockets} {tpcb : Pcb} (proceeds : layer.Proceeds event)
    (state : (layer.sockets index).state = .allocated)
    (holds : (layer.sockets index).sockTpcb = some tpcb)
    (becomes : next.Becomes
      (update layer.sockets index { layer.sockets index with state := .bound })
      layer.socketRefcount layer.pcbs layer.nextPcb)
  | connects {index : Fin maxSockets} {tpcb : Pcb} {phase : PcbPhase}
    {waiters : Semaphore → List Blocked} (proceeds : layer.Proceeds event)
    (state : (layer.sockets index).state = .bound ∨ (layer.sockets index).state = .allocated)
    (holds : (layer.sockets index).sockTpcb = some tpcb)
    (started : phase = .connecting ∧
        (∀ semaphore, semaphore ≠ .connectSem →
          waiters semaphore = (layer.sockets index).waiters semaphore) ∨
      phase = .idle ∧ waiters = (layer.sockets index).waiters)
    (becomes : next.Becomes
      (update layer.sockets index
        { layer.sockets index with state := .connecting, waiters })
      layer.socketRefcount
      (update layer.pcbs tpcb { layer.pcbs tpcb with phase }) layer.nextPcb)
  | listens {index : Fin maxSockets} {tpcb : Pcb} (proceeds : layer.Proceeds event)
    (referenced : 0 < layer.socketRefcount index)
    (holds : (layer.sockets index).sockTpcb = some tpcb)
    (phase : (layer.pcbs tpcb).phase = .idle)
    (becomes : next.Becomes
      (update layer.sockets index
        { layer.sockets index with sockTpcb := some layer.nextPcb, state := .listening })
      layer.socketRefcount
      (update (update layer.pcbs tpcb (layer.pcbs tpcb).free) layer.nextPcb
        (fresh .listening (layer.pcbs tpcb).arg 0))
      (layer.nextPcb + 1))
  | dropped {index : Fin maxSockets} {tpcb : Pcb} {result : CloseResult}
    (proceeds : layer.Proceeds event)
    (oldest : layer.Oldest index tpcb)
    (live : layer.Live tpcb)
    (becomes : next.Becomes
      (layer.dequeue index).sockets layer.socketRefcount
      (update layer.pcbs tpcb ((layer.pcbs tpcb).close result)) layer.nextPcb)
  | accepted {index new : Fin maxSockets} {tpcb : Pcb} (proceeds : layer.Proceeds event)
    (oldest : layer.Oldest index tpcb)
    (different : new ≠ index) (state : (layer.sockets new).state = .unallocated)
    (live : layer.Live tpcb)
    (becomes : next.Becomes
      (update (layer.dequeue index).sockets new ((layer.sockets new).taking tpcb))
      (update layer.socketRefcount new (layer.socketRefcount new + 1))
      (update layer.pcbs tpcb
        { layer.pcbs tpcb with errFunc := true, recvFunc := true, arg := some new })
      layer.nextPcb)
  | duplicated {index : Fin maxSockets} (proceeds : layer.Proceeds event)
    (referenced : 0 < layer.socketRefcount index)
    (becomes : next.Becomes layer.sockets
      (update layer.socketRefcount index (layer.socketRefcount index + 1))
      layer.pcbs layer.nextPcb)
  | closedShared {index : Fin maxSockets} {result : CloseResult}
    (happened : event = .close index result) (shared : 1 < layer.socketRefcount index)
    (becomes : next.Becomes layer.sockets
      (update layer.socketRefcount index (layer.socketRefcount index - 1))
      layer.pcbs layer.nextPcb)
  | closed {index : Fin maxSockets} {tpcb : Pcb} {result : CloseResult}
    (happened : event = .close index result) (last : layer.socketRefcount index = 1)
    (state : (layer.sockets index).state = .listening ∨
      (layer.sockets index).state = .connected)
    (holds : (layer.sockets index).sockTpcb = some tpcb) (live : layer.Live tpcb)
    (becomes : next.Becomes
      (update layer.sockets index { layer.sockets index with state := .closing })
      (update layer.socketRefcount index 0)
      (update layer.pcbs tpcb ((layer.pcbs tpcb).close result)) layer.nextPcb)
  | aborted {index : Fin maxSockets} {tpcb : Pcb} {result : CloseResult}
    (happened : event = .close index result) (last : layer.socketRefcount index = 1)
    (state : (layer.sockets index).state = .connecting)
    (holds : (layer.sockets index).sockTpcb = some tpcb)
    (becomes : next.Becomes
      (update layer.sockets index (layer.sockets index).release)
      (update layer.socketRefcount index 0)
      (update layer.pcbs tpcb { (layer.pcbs tpcb).free with arg := none })
      layer.nextPcb)
  | released {index : Fin maxSockets} {result : CloseResult}
    (happened : event = .close index result) (last : layer.socketRefcount index = 1)
    (state : (layer.sockets index).state = .allocated ∨ (layer.sockets index).state = .bound ∨
      (layer.sockets index).state = .error ∨ (layer.sockets index).state = .closedByPeer)
    (becomes : next.Becomes
      (update layer.sockets index (layer.sockets index).release)
      (update layer.socketRefcount index 0) layer.pcbs layer.nextPcb)
  | connected {index : Fin maxSockets} {tpcb : Pcb} (happened : event = .lwipConnected tpcb)
    (phase : (layer.pcbs tpcb).phase = .connecting)
    (arg : (layer.pcbs tpcb).arg = some index)
    (state : (layer.sockets index).state = .connecting)
    (becomes : next.Becomes
      (update layer.sockets index
        (({ layer.sockets index with state := .connected } : Socket).signal .connectSem))
      layer.socketRefcount
      (update layer.pcbs tpcb
        { layer.pcbs tpcb with phase := .established, recvFunc := true })
      layer.nextPcb)
  | failed {index : Fin maxSockets} {tpcb : Pcb} {err : LwipErr} {lastError : Option Errno}
    (happened : event = .lwipErr tpcb err) (active : (layer.pcbs tpcb).phase.Active)
    (errFunc : (layer.pcbs tpcb).errFunc = true) (arg : (layer.pcbs tpcb).arg = some index)
    (becomes : next.Becomes
      (update layer.sockets index
        (if (layer.sockets index).state = .connecting then
          ({ layer.sockets index with state := .error, lastError } : Socket).signal .connectSem
        else { layer.sockets index with state := .error, lastError }))
      layer.socketRefcount (update layer.pcbs tpcb (layer.pcbs tpcb).free)
      layer.nextPcb)
  | failedUnnoticed {tpcb : Pcb} {err : LwipErr} (happened : event = .lwipErr tpcb err)
    (active : (layer.pcbs tpcb).phase.Active)
    (unnoticed : (layer.pcbs tpcb).errFunc = true → (layer.pcbs tpcb).arg = none)
    (becomes : next.Becomes layer.sockets layer.socketRefcount
      (update layer.pcbs tpcb (layer.pcbs tpcb).free) layer.nextPcb)
  | queued {index : Fin maxSockets} {tpcb : Pcb} {sndbuf : Nat}
    (happened : event = .lwipAccept tpcb sndbuf none)
    (arg : (layer.pcbs tpcb).arg = some index)
    (state : (layer.sockets index).state = .listening)
    (room : ((layer.sockets index).acceptQueue.head + 1) % maxListenBacklog ≠
      (layer.sockets index).acceptQueue.tail)
    (becomes : next.Becomes
      (update layer.sockets index
        (({ layer.sockets index with
            acceptQueue := (layer.sockets index).acceptQueue.enqueue layer.nextPcb } :
          Socket).signal .acceptSem))
      layer.socketRefcount
      (update layer.pcbs layer.nextPcb
        (fresh .established (some index) sndbuf))
      (layer.nextPcb + 1))
  | turnedAway {index : Fin maxSockets} {tpcb : Pcb} {sndbuf : Nat} {pcb : LwipPcb}
    (happened : event = .lwipAccept tpcb sndbuf none)
    (arg : (layer.pcbs tpcb).arg = some index)
    (state : (layer.sockets index).state = .listening)
    (full : ((layer.sockets index).acceptQueue.head + 1) % maxListenBacklog =
      (layer.sockets index).acceptQueue.tail)
    (freed : pcb.phase = .freed) (errFunc : pcb.recvFunc = false)
    (becomes : next.Becomes
      (update layer.sockets index ((layer.sockets index).signal .acceptSem))
      layer.socketRefcount (update layer.pcbs layer.nextPcb pcb) (layer.nextPcb + 1))
  | ended {index : Fin maxSockets} {tpcb : Pcb} {result : CloseResult} {pcb : LwipPcb}
    (happened : event = .lwipFin tpcb result) (recvFunc : (layer.pcbs tpcb).recvFunc = true)
    (transfers : layer.Transfers tpcb)
    (arg : (layer.pcbs tpcb).arg = some index)
    (state : (layer.sockets index).state = .connected)
    (live : ((layer.pcbs tpcb).close result).phase ≠ .freed)
    (closed : pcb.phase.Opened ∧ pcb.handedBack = true ∧ pcb.arg = none ∧ pcb.errFunc = true)
    (becomes : next.Becomes
      (update layer.sockets index
        (({ layer.sockets index with state := .closedByPeer } : Socket).signal .recvSem))
      layer.socketRefcount (update layer.pcbs tpcb pcb) layer.nextPcb)
  | endedClosing {index : Fin maxSockets} {tpcb : Pcb} {result : CloseResult}
    (happened : event = .lwipFin tpcb result) (recvFunc : (layer.pcbs tpcb).recvFunc = true)
    (transfers : layer.Transfers tpcb)
    (arg : (layer.pcbs tpcb).arg = some index)
    (state : (layer.sockets index).state = .closing)
    (becomes : next.Becomes
      (update layer.sockets index (layer.sockets index).release)
      layer.socketRefcount
      (update layer.pcbs tpcb { layer.pcbs tpcb with finReceived := true, arg := none })
      layer.nextPcb)
  | endedUnnoticed {tpcb : Pcb} {result : CloseResult} {pcb : LwipPcb}
    (happened : event = .lwipFin tpcb result) (recvFunc : (layer.pcbs tpcb).recvFunc = false)
    (transfers : layer.Transfers tpcb)
    (closed : pcb.phase.Opened ∧ pcb.handedBack = true ∧ pcb.arg = (layer.pcbs tpcb).arg ∧
      pcb.errFunc = (layer.pcbs tpcb).errFunc ∧ pcb.recvFunc = false)
    (becomes : next.Becomes layer.sockets layer.socketRefcount
      (update layer.pcbs tpcb pcb) layer.nextPcb)
  | freed {tpcb : Pcb} (happened : event = .lwipFree tpcb)
    (phase : (layer.pcbs tpcb).phase = .closing)
    (becomes : next.Becomes layer.sockets layer.socketRefcount
      (update layer.pcbs tpcb (layer.pcbs tpcb).free) layer.nextPcb)

namespace SocketLayer

variable {layer next : SocketLayer} {event : Event} {outcome : Outcome}
  {woken : List (Fin maxSockets × Blocked)} {fault : Option Fault} {pcb : LwipPcb} {sndbuf : Nat}

variable {index : Fin maxSockets} {answers : LwipAnswers} {position len : Nat} {tpcb : Pcb}
  {nonblock : Bool} {result : CloseResult} {answer : Option LwipErr}

/-! ### Calls of lwIP -/

theorem alive_bind_eq_ok {Result : Type} {tpcb : Option Pcb} {rest : Pcb → Except Fault Result}
    {result : Result} : (layer.alive tpcb >>= rest) = .ok result ↔
      ∃ own, tpcb = some own ∧ layer.Live own ∧ rest own = .ok result := by
  constructor
  · intro computed
    cases tpcb with
    | none => cases computed
    | some own =>
      by_cases live : layer.Live own
      · simp only [alive, if_pos live] at computed
        exact ⟨own, rfl, live, computed⟩
      · simp only [alive, if_neg live] at computed
        cases computed
  · rintro ⟨own, rfl, live, computed⟩
    simp only [alive, if_pos live]
    exact computed

theorem state_of_socketAllocate (found : layer.socketAllocate = .ok (some index)) :
    (layer.sockets index).state = .unallocated := by
  unfold socketAllocate at found
  split at found
  · cases found
  · rename_i search
    dsimp only at found
    split at found
    · cases found
      simpa using List.find?_some search
    · cases found

theorem Sound.socketAllocate_cases (sound : layer.Sound) :
    layer.socketAllocate = .ok none ∧ (∀ index, (layer.sockets index).state ≠ .unallocated) ∨
      ∃ index, layer.socketAllocate = .ok (some index) := by
  unfold socketAllocate
  split
  · rename_i search
    refine .inl ⟨rfl, fun index state => ?_⟩
    exact absurd (decide_eq_true state) (List.find?_eq_none.mp search index (List.mem_finRange _))
  · rename_i index search
    have state : (layer.sockets index).state = .unallocated := by
      simpa using List.find?_some search
    refine .inr ⟨index, if_pos ?_⟩
    cases (sound.slots index).backed with
    | unallocated _ empty _ rx => exact ⟨empty, rx⟩
    | unconnected other => rcases other with other | other <;> cases state.symm.trans other
    | _ other => cases state.symm.trans other

/-! ### Calls that wait or go on -/

theorem Proceeds.of_call (calls : event.Calls) (other : ∀ index len, event ≠ .recv index len false)
    (fresh : ∀ position answers, event ≠ .resume position answers) : layer.Proceeds event := by
  refine ⟨calls, fun index waits => ?_⟩
  rcases waits.2.2 with ⟨len, same⟩ | ⟨position, answers, _, same, _⟩
  · exact other index len same
  · exact fresh position answers same

theorem change_same (proceeds : layer.Proceeds event) :
    Change layer event { layer with woken, fault } :=
  .quiet (.same proceeds ⟨rfl, rfl, rfl, rfl⟩)

theorem change_connectLoop (resumed : layer.woken[position]? = some (index, .connect))
    (proceeds : layer.Proceeds (.resume position answers))
    (performed : layer.connectLoop index = .ok (outcome, next)) :
    Change layer (.resume position answers) { next with woken, fault } := by
  unfold connectLoop at performed
  split_ifs at performed with connecting
  · cases performed
    exact .quiet (.waitsConnect proceeds connecting ⟨_, _, rfl, resumed⟩ ⟨rfl, rfl, rfl, rfl⟩)
  · cases performed
    exact change_same proceeds
  · cases performed
    exact change_same proceeds

theorem change_writeEnd (proceeds : layer.Proceeds event)
    (performed : layer.writeEnd tpcb len answers = .ok (outcome, next)) :
    Change layer event { next with woken, fault } := by
  unfold writeEnd at performed
  dsimp only at performed
  split_ifs at performed
  split at performed
  · cases performed
    exact change_same proceeds
  · split at performed
    · cases performed
      exact .quiet (.writes proceeds (Nat.sub_le _ _) ⟨rfl, rfl, rfl, rfl⟩)
    · cases performed
      exact .quiet (.writes proceeds (Nat.sub_le _ _) ⟨rfl, rfl, rfl, rfl⟩)

theorem change_writeLoop (proceeds : layer.Proceeds event)
    (performed : layer.writeLoop index len answers = .ok (outcome, next)) :
    Change layer event { next with woken, fault } := by
  obtain ⟨tpcb, holds, live, performed⟩ := alive_bind_eq_ok.mp performed
  split_ifs at performed with waits
  · cases performed
    exact .quiet (.waitsSend proceeds waits.2 holds live waits.1 ⟨rfl, rfl, rfl, rfl⟩)
  · exact change_writeEnd proceeds performed

theorem change_write (proceeds : layer.Proceeds event)
    (performed : layer.tcpSocketWrite index len nonblock answers = .ok (outcome, next)) :
    Change layer event { next with woken, fault } := by
  unfold tcpSocketWrite at performed
  dsimp only at performed
  split at performed
  · cases performed
    exact change_same proceeds
  · split at performed
    · split_ifs at performed
      · cases performed
        exact change_same proceeds
      · cases performed
        exact change_same proceeds
    obtain ⟨tpcb, holds, live, performed⟩ := alive_bind_eq_ok.mp performed
    split_ifs at performed
    · cases performed
      exact change_same proceeds
    · exact change_writeLoop proceeds performed
    · exact change_writeEnd proceeds performed

/-- A call of `tcp_socket_recv` that does not wait. -/
theorem change_recvEnd {result : Socket.RecvOutcome} (calls : event.Calls)
    (waits : result = .waits → layer.WaitsForData event index)
    (other : result ≠ .waits → ∀ other, ¬ layer.WaitsForData event other)
    (fewer : ∀ bytes rx, result = .returns bytes rx → rx.rxLen ≤ (layer.sockets index).rx.rxLen)
    (performed : layer.recvEnd index len result = .ok (outcome, next)) :
    Change layer event { next with woken, fault } := by
  cases result with
  | fails error =>
    cases performed
    exact change_same ⟨calls, other (by simp)⟩
  | waits =>
    cases performed
    exact .quiet (.waitsRecv calls (waits rfl) ⟨rfl, rfl, rfl, rfl⟩)
  | returns bytes rx =>
    obtain ⟨tpcb, holds, live, performed⟩ := alive_bind_eq_ok.mp performed
    cases performed
    exact .quiet (.reads ⟨calls, other (by simp)⟩ holds (fewer _ _ rfl) ⟨rfl, rfl, rfl, rfl⟩)

theorem change_recv (performed : layer.tcpSocketRecv index len nonblock = .ok (outcome, next)) :
    Change layer (.recv index len nonblock) { next with woken, fault } := by
  refine change_recvEnd .recv (fun waits => ?_) (fun done other waits => ?_)
    (fun _ _ => Socket.rxLen_le_of_tcpSocketRecv) performed
  · obtain ⟨state, empty, blocks⟩ := Socket.tcpSocketRecv_eq_waits_iff.mp waits
    exact ⟨state, empty, .inl ⟨len, by rw [blocks]⟩⟩
  · obtain ⟨state, empty, ⟨_, same⟩ | ⟨_, _, _, same, _⟩⟩ := waits
    · cases same
      exact done (Socket.tcpSocketRecv_eq_waits_iff.mpr ⟨state, empty, rfl⟩)
    · cases same

theorem change_resumeRecv (resumed : layer.woken[position]? = some (index, .recv len))
    (performed : layer.recvEnd index len ((layer.sockets index).recvLoop len) = .ok (outcome, next)) :
    Change layer (.resume position answers) { next with woken, fault } := by
  refine change_recvEnd .resume (fun waits => ?_) (fun done other waits => ?_)
    (fun _ _ => Socket.rxLen_le_of_recvLoop) performed
  · obtain ⟨state, empty⟩ := Socket.recvLoop_eq_waits_iff.mp waits
    exact ⟨state, empty, .inr ⟨_, _, len, rfl, resumed⟩⟩
  · obtain ⟨state, empty, ⟨_, same⟩ | ⟨_, _, _, same, found⟩⟩ := waits
    · cases same
    · cases same
      cases resumed.symm.trans found
      exact done (Socket.recvLoop_eq_waits_iff.mpr ⟨state, empty⟩)

/-! ### Accepting -/

/-- Taking a connection only changes a queue. -/
theorem dequeue_alike (layer : SocketLayer) (index other : Fin maxSockets) :
    ((layer.dequeue index).sockets other).state = (layer.sockets other).state ∧
      ((layer.dequeue index).sockets other).sockTpcb = (layer.sockets other).sockTpcb ∧
      ((layer.dequeue index).sockets other).rx = (layer.sockets other).rx := by
  by_cases same : other = index
  · rw [same, setSocket_sockets_self]
    exact ⟨rfl, rfl, rfl⟩
  · rw [setSocket_sockets_of_ne same]
    exact ⟨rfl, rfl, rfl⟩

theorem socketAllocate_congr {after : SocketLayer}
    (alike : ∀ index, (after.sockets index).state = (layer.sockets index).state ∧
      (after.sockets index).sockTpcb = (layer.sockets index).sockTpcb ∧
      (after.sockets index).rx = (layer.sockets index).rx) :
    after.socketAllocate = layer.socketAllocate := by
  simp only [socketAllocate, alike]

/-- How a call that accepts ends, behind the wait. -/
inductive AcceptEnds (layer : SocketLayer) (index : Fin maxSockets) (result : CloseResult) :
    Except Fault (Outcome × SocketLayer) → Prop
  | empty
    (empty : (layer.sockets index).acceptQueue.head = (layer.sockets index).acceptQueue.tail) :
    AcceptEnds layer index result (.ok (.fails .enomem, layer))
  | dead {tpcb : Pcb}
    (oldest : layer.Oldest index tpcb)
    (dead : ¬ layer.Live tpcb) : AcceptEnds layer index result (.error .deadPcb)
  | dropped {tpcb : Pcb} {next : SocketLayer}
    (oldest : layer.Oldest index tpcb)
    (live : layer.Live tpcb) (full : ∀ other, (layer.sockets other).state ≠ .unallocated)
    (becomes : next.Becomes (layer.dequeue index).sockets layer.socketRefcount
      (update layer.pcbs tpcb ((layer.pcbs tpcb).close result)) layer.nextPcb) :
    AcceptEnds layer index result (.ok (.fails .enomem, next))
  | accepted {tpcb : Pcb} {new : Fin maxSockets} {next : SocketLayer}
    (oldest : layer.Oldest index tpcb)
    (live : layer.Live tpcb) (different : new ≠ index)
    (state : (layer.sockets new).state = .unallocated)
    (becomes : next.Becomes
      (update (layer.dequeue index).sockets new
        ((layer.sockets new).taking tpcb))
      (update layer.socketRefcount new (layer.socketRefcount new + 1))
      (update layer.pcbs tpcb
        { layer.pcbs tpcb with errFunc := true, recvFunc := true, arg := some new })
      layer.nextPcb) :
    AcceptEnds layer index result (.ok (.returns new, next))

theorem Sound.acceptEnds (sound : layer.Sound) (index : Fin maxSockets) (result : CloseResult) :
    AcceptEnds layer index result (layer.acceptEnd index result) := by
  unfold acceptEnd
  dsimp only
  split_ifs with empty
  · exact .empty empty
  rw [@socketAllocate_congr layer (layer.dequeue index) (layer.dequeue_alike index)]
  by_cases live : layer.Live ((layer.sockets index).acceptQueue.pendingPcbs
      (layer.sockets index).acceptQueue.tail)
  · have given : (layer.dequeue index).alive (some _) = .ok _ :=
      if_pos live
    rcases sound.socketAllocate_cases with ⟨search, full⟩ | ⟨new, search⟩ <;>
      simp only [search, given, bind]
    · exact .dropped ⟨empty, rfl⟩ live full ⟨rfl, rfl, rfl, rfl⟩
    · have free := state_of_socketAllocate search
      have different : new ≠ index := by
        rintro rfl
        have slot := sound.slots new
        have listened := slot.listened fun none => empty (slot.wellFormed.entries_eq_nil_iff.mp none)
        rcases listened with state | ⟨state, _⟩ <;> cases free.symm.trans state
      refine .accepted ⟨empty, rfl⟩ live different free ⟨?_, rfl, rfl, rfl⟩
      show update (layer.dequeue index).sockets new _ = _
      rw [setSocket_sockets_of_ne different]
  · have given : (layer.dequeue index).alive (some _) = .error .deadPcb := if_neg live
    rcases sound.socketAllocate_cases with ⟨search, _⟩ | ⟨new, search⟩ <;>
      simp only [search, given, bind]
    · exact .dead ⟨empty, rfl⟩ live
    · exact .dead ⟨empty, rfl⟩ live

theorem change_acceptEnd (sound : layer.Sound) (proceeds : layer.Proceeds event)
    (performed : layer.acceptEnd index result = .ok (outcome, next)) :
    Change layer event { next with woken, fault } := by
  cases performed ▸ sound.acceptEnds index result with
  | empty => exact change_same proceeds
  | dropped oldest live _ becomes =>
    exact .dropped proceeds oldest live ⟨becomes.1, becomes.2, becomes.3, becomes.4⟩
  | accepted oldest live different state becomes =>
    exact .accepted proceeds oldest different state live
      ⟨becomes.1, becomes.2, becomes.3, becomes.4⟩

theorem change_accept (sound : layer.Sound)
    (performed : layer.tcpSocketAccept index nonblock result = .ok (outcome, next)) :
    Change layer (.accept index nonblock result) { next with woken, fault } := by
  have proceeds : layer.Proceeds (.accept index nonblock result) :=
    .of_call .accept (by simp) (by simp)
  unfold tcpSocketAccept at performed
  dsimp only at performed
  split_ifs at performed with closed empty
  · cases performed
    exact change_same proceeds
  · cases performed
    exact change_same proceeds
  · cases performed
    exact .quiet (.waitsAccept proceeds (not_not.mp closed) empty ⟨rfl, rfl, rfl, rfl⟩)
  · exact change_acceptEnd sound proceeds performed

theorem change_resume {call : Blocked} (sound : layer.Sound)
    (resumed : layer.woken[position]? = some (index, call))
    (performed : layer.resume index answers call = .ok (outcome, next)) :
    Change layer (.resume position answers) { next with woken, fault } := by
  have proceeds (other : ∀ len, call ≠ .recv len) : layer.Proceeds (.resume position answers) := by
    refine ⟨.resume, ?_⟩
    rintro index' ⟨_, _, ⟨_, same⟩ | ⟨_, _, len, same, found⟩⟩
    · cases same
    · cases same
      cases resumed.symm.trans found
      exact other len rfl
  cases call with
  | connect => exact change_connectLoop resumed (proceeds (by simp)) performed
  | write len => exact change_writeLoop (proceeds (by simp)) performed
  | recv len => exact change_resumeRecv resumed performed
  | accept => exact change_acceptEnd sound (proceeds (by simp)) performed

/-! ### Opening, connecting and closing -/

/-- Without memory for a PCB the slot stays allocated, and is referenced less than never. -/
theorem openSocket_none (result : CloseResult) (sound : layer.Sound)
    (allocated : layer.socketAllocate = .ok (some index)) :
    ∃ closed, layer.openSocket none result = .ok (.fails .enomem, closed) ∧ closed.Becomes
        (update layer.sockets index
          { layer.sockets index with state := .allocated, sockTpcb := none })
        (update layer.socketRefcount index (layer.socketRefcount index - 1))
        layer.pcbs layer.nextPcb := by
  have closed := (sound.of_unallocated (state_of_socketAllocate allocated)).2
  have initialised : (layer.setState index .allocated).tcpSocketInit index none =
      .ok (.fails .enomem, (layer.setState index .allocated).setSocket index
        { layer.sockets index with state := .allocated, sockTpcb := none }) := by
    rw [tcpSocketInit, setState_sockets_self]
    exact if_neg (not_not_intro rfl)
  have dropped : ¬ layer.socketRefcount index - 1 = 0 := by
    rw [closed]
    decide
  refine ⟨((layer.setState index .allocated).setSocket index
    { layer.sockets index with state := .allocated, sockTpcb := none }).setRefcount index
      (layer.socketRefcount index - 1), ?_, update_idem _ _ _, rfl, rfl, rfl⟩
  simp only [openSocket, allocated, initialised, tcpSocketClose, bind, Except.bind]
  rw [show ((layer.setState index .allocated).setSocket index _).socketRefcount index =
    layer.socketRefcount index from rfl, if_neg dropped]

theorem openSocket_some (result : CloseResult) (allocated : layer.socketAllocate = .ok (some index)) :
    ∃ opened, layer.openSocket (some sndbuf) result = .ok (.returns index, opened) ∧ opened.Becomes
        (update layer.sockets index
          { layer.sockets index with
            state := .allocated
            sockTpcb := some layer.nextPcb
            acceptQueue := { (layer.sockets index).acceptQueue with head := 0, tail := 0 }
            waiters := fun _ => [] })
        (update layer.socketRefcount index (layer.socketRefcount index + 1))
        (update layer.pcbs layer.nextPcb { fresh .idle (some index) sndbuf with errFunc := true })
        (layer.nextPcb + 1) := by
  obtain ⟨opened, initialised, sockets, rest⟩ : ∃ opened,
      (layer.setState index .allocated).tcpSocketInit index (some sndbuf) =
        .ok (.returns 0, opened) ∧
      opened.sockets = update (layer.setState index .allocated).sockets index _ ∧
      opened.socketRefcount = update layer.socketRefcount index _ ∧
      opened.pcbs = update layer.pcbs layer.nextPcb _ ∧
      opened.nextPcb = layer.nextPcb + 1 := by
    rw [tcpSocketInit, setState_sockets_self]
    exact ⟨_, if_neg (not_not_intro rfl), rfl, rfl, rfl, rfl⟩
  refine ⟨opened, ?_, sockets.trans (update_idem _ _ _), rest.1, rest.2.1, rest.2.2⟩
  simp only [openSocket, allocated, initialised, bind, Except.bind]

theorem change_open {memory : Option Nat} (sound : layer.Sound)
    (performed : layer.openSocket memory result = .ok (outcome, next)) :
    Change layer (.socket memory result) { next with woken, fault } := by
  have proceeds : layer.Proceeds (.socket memory result) :=
    .of_call .socket (by simp) (by simp)
  cases allocated : layer.socketAllocate with
  | error fault =>
    simp only [openSocket, allocated] at performed
    cases performed
  | ok found =>
    cases found with
    | none =>
      simp only [openSocket, allocated] at performed
      cases performed
      exact change_same proceeds
    | some index =>
      have state := state_of_socketAllocate allocated
      cases memory with
      | none =>
        obtain ⟨closed, computed, becomes⟩ := openSocket_none result sound allocated
        cases computed.symm.trans performed
        exact .openFailed rfl state ⟨becomes.1, becomes.2, becomes.3, becomes.4⟩
      | some sndbuf =>
        obtain ⟨opened, computed, becomes⟩ := openSocket_some result allocated
        cases computed.symm.trans performed
        exact .opened proceeds state ⟨becomes.1, becomes.2, becomes.3, becomes.4⟩

theorem change_bind {found : Bool}
    (performed : layer.tcpSocketBind index found answer = .ok (outcome, next)) :
    Change layer (.bind index found answer) { next with woken, fault } := by
  have proceeds : layer.Proceeds (.bind index found answer) :=
    .of_call .bind (by simp) (by simp)
  unfold tcpSocketBind at performed
  dsimp only at performed
  split at performed
  · cases performed
    exact change_same proceeds
  · rename_i state
    split at performed
    · cases performed
      exact change_same proceeds
    · obtain ⟨tpcb, holds, live, performed⟩ := alive_bind_eq_ok.mp performed
      split at performed
      · cases performed
        exact change_same proceeds
      · cases performed
        exact .bound proceeds (not_not.mp state) holds ⟨rfl, rfl, rfl, rfl⟩

theorem change_connect (sound : layer.Sound)
    (performed : layer.tcpSocketConnect index answer nonblock = .ok (outcome, next)) :
    Change layer (.connect index answer nonblock) { next with woken, fault } := by
  have proceeds : layer.Proceeds (.connect index answer nonblock) :=
    .of_call .connect (by simp) (by simp)
  unfold tcpSocketConnect at performed
  dsimp only at performed
  split at performed
  · cases performed
    exact change_same proceeds
  split at performed
  · cases performed
    exact change_same proceeds
  split at performed
  · cases performed
    exact change_same proceeds
  rename_i other
  have state : (layer.sockets index).state = .bound ∨ (layer.sockets index).state = .allocated :=
    (Classical.not_and_iff_not_or_not.mp other).imp not_not.mp not_not.mp
  obtain ⟨tpcb, holds, live, performed⟩ := alive_bind_eq_ok.mp performed
  have idle := (sound.of_unconnected state.symm holds).1
  split at performed
  · cases performed
    refine .connects proceeds state holds (.inr ⟨rfl, rfl⟩) ⟨rfl, rfl, ?_, rfl⟩
    rw [← idle]
    exact (update_eq_self _ _).symm
  · split at performed
    · cases performed
      exact .connects proceeds state holds (.inl ⟨rfl, fun _ _ => rfl⟩) ⟨rfl, rfl, rfl, rfl⟩
    · have connecting : (((layer.setState index .connecting).setPcb tpcb
          { layer.pcbs tpcb with phase := .connecting }).sockets index) =
          { layer.sockets index with state := .connecting } := setState_sockets_self
      rw [connectLoop, connecting] at performed
      cases performed
      let waiters := update (layer.sockets index).waiters .connectSem
        ((layer.sockets index).waiters .connectSem ++ [.connect])
      refine @Change.connects layer _ _ index tpcb .connecting waiters proceeds state holds
        (.inl ⟨rfl, fun _ other => update_of_ne other _ _⟩) ⟨?_, rfl, rfl, rfl⟩
      show update (update _ _ _) index _ = _
      rw [connecting, update_idem]
      rfl

theorem change_listen {memory : Bool} (referenced : 0 < layer.socketRefcount index)
    (performed : layer.tcpSocketListen index memory = .ok (outcome, next)) :
    Change layer (.listen index memory) { next with woken, fault } := by
  have proceeds : layer.Proceeds (.listen index memory) :=
    .of_call .listen (by simp) (by simp)
  obtain ⟨tpcb, holds, live, ends⟩ := alive_bind_eq_ok.mp performed
  split at ends
  · rename_i idle
    cases ends
    exact .listens proceeds referenced holds idle ⟨rfl, rfl, rfl, rfl⟩
  · cases ends

theorem change_dup (performed : layer.tcpSocketDup index = .ok (outcome, next)) :
    Change layer (.dup index) { next with woken, fault } := by
  unfold tcpSocketDup at performed
  split at performed
  · rename_i referenced
    cases performed
    exact .duplicated (.of_call .dup (by simp) (by simp)) referenced ⟨rfl, rfl, rfl, rfl⟩
  · cases performed

theorem tcpSocketClose_of_last (last : layer.socketRefcount index = 1) (result : CloseResult) :
    layer.tcpSocketClose index result =
      (layer.setRefcount index 0).tcpSocketCloseInt index result := by
  have zero : layer.socketRefcount index - 1 = 0 := by rw [last]; rfl
  unfold tcpSocketClose
  rw [if_pos zero, zero]

/-- A connection is closed, and so is a PCB that listens. -/
theorem tcpSocketCloseInt_opened
    (state : (layer.sockets index).state = .listening ∨ (layer.sockets index).state = .connected)
    (holds : (layer.sockets index).sockTpcb = some tpcb) (live : layer.Live tpcb) :
    layer.tcpSocketCloseInt index result = .ok (.ofErr ((layer.pcbs tpcb).closeErr result),
      (layer.setState index .closing).setPcb tpcb ((layer.pcbs tpcb).close result)) := by
  unfold tcpSocketCloseInt
  dsimp only
  rcases state with state | state <;> rw [state] <;>
    exact alive_bind_eq_ok.mpr ⟨tpcb, holds, live, rfl⟩

/-- A connection that is being made is aborted. -/
theorem tcpSocketCloseInt_connecting (state : (layer.sockets index).state = .connecting)
    (holds : (layer.sockets index).sockTpcb = some tpcb) (live : layer.Live tpcb) :
    layer.tcpSocketCloseInt index result = .ok (.returns 0,
      (layer.setPcb tpcb { (layer.pcbs tpcb).free with arg := none }).release index) := by
  unfold tcpSocketCloseInt
  dsimp only
  rw [state]
  exact alive_bind_eq_ok.mpr ⟨tpcb, holds, live, rfl⟩

theorem change_close (sound : layer.Sound) (referenced : 0 < layer.socketRefcount index)
    (performed : layer.tcpSocketClose index result = .ok (outcome, next)) :
    Change layer (.close index result) { next with woken, fault } := by
  unfold tcpSocketClose at performed
  split at performed
  · rename_i zero
    have last : layer.socketRefcount index = 1 := Int.sub_eq_zero.mp zero
    rw [zero] at performed
    unfold tcpSocketCloseInt at performed
    dsimp only [setRefcount] at performed
    cases (sound.slots index).backed with
    | unallocated _ _ closed => omega
    | failed _ _ closed => omega
    | unconnected state =>
      rcases state with state | state
      · rw [state] at performed
        cases performed
        exact .released rfl last (.inl state) ⟨rfl, rfl, rfl, rfl⟩
      · rw [state] at performed
        cases performed
        exact .released rfl last (.inr (.inl state)) ⟨rfl, rfl, rfl, rfl⟩
    | connecting state =>
      rw [state] at performed
      obtain ⟨tpcb, holds, live, performed⟩ := alive_bind_eq_ok.mp performed
      cases performed
      exact .aborted rfl last state holds ⟨rfl, rfl, rfl, rfl⟩
    | connected state =>
      rw [state] at performed
      obtain ⟨tpcb, holds, live, performed⟩ := alive_bind_eq_ok.mp performed
      cases performed
      exact .closed rfl last (.inr state) holds live ⟨rfl, rfl, rfl, rfl⟩
    | closing _ _ _ _ _ closed => omega
    | closedByPeer state =>
      rw [state] at performed
      cases performed
      exact .released rfl last (.inr (.inr (.inr state))) ⟨rfl, rfl, rfl, rfl⟩
    | error state =>
      rw [state] at performed
      cases performed
      exact .released rfl last (.inr (.inr (.inl state))) ⟨rfl, rfl, rfl, rfl⟩
    | listening state =>
      rw [state] at performed
      obtain ⟨tpcb, holds, live, performed⟩ := alive_bind_eq_ok.mp performed
      cases performed
      exact .closed rfl last (.inl state) holds live ⟨rfl, rfl, rfl, rfl⟩
  · cases performed
    refine .closedShared rfl ?_ ⟨rfl, rfl, rfl, rfl⟩
    omega

/-! ### Callbacks of lwIP -/

theorem change_connected (phase : (layer.pcbs tpcb).phase = .connecting)
    (performed : layer.perform (.lwipConnected tpcb) = .ok (outcome, next)) :
    Change layer (.lwipConnected tpcb) { next with woken, fault } := by
  simp only [perform, socketConnected] at performed
  split at performed
  · cases performed
  · rename_i index arg
    split at performed
    · cases performed
    · rename_i state
      cases performed
      refine .connected rfl phase arg (not_not.mp state) ⟨?_, rfl, ?_, rfl⟩
      · show update (update layer.sockets index _) index
          (Socket.signal (update layer.sockets index _ index) .connectSem) = _
        rw [update_idem, update_self]
        rfl
      · show update (update layer.pcbs tpcb _) tpcb _ = _
        rw [update_idem, setPcb_pcbs_self]

theorem change_err {err : LwipErr} (active : (layer.pcbs tpcb).phase.Active)
    (performed : layer.perform (.lwipErr tpcb err) = .ok (outcome, next)) :
    Change layer (.lwipErr tpcb err) { next with woken, fault } := by
  cases performed
  split
  · rename_i errFunc
    cases arg : (layer.pcbs tpcb).arg with
    | none => exact .failedUnnoticed rfl active (fun _ => arg) ⟨rfl, rfl, rfl, rfl⟩
    | some index =>
      refine @Change.failed layer _ _ index tpcb err (some (lwipErrToErrno err)) rfl active errFunc
        arg ?_
      simp only [socketErrFunc]
      split
      · refine ⟨?_, rfl, rfl, rfl⟩
        show update (update layer.sockets index _) index
          (Socket.signal (update layer.sockets index _ index) .connectSem) = _
        rw [update_idem, update_self, if_pos (by assumption)]
        rfl
      · refine ⟨?_, rfl, rfl, rfl⟩
        rw [if_neg (by assumption)]
        rfl
  · rename_i errFunc
    exact .failedUnnoticed rfl active (fun registered => absurd registered errFunc)
      ⟨rfl, rfl, rfl, rfl⟩

/-- What comes of a new connection. -/
inductive Arrives (layer : SocketLayer) (tpcb : Pcb) (sndbuf : Nat) :
    Except Fault (Outcome × SocketLayer) → Prop
  | unheard (unheard : ∀ index, (layer.pcbs tpcb).arg = some index →
      (layer.sockets index).state ≠ .listening) : Arrives layer tpcb sndbuf (.error .assertion)
  | full {index : Fin maxSockets} (arg : (layer.pcbs tpcb).arg = some index)
    (state : (layer.sockets index).state = .listening)
    (full : ((layer.sockets index).acceptQueue.head + 1) % maxListenBacklog =
      (layer.sockets index).acceptQueue.tail) :
    Arrives layer tpcb sndbuf (.ok (.fails .enomem,
      (layer.newPcb { fresh .freed (some index) sndbuf with handedBack := true }).signal
        index .acceptSem))
  | room {index : Fin maxSockets} (arg : (layer.pcbs tpcb).arg = some index)
    (state : (layer.sockets index).state = .listening)
    (room : ((layer.sockets index).acceptQueue.head + 1) % maxListenBacklog ≠
      (layer.sockets index).acceptQueue.tail) :
    Arrives layer tpcb sndbuf (.ok (.returns 0,
      ((layer.newPcb (fresh .established (some index) sndbuf)).setSocket index
        { layer.sockets index with
          acceptQueue := (layer.sockets index).acceptQueue.enqueue layer.nextPcb }).signal
        index .acceptSem))

theorem acceptConnection_arrives (layer : SocketLayer) (tpcb : Pcb) (sndbuf : Nat) :
    Arrives layer tpcb sndbuf (layer.acceptConnection tpcb sndbuf) := by
  cases arg : (layer.pcbs tpcb).arg with
  | none =>
    simp only [acceptConnection, arg]
    exact .unheard fun index same => by cases arg.symm.trans same
  | some index =>
    simp only [acceptConnection, arg, tcpSocketAcceptCb, setPcb]
    split_ifs with other full
    · exact .unheard fun _ same => by cases arg.symm.trans same; exact other
    · convert Arrives.full arg (not_not.mp other) full using 3
      simp [newPcb, setPcb, signal, setSocket, close, free, fresh, bind, Except.bind]
    · exact .room arg (not_not.mp other) full

theorem change_acceptConnection
    (performed : layer.acceptConnection tpcb sndbuf = .ok (outcome, next)) :
    Change layer (.lwipAccept tpcb sndbuf none) { next with woken, fault } := by
  cases performed ▸ layer.acceptConnection_arrives tpcb sndbuf with
  | full arg state full => exact .turnedAway rfl arg state full rfl rfl ⟨rfl, rfl, rfl, rfl⟩
  | room arg state room =>
    refine .queued rfl arg state room ⟨?_, rfl, rfl, rfl⟩
    show update (update layer.sockets _ _) _ (Socket.signal (update layer.sockets _ _ _) _) = _
    rw [update_idem, update_self]

theorem change_segment {p : List UInt8T} (some_bytes : 0 < p.length) (small : p.length < 65536)
    (performed : layer.perform (.lwipRecv tpcb p) = .ok (outcome, next)) :
    Change layer (.lwipRecv tpcb p) { next with woken, fault } := by
  simp only [perform, socketRecvSegment] at performed
  split at performed
  · rename_i recvFunc
    cases arg : (layer.pcbs tpcb).arg with
    | none =>
      rw [arg] at performed
      cases performed
    | some index =>
      rw [arg] at performed
      dsimp only at performed
      split at performed
      · rename_i state
        rcases (layer.sockets index).receive_cases p with ⟨refuses, full⟩ | ⟨rx, receives, more⟩
        · rw [refuses] at performed
          cases performed
          refine .quiet (.refused rfl (fun _ index' same _ => ?_) ⟨rfl, rfl, rfl, rfl⟩)
          cases arg.symm.trans same
          unfold socketBufSize at full
          omega
        · rw [receives] at performed
          cases performed
          refine .quiet (.segment rfl recvFunc arg state (more ▸ Nat.add_pos_right _ some_bytes)
            ⟨?_, rfl, rfl, rfl⟩)
          show update (update layer.sockets index _) index
            (Socket.signal (update layer.sockets index _ index) .recvSem) = _
          rw [update_idem, update_self]
      · rename_i state
        cases performed
        refine .quiet (.refused rfl (fun _ index' same connected => ?_) ⟨rfl, rfl, rfl, rfl⟩)
        cases arg.symm.trans same
        cases state.symm.trans connected
      · rename_i state
        cases performed
        refine .quiet (.refused rfl (fun _ index' same connected => ?_) ⟨rfl, rfl, rfl, rfl⟩)
        cases arg.symm.trans same
        cases state.symm.trans connected
      · cases performed
  · rename_i unregistered
    cases performed
    exact .quiet (.refused rfl (fun registered => absurd registered unregistered)
      ⟨rfl, rfl, rfl, rfl⟩)

theorem change_sent (more : 0 < len)
    (performed : layer.perform (.lwipSent tpcb len) = .ok (outcome, next)) :
    Change layer (.lwipSent tpcb len) { next with woken, fault } := by
  simp only [perform, socketSentCallback] at performed
  split at performed
  · rename_i recvFunc
    split at performed
    · cases performed
    · rename_i index arg
      cases performed
      exact .quiet (.sent rfl recvFunc arg more ⟨rfl, rfl, rfl, rfl⟩)
  · rename_i recvFunc
    cases performed
    exact .quiet (.sentUnnoticed rfl (Bool.eq_false_iff.mpr recvFunc) ⟨rfl, rfl, rfl, rfl⟩)

/-- What `tcp_close` leaves of a PCB of a connection. -/
theorem close_opened (phase : pcb.phase = .established ∨ pcb.phase = .closing)
    (result : CloseResult) : (pcb.close result).phase.Opened ∧
      (pcb.close result).handedBack = true ∧ (pcb.close result).arg = pcb.arg ∧
      (pcb.close result).errFunc = pcb.errFunc ∧ (pcb.close result).recvFunc = pcb.recvFunc := by
  unfold close
  rcases phase with phase | phase
  · rw [phase]
    cases result <;> simp [PcbPhase.Opened]
  · rw [phase]
    simp [PcbPhase.Opened]

/-- `tcp_close` only frees a PCB of a connection that it resets. -/
theorem close_freed_iff {pcb : LwipPcb} {result : CloseResult}
    (phase : pcb.phase = .established ∨ pcb.phase = .closing) :
    (pcb.close result).phase = .freed ↔ pcb.phase = .established ∧ result = .frees := by
  unfold close
  rcases phase with phase | phase <;> rw [phase]
  · cases result <;> simp
  · simp

theorem close_phase_finReceived (pcb : LwipPcb) (finReceived : Bool) (result : CloseResult) :
    (close { pcb with finReceived } result).phase = (pcb.close result).phase := by
  unfold close
  cases pcb.phase <;> cases result <;> rfl

theorem change_fin (sound : layer.Sound) (transfers : layer.Transfers tpcb)
    (performed : layer.perform (.lwipFin tpcb result) = .ok (outcome, next)) :
    Change layer (.lwipFin tpcb result) { next with woken, fault } := by
  simp only [perform, socketRecvFin] at performed
  have closed := @close_opened { layer.pcbs tpcb with finReceived := true } transfers result
  split at performed
  · rename_i recvFunc
    split at performed
    · cases performed
    · rename_i index arg
      have active : (layer.pcbs tpcb).phase.Active := by
        rcases transfers with phase | phase <;> rw [phase] <;> trivial
      have errFunc := (sound.pcbs tpcb).recvFunc recvFunc
      have holds := (sound.pcbs tpcb).called active errFunc index arg
      split at performed
      · rename_i state
        obtain ⟨own, self, live, performed⟩ := alive_bind_eq_ok.mp performed
        cases self
        obtain ⟨own, self, live', performed⟩ := alive_bind_eq_ok.mp performed
        cases holds.symm.trans self
        cases performed
        rw [setPcb_pcbs_self] at live'
        rw [Live, setPcb_pcbs_self, close_phase_finReceived] at live'
        let pcb := { close { layer.pcbs tpcb with finReceived := true } result with
          arg := none }
        refine @Change.ended layer _ _ index tpcb result pcb rfl recvFunc transfers arg state live'
          ⟨closed.1, closed.2.1, rfl, closed.2.2.2.1.trans errFunc⟩ ⟨?_, rfl, ?_, rfl⟩
        · show update (update layer.sockets index _) index
            (Socket.signal (update layer.sockets index _ index) .recvSem) = _
          rw [update_idem, update_self]
          rfl
        · show update (update (update layer.pcbs tpcb _) tpcb _) tpcb _ = _
          rw [update_idem, update_idem, setPcb_pcbs_self, setPcb_pcbs_self]
      · rename_i state
        have idle := (sound.of_unconnected (.inl state) holds).1
        rw [idle] at active
        exact active.elim
      · rename_i state
        obtain ⟨own, self, live, performed⟩ := alive_bind_eq_ok.mp performed
        cases holds.symm.trans self
        cases performed
        refine .endedClosing rfl recvFunc transfers arg state ⟨rfl, rfl, ?_, rfl⟩
        show update (update layer.pcbs tpcb _) tpcb _ = _
        rw [update_idem, setPcb_pcbs_self]
      · cases performed
  · rename_i unregistered
    cases performed
    have recvFunc : (layer.pcbs tpcb).recvFunc = false := Bool.eq_false_iff.mpr unregistered
    refine .endedUnnoticed rfl recvFunc transfers
      ⟨closed.1, closed.2.1, closed.2.2.1, closed.2.2.2.1, closed.2.2.2.2.trans recvFunc⟩
      ⟨rfl, rfl, ?_, rfl⟩
    show update (update layer.pcbs tpcb _) tpcb _ = _
    rw [update_idem, setPcb_pcbs_self]

/-! ### All events -/

theorem change_of_perform (sound : layer.Sound) (enabled : layer.Enabled event)
    (performed : layer.perform event = .ok (outcome, next)) :
    Change layer event { next with fault } := by
  cases event with
  | socket memory result => exact change_open sound performed
  | bind index found answer => exact change_bind performed
  | connect index answer nonblock => exact change_connect sound performed
  | listen index memory => exact change_listen enabled performed
  | accept index nonblock result => exact change_accept sound performed
  | dup index => exact change_dup performed
  | close index result => exact change_close sound enabled performed
  | write index len nonblock answers =>
    exact change_write (.of_call .write (by simp) (by simp)) performed
  | recv index len nonblock => exact change_recv performed
  | resume position answers =>
    simp only [perform] at performed
    split at performed
    · rename_i nobody
      exact absurd enabled (Nat.not_lt.mpr (List.getElem?_eq_none_iff.mp nobody))
    · rename_i index call resumed
      cases computed : layer.resume index answers call with
      | error fault =>
        rw [computed] at performed
        cases performed
      | ok result =>
        rw [computed] at performed
        cases performed
        obtain ⟨ends, resumed'⟩ := result
        have change : Change layer (.resume position answers)
            { resumed' with woken := resumed'.woken.eraseIdx position, fault } :=
          change_resume sound resumed computed
        exact change
  | lwipConnected tpcb => exact change_connected enabled performed
  | lwipErr tpcb err => exact change_err enabled performed
  | lwipAccept tpcb sndbuf err =>
    cases err with
    | none => exact change_acceptConnection performed
    | some err =>
      simp only [perform, tcpSocketAcceptCb] at performed
      split at performed
      · cases performed
      · split at performed
        · cases performed
        · cases performed
          exact change_same (.of_call .acceptFailed (by simp) (by simp))
  | lwipRecv tpcb p => exact change_segment enabled.2.2.1 enabled.2.2.2 performed
  | lwipFin tpcb result => exact change_fin sound enabled.1 performed
  | lwipSent tpcb len => exact change_sent enabled.2 performed
  | lwipFree tpcb =>
    cases performed
    exact .freed rfl enabled ⟨rfl, rfl, rfl, rfl⟩

theorem step_cases (sound : layer.Sound) (step : LayerStep layer event next) :
    (∃ fault, layer.perform event = .error fault ∧ next = { layer with fault := some fault }) ∨
      Change layer event next ∧ next.fault = none ∧ ∃ result, layer.perform event = .ok result := by
  obtain ⟨working, enabled, rfl⟩ := step
  cases performed : layer.perform event with
  | error fault => exact .inl ⟨fault, rfl, rfl⟩
  | ok result => exact .inr ⟨change_of_perform sound enabled performed, rfl, result, rfl⟩

end SocketLayer

end LionsOS.Sock

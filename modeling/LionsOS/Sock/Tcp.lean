/-
This file embeds the socket layer of `tcp.c`: its slots and their reference
counts, the calls that applications make on them and the callbacks that lwIP
makes into them. lwIP itself is outside of this repository. Of each of its PCBs
the model has what the socket layer relies on: how far its connection has got,
the callbacks and the argument that are registered, and whether lwIP has freed
it. What lwIP answers to a call is part of the event. A call that is given a PCB
that lwIP has freed, or none, is a fault, and so is an assertion that fails.
-/

import LionsOS.Sock.Socket

open Function

namespace LionsOS.Sock

/-! ### lwIP -/

inductive LwipErr where
  | mem
  | buf
  | timeout
  | rte
  | inprogress
  | val
  | wouldblock
  | use
  | already
  | isconn
  | conn
  | netif
  | abrt
  | rst
  | clsd
  | arg
  deriving DecidableEq

/-- The table `lwip_err_to_errno`. -/
def lwipErrToErrno : LwipErr → Errno
  | .mem => .enomem
  | .buf => .enobufs
  | .timeout => .etimedout
  | .rte => .ehostunreach
  | .inprogress => .einprogress
  | .val => .einval
  | .wouldblock => .eagain
  | .use => .eaddrinuse
  | .already => .ealready
  | .isconn => .eisconn
  | .conn => .enotconn
  | .netif => .enodev
  | .abrt => .econnaborted
  | .rst => .econnreset
  | .clsd => .enotconn
  | .arg => .einval

inductive PcbPhase where
  /-- New, or bound to a port. -/
  | idle
  | listening
  | connecting
  | established
  /-- Closed by `tcp_close`, and not freed yet. -/
  | closing
  | freed
  deriving DecidableEq

/-- The connection can still end with an error. -/
def PcbPhase.Active : PcbPhase → Prop
  | .connecting | .established | .closing => True
  | .idle | .listening | .freed => False

instance (phase : PcbPhase) : Decidable phase.Active := by
  cases phase <;> unfold PcbPhase.Active <;> infer_instance

theorem PcbPhase.not_active_freed : ¬ PcbPhase.Active .freed :=
  fun active => active

theorem PcbPhase.Active.not_freed {phase : PcbPhase} (active : phase.Active) : phase ≠ .freed :=
  fun freed => not_active_freed (freed ▸ active)

structure LwipPcb where
  phase : PcbPhase
  /-- The slot that the callbacks are given. -/
  arg : Option (Fin maxSockets)
  /-- `socket_err_func` is registered. -/
  errFunc : Bool
  /-- `socket_recv_callback` and `socket_sent_callback` are registered. -/
  recvFunc : Bool
  finReceived : Bool
  sndbuf : Nat
  /-- The PCB has been passed to `tcp_close`. -/
  handedBack : Bool

/-- How `tcp_close` answers for an established connection. -/
inductive CloseResult where
  /-- The PCB is freed when the peer has closed as well. -/
  | keeps
  /-- The connection is reset, and the PCB is freed at once. -/
  | frees
  | fails (err : LwipErr)

/-- What lwIP answers to the calls that are made while an event is handled. -/
structure LwipAnswers where
  close : CloseResult
  write : Option LwipErr
  output : Option LwipErr

namespace LwipPcb

def fresh (phase : PcbPhase) (arg : Option (Fin maxSockets)) (sndbuf : Nat) : LwipPcb where
  phase := phase
  arg := arg
  errFunc := false
  recvFunc := false
  finReceived := false
  sndbuf := sndbuf
  handedBack := false

def free (pcb : LwipPcb) : LwipPcb :=
  { pcb with phase := .freed }

/-- What `tcp_close` makes of a PCB. Without a connection it is freed. -/
def close (pcb : LwipPcb) (result : CloseResult) : LwipPcb :=
  match pcb.phase, result with
  | .established, .keeps => { pcb with phase := .closing, handedBack := true }
  | .established, .fails _ => { pcb with handedBack := true }
  | .closing, _ => { pcb with handedBack := true }
  | _, _ => { pcb with phase := .freed, handedBack := true }

def closeErr (pcb : LwipPcb) : CloseResult → Option LwipErr
  | .fails err => if pcb.phase = .established then some err else none
  | _ => none

/-- `tcp_write` only takes data for a connection. -/
def writeErr (pcb : LwipPcb) (answer : Option LwipErr) : Option LwipErr :=
  if pcb.phase = .established ∨ pcb.phase = .connecting then answer else some .conn

end LwipPcb

/-! ### State -/

inductive Fault where
  /-- An assertion fails, or a callback uses a socket that is `NULL`. -/
  | assertion
  /-- lwIP is given a PCB that it has freed, or none. -/
  | deadPcb
  deriving DecidableEq

/-- How a call ends, or that it waits. -/
inductive Outcome where
  | waits
  | fails (error : Errno)
  | returns (value : Nat)
  | received (bytes : List UInt8T)

def Outcome.ofErr : Option LwipErr → Outcome
  | none => .returns 0
  | some err => .fails (lwipErrToErrno err)

namespace AcceptQueue

def enqueue (queue : AcceptQueue) (pcb : Pcb) : AcceptQueue :=
  { queue with
    pendingPcbs := update queue.pendingPcbs queue.head pcb
    head := (queue.head + 1) % maxListenBacklog }

def dequeue (queue : AcceptQueue) : AcceptQueue :=
  { queue with tail := (queue.tail + 1) % maxListenBacklog }

end AcceptQueue

/-- The slots and their reference counts, what lwIP has, and the calls that were woken. -/
structure SocketLayer where
  sockets : Fin maxSockets → Socket
  socketRefcount : Fin maxSockets → Int
  pcbs : Pcb → LwipPcb
  /-- The next PCB that lwIP gives out. -/
  nextPcb : Pcb
  /-- Calls that have been signalled and have not run yet. -/
  woken : List (Fin maxSockets × Blocked)
  fault : Option Fault

namespace SocketLayer

variable (layer : SocketLayer) {index : Fin maxSockets} {socket : Socket}

/-- Nothing has been called yet. -/
def zeroed : SocketLayer where
  sockets _ := Socket.zeroed
  socketRefcount _ := 0
  pcbs _ := LwipPcb.fresh .freed none 0
  nextPcb := 0
  woken := []
  fault := none

def setSocket (index : Fin maxSockets) (socket : Socket) : SocketLayer :=
  { layer with sockets := update layer.sockets index socket }

def setRefcount (index : Fin maxSockets) (count : Int) : SocketLayer :=
  { layer with socketRefcount := update layer.socketRefcount index count }

def setPcb (tpcb : Pcb) (pcb : LwipPcb) : SocketLayer :=
  { layer with pcbs := update layer.pcbs tpcb pcb }

/-- lwIP gives out a PCB that it has not given out before. -/
def newPcb (pcb : LwipPcb) : SocketLayer :=
  { layer.setPcb layer.nextPcb pcb with nextPcb := layer.nextPcb + 1 }

def Live (tpcb : Pcb) : Prop :=
  (layer.pcbs tpcb).phase ≠ .freed

instance (tpcb : Pcb) : Decidable (layer.Live tpcb) :=
  inferInstanceAs (Decidable ((layer.pcbs tpcb).phase ≠ .freed))

/-- The PCB that lwIP is given. -/
def alive (tpcb : Option Pcb) : Except Fault Pcb :=
  match tpcb with
  | some tpcb => if layer.Live tpcb then .ok tpcb else .error .deadPcb
  | none => .error .deadPcb

/-- Wake the first call that waits on a semaphore, if there is one. -/
def signal (index : Fin maxSockets) (semaphore : Semaphore) : SocketLayer :=
  { layer.setSocket index ((layer.sockets index).signal semaphore) with
    woken := layer.woken ++
      (((layer.sockets index).waiters semaphore).take 1).map fun call => (index, call) }

def wait (index : Fin maxSockets) (semaphore : Semaphore) (call : Blocked) : SocketLayer :=
  layer.setSocket index ((layer.sockets index).wait semaphore call)

def release (index : Fin maxSockets) : SocketLayer :=
  layer.setSocket index (layer.sockets index).release

def setState (index : Fin maxSockets) (state : SocketState) : SocketLayer :=
  layer.setSocket index { layer.sockets index with state }

variable {layer}

@[simp]
theorem setSocket_sockets_self : (layer.setSocket index socket).sockets index = socket :=
  update_self _ _ _

theorem setSocket_sockets_of_ne {other : Fin maxSockets} (different : other ≠ index) :
    (layer.setSocket index socket).sockets other =
      layer.sockets other :=
  update_of_ne different _ _

@[simp]
theorem setState_sockets_self {state : SocketState} :
    (layer.setState index state).sockets index = { layer.sockets index with state } :=
  update_self _ _ _

@[simp]
theorem setPcb_pcbs_self {tpcb : Pcb} {pcb : LwipPcb} : (layer.setPcb tpcb pcb).pcbs tpcb = pcb :=
  update_self _ _ _

variable (layer)

/-! ### Callbacks -/

def socketErrFunc (arg : Option (Fin maxSockets)) (err : LwipErr) : SocketLayer :=
  match arg with
  | none => layer
  | some index =>
    let failed := layer.setSocket index
      { layer.sockets index with state := .error, lastError := some (lwipErrToErrno err) }
    if (layer.sockets index).state = .connecting then failed.signal index .connectSem else failed

/-- `socket_recv_callback` with a segment. -/
def socketRecvSegment (arg : Option (Fin maxSockets)) (p : List UInt8T) :
    Except Fault (Outcome × SocketLayer) :=
  match arg with
  | none => .error .assertion
  | some index =>
    match (layer.sockets index).state with
    | .connected =>
      match (layer.sockets index).receive p with
      | none => .ok (.fails (lwipErrToErrno .mem), layer)
      | some socket => .ok (.returns 0, (layer.setSocket index socket).signal index .recvSem)
    | .allocated | .closing => .ok (.returns 0, layer)
    | _ => .error .assertion

/-- `socket_recv_callback` with the FIN of the peer. -/
def socketRecvFin (arg : Option (Fin maxSockets)) (tpcb : Pcb) (result : CloseResult) :
    Except Fault (Outcome × SocketLayer) :=
  match arg with
  | none => .error .assertion
  | some index =>
    match (layer.sockets index).state with
    | .connected => do
      let tpcb ← layer.alive (some tpcb)
      let closed := (layer.setState index .closedByPeer).setPcb tpcb
        ((layer.pcbs tpcb).close result)
      let own ← closed.alive (layer.sockets index).sockTpcb
      let forgotten := closed.setPcb own { closed.pcbs own with arg := none }
      .ok (.returns 0, forgotten.signal index .recvSem)
    | .allocated | .closing => do
      let own ← layer.alive (layer.sockets index).sockTpcb
      let forgotten := layer.setPcb own { layer.pcbs own with arg := none }
      .ok (.returns 0, forgotten.release index)
    | _ => .error .assertion

def socketSentCallback (arg : Option (Fin maxSockets)) : Except Fault (Outcome × SocketLayer) :=
  match arg with
  | none => .error .assertion
  | some index => .ok (.returns 0, layer.signal index .sendSem)

def socketConnected (arg : Option (Fin maxSockets)) (tpcb : Pcb) :
    Except Fault (Outcome × SocketLayer) :=
  match arg with
  | none => .error .assertion
  | some index =>
    if (layer.sockets index).state ≠ .connecting then .error .assertion
    else
      let connected := (layer.setState index .connected).setPcb tpcb
        { layer.pcbs tpcb with recvFunc := true }
      .ok (.returns 0, connected.signal index .connectSem)

/-- When the queue is full, lwIP aborts the new connection after it was closed. -/
def tcpSocketAcceptCb (arg : Option (Fin maxSockets)) (newpcb : Pcb) (err : Option LwipErr) :
    Except Fault (Outcome × SocketLayer) :=
  match arg with
  | none => .error .assertion
  | some index =>
    if (layer.sockets index).state ≠ .listening then .error .assertion
    else
      match err with
      | some err => .ok (.fails (lwipErrToErrno err), layer)
      | none =>
        let listening := layer.sockets index
        if (listening.acceptQueue.head + 1) % maxListenBacklog = listening.acceptQueue.tail then
          let closed := layer.setPcb newpcb ((layer.pcbs newpcb).close .keeps)
          .ok (.fails .enomem, closed.signal index .acceptSem)
        else
          let queued := layer.setSocket index
            { listening with acceptQueue := listening.acceptQueue.enqueue newpcb }
          .ok (.returns 0, queued.signal index .acceptSem)

/-! ### Opening and closing -/

/-- The first free slot, with an assertion that it was released as a whole. -/
def socketAllocate : Except Fault (Option (Fin maxSockets)) :=
  match (List.finRange maxSockets).find? fun index =>
    (layer.sockets index).state = .unallocated with
  | none => .ok none
  | some index =>
    let socket := layer.sockets index
    if socket.sockTpcb = none ∧ socket.rx.rxHead = 0 ∧ socket.rx.rxLen = 0 then .ok (some index)
    else .error .assertion

/-- A slot with a new PCB, if lwIP has memory for one. -/
def tcpSocketInit (index : Fin maxSockets) (memory : Option Nat) :
    Except Fault (Outcome × SocketLayer) :=
  let socket := layer.sockets index
  if socket.state ≠ .allocated then .error .assertion
  else
    match memory with
    | none => .ok (.fails .enomem, layer.setSocket index { socket with sockTpcb := none })
    | some sndbuf =>
      let tpcb := layer.nextPcb
      let initialised := (layer.newPcb
        { LwipPcb.fresh .idle (some index) sndbuf with errFunc := true }).setSocket index
          { socket with
            sockTpcb := some tpcb
            acceptQueue := { socket.acceptQueue with head := 0, tail := 0 }
            waiters := fun _ => [] }
      .ok (.returns 0, initialised.setRefcount index (layer.socketRefcount index + 1))

def tcpSocketCloseInt (index : Fin maxSockets) (result : CloseResult) :
    Except Fault (Outcome × SocketLayer) :=
  let socket := layer.sockets index
  match socket.state with
  | .listening | .connected => do
    let tpcb ← layer.alive socket.sockTpcb
    let closed := (layer.setState index .closing).setPcb tpcb ((layer.pcbs tpcb).close result)
    .ok (.ofErr ((layer.pcbs tpcb).closeErr result), closed)
  | .connecting => do
    let tpcb ← layer.alive socket.sockTpcb
    let aborted := layer.setPcb tpcb { (layer.pcbs tpcb).free with arg := none }
    .ok (.returns 0, aborted.release index)
  | .allocated | .bound | .error | .closedByPeer => .ok (.returns 0, layer.release index)
  | _ => .error .assertion

def tcpSocketClose (index : Fin maxSockets) (result : CloseResult) :
    Except Fault (Outcome × SocketLayer) :=
  let dropped := layer.setRefcount index (layer.socketRefcount index - 1)
  if layer.socketRefcount index - 1 = 0 then dropped.tcpSocketCloseInt index result
  else .ok (.returns 0, dropped)

def tcpSocketDup (index : Fin maxSockets) : Except Fault (Outcome × SocketLayer) :=
  if 0 < layer.socketRefcount index then
    .ok (.returns 0, layer.setRefcount index (layer.socketRefcount index + 1))
  else .error .assertion

/-- What `sys_socket` does with the slots. -/
def openSocket (memory : Option Nat) (result : CloseResult) :
    Except Fault (Outcome × SocketLayer) := do
  match ← layer.socketAllocate with
  | none => .ok (.fails .enomem, layer)
  | some index =>
    let (outcome, initialised) ← (layer.setState index .allocated).tcpSocketInit index memory
    match outcome with
    | .fails error =>
      let (_, closed) ← initialised.tcpSocketClose index result
      .ok (.fails error, closed)
    | _ => .ok (.returns index, initialised)

/-! ### Connecting -/

/-- `found` says that the address is one of a local interface, or any address. -/
def tcpSocketBind (index : Fin maxSockets) (found : Bool) (answer : Option LwipErr) :
    Except Fault (Outcome × SocketLayer) :=
  let socket := layer.sockets index
  if socket.state ≠ .allocated then .ok (.fails .einval, layer)
  else if found = false then .ok (.fails .eaddrnotavail, layer)
  else do
    let tpcb ← layer.alive socket.sockTpcb
    match if (layer.pcbs tpcb).phase = .idle then answer else some .val with
    | some err => .ok (.fails (lwipErrToErrno err), layer)
    | none => .ok (.returns 0, layer.setState index .bound)

/-- The loop of `tcp_socket_connect` that waits for the connection or an error. -/
def connectLoop (index : Fin maxSockets) : Except Fault (Outcome × SocketLayer) :=
  if (layer.sockets index).state = .connecting then
    .ok (.waits, layer.wait index .connectSem .connect)
  else if (layer.sockets index).state = .connected then .ok (.returns 0, layer)
  else .ok (.fails .econnrefused, layer)

def tcpSocketConnect (index : Fin maxSockets) (answer : Option LwipErr) (nonblock : Bool) :
    Except Fault (Outcome × SocketLayer) :=
  let socket := layer.sockets index
  if socket.state = .connected then .ok (.fails .eisconn, layer)
  else if socket.state = .connecting then .ok (.fails .ealready, layer)
  else if socket.state ≠ .bound ∧ socket.state ≠ .allocated then .ok (.fails .einval, layer)
  else do
    let connecting := layer.setState index .connecting
    let tpcb ← layer.alive socket.sockTpcb
    match if (layer.pcbs tpcb).phase = .idle then answer else some .isconn with
    | some err => .ok (.fails (lwipErrToErrno err), connecting)
    | none =>
      let started := connecting.setPcb tpcb { layer.pcbs tpcb with phase := .connecting }
      if nonblock then .ok (.fails .einprogress, started) else started.connectLoop index

/-- lwIP frees the PCB that it is given, and gives out one that listens. It gives out none for a PCB
that listens already or has a connection, or if there is no memory. -/
def tcpSocketListen (index : Fin maxSockets) (memory : Bool) :
    Except Fault (Outcome × SocketLayer) := do
  let socket := layer.sockets index
  let tpcb ← layer.alive socket.sockTpcb
  match (layer.pcbs tpcb).phase, memory with
  | .idle, true =>
    let listening := (layer.setPcb tpcb (layer.pcbs tpcb).free).newPcb
      (LwipPcb.fresh .listening (layer.pcbs tpcb).arg 0)
    .ok (.returns 0, listening.setSocket index
      { socket with sockTpcb := some layer.nextPcb, state := .listening })
  | _, _ => .error .assertion

/-- The end of `tcp_socket_accept`, behind the wait. -/
def acceptEnd (index : Fin maxSockets) (result : CloseResult) :
    Except Fault (Outcome × SocketLayer) :=
  let queue := (layer.sockets index).acceptQueue
  if queue.head = queue.tail then .ok (.fails .enomem, layer)
  else do
    let newConnPcb := queue.pendingPcbs queue.tail
    let taken := layer.setSocket index { layer.sockets index with acceptQueue := queue.dequeue }
    match ← taken.socketAllocate with
    | none =>
      let tpcb ← taken.alive (some newConnPcb)
      .ok (.fails .enomem, taken.setPcb tpcb ((taken.pcbs tpcb).close result))
    | some new =>
      let tpcb ← taken.alive (some newConnPcb)
      let socket := taken.sockets new
      let connected := (taken.setPcb tpcb
        { taken.pcbs tpcb with errFunc := true, recvFunc := true, arg := some new }).setSocket new
          { socket with
            sockTpcb := some tpcb
            state := .connected
            waiters := fun semaphore =>
              if semaphore = .recvSem ∨ semaphore = .sendSem then []
              else socket.waiters semaphore }
      .ok (.returns new, connected.setRefcount new (layer.socketRefcount new + 1))

def tcpSocketAccept (index : Fin maxSockets) (nonblock : Bool) (result : CloseResult) :
    Except Fault (Outcome × SocketLayer) :=
  let socket := layer.sockets index
  if socket.state ≠ .listening then .ok (.fails .einval, layer)
  else if socket.acceptQueue.head = socket.acceptQueue.tail then
    if nonblock then .ok (.fails .eagain, layer)
    else .ok (.waits, layer.wait index .acceptSem .accept)
  else layer.acceptEnd index result

/-! ### Reading and writing -/

/-- The end of `tcp_socket_write`, behind the waits. -/
def writeEnd (tpcb : Pcb) (len : Nat) (answers : LwipAnswers) :
    Except Fault (Outcome × SocketLayer) :=
  let pcb := layer.pcbs tpcb
  let toWrite := min len pcb.sndbuf
  if 65535 < toWrite then .error .assertion
  else
    match pcb.writeErr answers.write with
    | some err => .ok (.fails (lwipErrToErrno err), layer)
    | none =>
      let written := layer.setPcb tpcb { pcb with sndbuf := pcb.sndbuf - toWrite }
      match answers.output with
      | some err => .ok (.fails (lwipErrToErrno err), written)
      | none => .ok (.returns toWrite, written)

/-- The loop of `tcp_socket_write` that waits for room in the send buffer. -/
def writeLoop (index : Fin maxSockets) (len : Nat) (answers : LwipAnswers) :
    Except Fault (Outcome × SocketLayer) := do
  let tpcb ← layer.alive (layer.sockets index).sockTpcb
  if (layer.pcbs tpcb).sndbuf = 0 ∧ (layer.sockets index).state = .connected then
    .ok (.waits, layer.wait index .sendSem (.write len))
  else layer.writeEnd tpcb len answers

def tcpSocketWrite (index : Fin maxSockets) (len : Nat) (nonblock : Bool)
    (answers : LwipAnswers) : Except Fault (Outcome × SocketLayer) :=
  let socket := layer.sockets index
  if socket.state = .connecting ∧ nonblock then .ok (.fails .eagain, layer)
  else if socket.state ≠ .connected then
    if socket.state = .error then .ok (.fails (socket.lastError.getD .enotconn), layer)
    else .ok (.fails .enotconn, layer)
  else do
    let tpcb ← layer.alive socket.sockTpcb
    if (layer.pcbs tpcb).sndbuf = 0 then
      if nonblock then .ok (.fails .eagain, layer) else layer.writeLoop index len answers
    else layer.writeEnd tpcb len answers

/-- A call of `tcp_socket_recv` has come to its next wait or its end. What it returns is reported to
lwIP. -/
def recvEnd (index : Fin maxSockets) (len : Nat) :
    Socket.RecvOutcome → Except Fault (Outcome × SocketLayer)
  | .fails error => .ok (.fails error, layer)
  | .waits => .ok (.waits, layer.wait index .recvSem (.recv len))
  | .returns bytes rx => do
    let _ ← layer.alive (layer.sockets index).sockTpcb
    .ok (.received bytes, layer.setSocket index { layer.sockets index with rx })

def tcpSocketRecv (index : Fin maxSockets) (len : Nat) (nonblock : Bool) :
    Except Fault (Outcome × SocketLayer) :=
  layer.recvEnd index len ((layer.sockets index).tcpSocketRecv len nonblock)

/-- A call that was woken goes on. -/
def resume (index : Fin maxSockets) (answers : LwipAnswers) :
    Blocked → Except Fault (Outcome × SocketLayer)
  | .connect => layer.connectLoop index
  | .write len => layer.writeLoop index len answers
  | .recv len => layer.recvEnd index len ((layer.sockets index).recvLoop len)
  | .accept => layer.acceptEnd index answers.close

end SocketLayer

/-! ### Events -/

inductive Event where
  | socket (memory : Option Nat) (result : CloseResult)
  | bind (index : Fin maxSockets) (found : Bool) (answer : Option LwipErr)
  | connect (index : Fin maxSockets) (answer : Option LwipErr) (nonblock : Bool)
  | listen (index : Fin maxSockets) (memory : Bool)
  | accept (index : Fin maxSockets) (nonblock : Bool) (result : CloseResult)
  | dup (index : Fin maxSockets)
  | close (index : Fin maxSockets) (result : CloseResult)
  | write (index : Fin maxSockets) (len : Nat) (nonblock : Bool) (answers : LwipAnswers)
  | recv (index : Fin maxSockets) (len : Nat) (nonblock : Bool)
  /-- A call that was woken goes on. -/
  | resume (position : Nat) (answers : LwipAnswers)
  | lwipConnected (tpcb : Pcb)
  /-- lwIP frees a PCB because of an error, and then calls its error callback. -/
  | lwipErr (tpcb : Pcb) (err : LwipErr)
  /-- A PCB that listens has got a connection, or failed to. -/
  | lwipAccept (tpcb : Pcb) (sndbuf : Nat) (err : Option LwipErr)
  | lwipRecv (tpcb : Pcb) (p : List UInt8T)
  | lwipFin (tpcb : Pcb) (result : CloseResult)
  | lwipSent (tpcb : Pcb) (len : Nat)
  /-- lwIP frees a PCB that was closed, without a callback. -/
  | lwipFree (tpcb : Pcb)

namespace SocketLayer

variable (layer : SocketLayer)

/-- A connection over which segments of the peer may come. -/
def Transfers (tpcb : Pcb) : Prop :=
  (layer.pcbs tpcb).phase = .established ∨ (layer.pcbs tpcb).phase = .closing

instance (tpcb : Pcb) : Decidable (layer.Transfers tpcb) :=
  inferInstanceAs (Decidable (_ ∨ _))

/-- Applications only have handles of slots that are referenced, and lwIP only makes the callbacks
that fit the phase of a PCB. -/
def Enabled : Event → Prop
  | .socket _ _ => True
  | .bind index _ _ | .connect index _ _ | .listen index _ | .accept index _ _ | .dup index
  | .close index _ | .write index _ _ _ | .recv index _ _ => 0 < layer.socketRefcount index
  | .resume position _ => position < layer.woken.length
  | .lwipConnected tpcb => (layer.pcbs tpcb).phase = .connecting
  | .lwipErr tpcb _ => (layer.pcbs tpcb).phase.Active
  | .lwipAccept tpcb _ _ => (layer.pcbs tpcb).phase = .listening
  | .lwipRecv tpcb p =>
    layer.Transfers tpcb ∧ (layer.pcbs tpcb).finReceived = false ∧ 0 < p.length ∧ p.length < 65536
  | .lwipFin tpcb _ => layer.Transfers tpcb ∧ (layer.pcbs tpcb).finReceived = false
  | .lwipSent tpcb len => layer.Transfers tpcb ∧ 0 < len
  | .lwipFree tpcb => (layer.pcbs tpcb).phase = .closing

/-- lwIP has made a new connection for a PCB that listens, and aborts it if the callback fails. -/
def acceptConnection (tpcb : Pcb) (sndbuf : Nat) : Except Fault (Outcome × SocketLayer) := do
  let newpcb := layer.nextPcb
  let (outcome, accepted) ← (layer.newPcb (LwipPcb.fresh .established (layer.pcbs tpcb).arg
    sndbuf)).tcpSocketAcceptCb (layer.pcbs tpcb).arg newpcb none
  match outcome with
  | .fails error => .ok (.fails error, accepted.setPcb newpcb (accepted.pcbs newpcb).free)
  | _ => .ok (outcome, accepted)

/-- What an event does. A PCB without callbacks is left to lwIP, which closes it when the peer
does. -/
def perform : Event → Except Fault (Outcome × SocketLayer)
  | .socket memory result => layer.openSocket memory result
  | .bind index found answer => layer.tcpSocketBind index found answer
  | .connect index answer nonblock => layer.tcpSocketConnect index answer nonblock
  | .listen index memory => layer.tcpSocketListen index memory
  | .accept index nonblock result => layer.tcpSocketAccept index nonblock result
  | .dup index => layer.tcpSocketDup index
  | .close index result => layer.tcpSocketClose index result
  | .write index len nonblock answers => layer.tcpSocketWrite index len nonblock answers
  | .recv index len nonblock => layer.tcpSocketRecv index len nonblock
  | .resume position answers =>
    match layer.woken[position]? with
    | none => .ok (.returns 0, layer)
    | some (index, call) =>
      (layer.resume index answers call).map fun result =>
        (result.1, { result.2 with woken := result.2.woken.eraseIdx position })
  | .lwipConnected tpcb =>
    (layer.setPcb tpcb { layer.pcbs tpcb with phase := .established }).socketConnected
      (layer.pcbs tpcb).arg tpcb
  | .lwipErr tpcb err =>
    let freed := layer.setPcb tpcb (layer.pcbs tpcb).free
    .ok (.returns 0, if (layer.pcbs tpcb).errFunc then freed.socketErrFunc (layer.pcbs tpcb).arg err
      else freed)
  | .lwipAccept tpcb sndbuf err =>
    match err with
    | some err => layer.tcpSocketAcceptCb (layer.pcbs tpcb).arg layer.nextPcb (some err)
    | none => layer.acceptConnection tpcb sndbuf
  | .lwipRecv tpcb p =>
    if (layer.pcbs tpcb).recvFunc then layer.socketRecvSegment (layer.pcbs tpcb).arg p
    else .ok (.returns 0, layer)
  | .lwipFin tpcb result =>
    let ended := layer.setPcb tpcb { layer.pcbs tpcb with finReceived := true }
    if (layer.pcbs tpcb).recvFunc then ended.socketRecvFin (layer.pcbs tpcb).arg tpcb result
    else .ok (.returns 0, ended.setPcb tpcb ((ended.pcbs tpcb).close result))
  | .lwipSent tpcb len =>
    let acked := layer.setPcb tpcb { layer.pcbs tpcb with sndbuf := (layer.pcbs tpcb).sndbuf + len }
    if (layer.pcbs tpcb).recvFunc then acked.socketSentCallback (layer.pcbs tpcb).arg
    else .ok (.returns 0, acked)
  | .lwipFree tpcb => .ok (.returns 0, layer.setPcb tpcb (layer.pcbs tpcb).free)

/-- Where an event leads. After a fault nothing happens any more. -/
def after : Except Fault (Outcome × SocketLayer) → SocketLayer
  | .ok result => { result.2 with fault := none }
  | .error fault => { layer with fault := some fault }

end SocketLayer

def LayerStep (layer : SocketLayer) (event : Event) (next : SocketLayer) : Prop :=
  layer.fault = none ∧ layer.Enabled event ∧ next = layer.after (layer.perform event)

namespace SocketLayer

theorem fault_after_iff {layer : SocketLayer} {result : Except Fault (Outcome × SocketLayer)}
    {fault : Fault} : (layer.after result).fault = some fault ↔ result = .error fault := by
  cases result with
  | ok result => exact iff_of_false (by rintro ⟨⟩) (by rintro ⟨⟩)
  | error other =>
    exact ⟨fun same => congrArg _ (Option.some.inj same), fun same => congrArg _
      (Except.error.inj same)⟩

instance (layer : SocketLayer) (event : Event) : Decidable (layer.Enabled event) :=
  match event with
  | .socket _ _ => inferInstanceAs (Decidable True)
  | .bind index _ _ | .connect index _ _ | .listen index _ | .accept index _ _ | .dup index
  | .close index _ | .write index _ _ _ | .recv index _ _ =>
    inferInstanceAs (Decidable (0 < layer.socketRefcount index))
  | .resume position _ => inferInstanceAs (Decidable (position < layer.woken.length))
  | .lwipConnected tpcb => inferInstanceAs (Decidable ((layer.pcbs tpcb).phase = .connecting))
  | .lwipErr tpcb _ => inferInstanceAs (Decidable (layer.pcbs tpcb).phase.Active)
  | .lwipAccept tpcb _ _ => inferInstanceAs (Decidable ((layer.pcbs tpcb).phase = .listening))
  | .lwipRecv tpcb p =>
    inferInstanceAs (Decidable (layer.Transfers tpcb ∧ (layer.pcbs tpcb).finReceived = false ∧
      0 < p.length ∧ p.length < 65536))
  | .lwipFin tpcb _ =>
    inferInstanceAs (Decidable (layer.Transfers tpcb ∧ (layer.pcbs tpcb).finReceived = false))
  | .lwipSent tpcb len => inferInstanceAs (Decidable (layer.Transfers tpcb ∧ 0 < len))
  | .lwipFree tpcb => inferInstanceAs (Decidable ((layer.pcbs tpcb).phase = .closing))

/-- The step that an event makes, if it can happen. -/
def stepTo (layer : SocketLayer) (event : Event) : Option SocketLayer :=
  if layer.fault = none ∧ layer.Enabled event then some (layer.after (layer.perform event)) else none

theorem layerStep_of_stepTo {layer : SocketLayer} {event : Event} :
    ∀ next ∈ layer.stepTo event, LayerStep layer event next := by
  intro next member
  obtain ⟨⟨working, enabled⟩, same⟩ := Option.ite_none_right_eq_some.mp member
  exact ⟨working, enabled, (Option.some.inj same).symm⟩

end SocketLayer

end LionsOS.Sock

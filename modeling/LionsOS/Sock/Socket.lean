/-
This file embeds a single socket of `tcp.c`: its state, its receive buffer, its
accept queue and the calls that wait on its semaphores. A call that waits is the
rest of what it has to do; signalling a semaphore that has waiters makes the
first of them ready.
-/

import LionsOS.Sock.RxBuffer

open Function

namespace LionsOS.Sock

/-! ### State -/

def maxSockets : Nat := 10
def maxListenBacklog : Nat := 10

instance : NeZero maxSockets := ⟨by decide⟩

/-- A protocol control block of lwIP. Each that lwIP allocates is another one. -/
abbrev Pcb := Nat

inductive SocketState where
  | unallocated
  | allocated
  | bound
  | connecting
  | connected
  | closing
  | closedByPeer
  | error
  | listening
  deriving DecidableEq

inductive Errno where
  | enomem
  | enobufs
  | etimedout
  | ehostunreach
  | einprogress
  | einval
  | eagain
  | eaddrinuse
  | eaddrnotavail
  | ealready
  | eisconn
  | enotconn
  | enodev
  | econnaborted
  | econnrefused
  | econnreset
  deriving DecidableEq

/-- A call that waits. -/
inductive Blocked where
  | connect
  | write (len : Nat)
  | recv (len : Nat)
  | accept
  deriving DecidableEq

inductive Semaphore where
  | connectSem
  | recvSem
  | sendSem
  | acceptSem
  deriving DecidableEq

structure AcceptQueue where
  pendingPcbs : Nat → Pcb
  head : Nat
  tail : Nat

structure Socket where
  sockTpcb : Option Pcb
  state : SocketState
  lastError : Option Errno
  rx : RxBuffer
  acceptQueue : AcceptQueue
  /-- The calls that wait on each semaphore, the first one first. -/
  waiters : Semaphore → List Blocked

namespace Socket

/-- A socket that has never been used. -/
def zeroed : Socket where
  sockTpcb := none
  state := .unallocated
  lastError := none
  rx := RxBuffer.empty
  acceptQueue := { pendingPcbs := fun _ => 0, head := 0, tail := 0 }
  waiters _ := []

/-- Give the socket back. -/
def release (socket : Socket) : Socket :=
  { socket with state := .unallocated, sockTpcb := none, rx := socket.rx.reset }

/-! ### Semaphores -/

/-- A call waits behind those that wait already. -/
def wait (socket : Socket) (semaphore : Semaphore) (call : Blocked) : Socket :=
  { socket with
    waiters := update socket.waiters semaphore (socket.waiters semaphore ++ [call]) }

/-- The first call that waits, if there is one, waits no longer. -/
def signal (socket : Socket) (semaphore : Semaphore) : Socket :=
  { socket with
    waiters := update socket.waiters semaphore ((socket.waiters semaphore).drop 1) }

section

variable {socket : Socket} {semaphore other : Semaphore} {call : Blocked}

theorem waiters_wait_self :
    (socket.wait semaphore call).waiters semaphore = socket.waiters semaphore ++ [call] :=
  update_self _ _ _

theorem waiters_wait_of_ne (different : other ≠ semaphore) :
    (socket.wait semaphore call).waiters other = socket.waiters other :=
  update_of_ne different _ _

theorem waiters_signal_self :
    (socket.signal semaphore).waiters semaphore = (socket.waiters semaphore).drop 1 :=
  update_self _ _ _

theorem waiters_signal_of_ne (different : other ≠ semaphore) :
    (socket.signal semaphore).waiters other = socket.waiters other :=
  update_of_ne different _ _

theorem waiters_signal_eq_nil_iff : (∀ other, (socket.signal semaphore).waiters other = []) ↔
    (∀ other, other ≠ semaphore → socket.waiters other = []) ∧
      (socket.waiters semaphore).length ≤ 1 := by
  rw [← List.drop_eq_nil_iff, ← waiters_signal_self]
  constructor
  · exact fun none => ⟨fun other different => waiters_signal_of_ne different ▸ none other, none _⟩
  · rintro ⟨others, none⟩ other
    by_cases same : other = semaphore
    · rw [same]
      exact none
    · rw [waiters_signal_of_ne same]
      exact others other same

end

/-! ### Receiving -/

/-- A segment is copied to the buffer of a connected socket, `none` if it does not fit. lwIP keeps
one that does not, and tries again. -/
def receive (socket : Socket) (p : List UInt8T) : Option Socket :=
  if socketBufSize - socket.rx.rxLen < p.length then none
  else (socket.rx.copyIn p).map fun rx => { socket with rx }

/-- What becomes of a call of `tcp_socket_recv` up to its next wait. -/
inductive RecvOutcome where
  | fails (error : Errno)
  | waits
  | returns (bytes : List UInt8T) (rx : RxBuffer)

/-- The end of `tcp_socket_recv`. -/
def copyOut (socket : Socket) (len : Nat) : RecvOutcome :=
  .returns (socket.rx.copyOut len).1 (socket.rx.copyOut len).2

/-- The loop of `tcp_socket_recv` that waits for data or for the end of the connection. -/
def recvLoop (socket : Socket) (len : Nat) : RecvOutcome :=
  if socket.rx.rxLen = 0 ∧ socket.state = .connected then .waits else socket.copyOut len

/-- A call of `tcp_socket_recv` from its beginning. -/
def tcpSocketRecv (socket : Socket) (len : Nat) (nonblock : Bool) : RecvOutcome :=
  if socket.state ≠ .connected then .fails .enotconn
  else if socket.rx.rxLen = 0 then
    if nonblock then .fails .eagain else socket.recvLoop len
  else socket.copyOut len

/-! ### Segments -/

theorem receive_cases (socket : Socket) (p : List UInt8T) :
    socket.receive p = none ∧ socketBufSize < socket.rx.rxLen + p.length ∨
      ∃ rx, socket.receive p = some { socket with rx } ∧ rx.rxLen = socket.rx.rxLen + p.length := by
  unfold receive
  split_ifs with full
  · exact .inl ⟨rfl, by omega⟩
  · rcases Nat.lt_or_ge socketBufSize (socket.rx.rxLen + p.length) with tooLong | room
    · have none_left : p.length = 0 := by omega
      obtain rfl := List.eq_nil_of_length_eq_zero none_left
      exact .inr ⟨socket.rx, by rw [RxBuffer.copyIn, if_pos rfl, Option.map_some], rfl⟩
    · obtain ⟨rx, copied, length⟩ := RxBuffer.copyIn_of_room room
      exact .inr ⟨rx, by rw [copied, Option.map_some], length⟩

/-! ### Waiting for data -/

variable {socket : Socket} {len : Nat} {nonblock : Bool} {bytes : List UInt8T} {rx : RxBuffer}

theorem recvLoop_eq_waits_iff :
    socket.recvLoop len = .waits ↔ socket.state = .connected ∧ socket.rx.rxLen = 0 := by
  unfold recvLoop
  split_ifs with waits
  · exact iff_of_true rfl waits.symm
  · exact iff_of_false (by rintro ⟨⟩) fun same => waits same.symm

theorem tcpSocketRecv_eq_waits_iff : socket.tcpSocketRecv len nonblock = .waits ↔
    socket.state = .connected ∧ socket.rx.rxLen = 0 ∧ nonblock = false := by
  unfold tcpSocketRecv
  split_ifs with closed empty refuses
  · exact iff_of_false (by simp) fun waits => closed waits.1
  · exact iff_of_false (by simp) fun waits => absurd refuses (by simp [waits.2.2])
  · rw [recvLoop_eq_waits_iff]
    simp [refuses]
  · exact iff_of_false (by rintro ⟨⟩) fun waits => empty waits.2.1

theorem recvLoop_returns_iff : (∃ bytes rx, socket.recvLoop len = .returns bytes rx) ↔
    (socket.state = .connected → 0 < socket.rx.rxLen) := by
  unfold recvLoop
  split_ifs with waits
  · exact iff_of_false (by rintro ⟨_, _, ⟨⟩⟩) fun some_bytes =>
      (some_bytes waits.2).ne' waits.1
  · refine iff_of_true ⟨_, _, rfl⟩ fun connected => Nat.pos_of_ne_zero fun empty => ?_
    exact waits ⟨empty, connected⟩

theorem tcpSocketRecv_returns_iff :
    (∃ bytes rx, socket.tcpSocketRecv len nonblock = .returns bytes rx) ↔
      socket.state = .connected ∧ 0 < socket.rx.rxLen := by
  unfold tcpSocketRecv
  split_ifs with closed empty refuses
  · exact iff_of_false (by rintro ⟨_, _, ⟨⟩⟩) fun ready => closed ready.1
  · exact iff_of_false (by rintro ⟨_, _, ⟨⟩⟩) fun ready => ready.2.ne' empty
  · rw [recvLoop_returns_iff]
    refine iff_of_false (fun some_bytes => ?_) fun ready => ready.2.ne' empty
    exact (some_bytes (not_not.mp closed)).ne' empty
  · exact iff_of_true ⟨_, _, rfl⟩ ⟨not_not.mp closed, Nat.pos_of_ne_zero empty⟩

theorem rxLen_le_of_recvLoop (returned : socket.recvLoop len = .returns bytes rx) :
    rx.rxLen ≤ socket.rx.rxLen := by
  unfold recvLoop at returned
  split_ifs at returned
  cases returned
  exact socket.rx.rxLen_copyOut_le len

theorem rxLen_le_of_tcpSocketRecv
    (returned : socket.tcpSocketRecv len nonblock = .returns bytes rx) :
    rx.rxLen ≤ socket.rx.rxLen := by
  unfold tcpSocketRecv at returned
  split_ifs at returned
  · exact rxLen_le_of_recvLoop returned
  · cases returned
    exact socket.rx.rxLen_copyOut_le len

end Socket

end LionsOS.Sock

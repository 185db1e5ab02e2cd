/-
This file embeds `sys_recvfrom` with the address that it may be asked for. The bytes
are taken from the stream first. Only then is the length of the address checked, and
the socket asked for its peer, which it only has while it is connected. A call that
fails there has lost what it took.
-/

import LionsOS.Posix.Calls
import LionsOS.Sock.ReceiveQueues

/-! ### Reads that take something -/

namespace LionsOS.Sock.RxBuffer

/-- The first round of the loop of `tcp_socket_recv` copies something. -/
def Ready (buffer : RxBuffer) (len : Nat) : Prop :=
  0 < min len (min buffer.rxLen (socketBufSize - buffer.rxHead))

variable {buffer : RxBuffer} {len : Nat}

theorem Ready.nonempty (ready : buffer.Ready len) : buffer.rxLen ≠ 0 := by
  unfold Ready at ready
  omega

theorem copyOut_of_not_ready (idle : ¬ buffer.Ready len) : buffer.copyOut len = ([], buffer) := by
  unfold copyOut
  exact if_pos (Nat.eq_zero_of_not_pos idle)

theorem rxLen_copyOut_lt (ready : buffer.Ready len) :
    (buffer.copyOut len).2.rxLen < buffer.rxLen := by
  have taken : 0 < min len (min buffer.rxLen (socketBufSize - buffer.rxHead)) := ready
  have less : (buffer.copyOut len).2.rxLen ≤
      buffer.rxLen - min len (min buffer.rxLen (socketBufSize - buffer.rxHead)) := by
    conv_lhs => rw [copyOut]
    simp only [if_neg taken.ne']
    exact rxLen_copyOut_le _ _
  omega

end LionsOS.Sock.RxBuffer

namespace LionsOS.Posix

open Sock StepRun

variable {answers : LwipAnswers} {outcome : Outcome} {position : Nat}

/-! ### Arguments and results -/

structure SockaddrIn where
  sinAddr : UInt32T
  sinPort : UInt16T

def sizeofSockaddrIn : UInt32T := 16

structure RecvfromArgs where
  sockfd : Int
  /-- `buf` is not null. -/
  buf : Bool
  len : Nat
  /-- The flag `MSG_DONTWAIT`. -/
  dontwait : Bool
  /-- `src_addr` is not null. -/
  srcAddr : Bool
  /-- What `addrlen` points to, if it is not null. -/
  addrlen : Option UInt32T

/-- The length that there is for the address, if the call is asked for one. -/
def RecvfromArgs.addressLength (args : RecvfromArgs) : Option UInt32T :=
  if args.srcAddr then args.addrlen else none

inductive RecvfromErrno where
  | efault
  /-- An error that other calls on sockets have as well. -/
  | sys (error : SysErrno)

/-- How a call ends, or that it waits for the data of a slot. -/
inductive RecvfromStop (maxFds : Nat) where
  | waits (fd : Fin maxFds) (index : Fin maxSockets)
  | fails (error : RecvfromErrno)
  | returns (copied : Nat) (source : Option SockaddrIn)

namespace Libc

variable {maxFds : Nat} (libc : Libc maxFds)

/-! ### The call -/

/-- The slot is looked up again. Without one, the call reads in front of the slots. -/
def tcpSocketGetpeername (peername : Pcb → SockaddrIn) (fd : Fin maxFds) :
    Option (Except Errno SockaddrIn) :=
  match libc.fdSocket fd with
  | none => none
  | some index =>
    if (libc.layer.sockets index).state ≠ .connected then some (.error .enotconn)
    else
      match libc.layer.alive (libc.layer.sockets index).sockTpcb with
      | .error _ => none
      | .ok tpcb => some (.ok (peername tpcb))

/-- The end of `sys_recvfrom`, behind the call of `tcp_socket_recv`. -/
def recvfromEnd (peername : Pcb → SockaddrIn) (args : RecvfromArgs) (fd : Fin maxFds)
    (index : Fin maxSockets) : Outcome → Option (RecvfromStop maxFds)
  | .waits => some (.waits fd index)
  | .fails error => some (.fails (.sys (.socket error)))
  | .returns value => some (.returns value none)
  | .received bytes =>
    match args.addressLength with
    | none => some (.returns bytes.length none)
    | some addrlen =>
      if addrlen < sizeofSockaddrIn then some (.fails (.sys .einval))
      else
        match libc.tcpSocketGetpeername peername fd with
        | none => none
        | some (.error error) => some (.fails (.sys (.socket error)))
        | some (.ok source) => some (.returns bytes.length (some source))

def sysRecvfrom (peername : Pcb → SockaddrIn) (args : RecvfromArgs) :
    Option (RecvfromStop maxFds × Libc maxFds) :=
  if args.buf = false then some (.fails .efault, libc)
  else
    match libc.socketOf args.sockfd with
    | .error error => some (.fails (.sys error), libc)
    | .ok (fd, index) =>
      match libc.ask (.recv index args.len ((libc.fds.fdTable fd).nonblock || args.dontwait)) with
      | none => none
      | some (outcome, next) =>
        (next.recvfromEnd peername args fd index outcome).map fun stop => (stop, next)

/-- A call that was woken goes on. -/
def resumeRecvfrom (peername : Pcb → SockaddrIn) (args : RecvfromArgs) (fd : Fin maxFds)
    (index : Fin maxSockets) (position : Nat) (answers : LwipAnswers) :
    Option (RecvfromStop maxFds × Libc maxFds) :=
  match libc.ask (.resume position answers) with
  | none => none
  | some (outcome, next) =>
    (next.recvfromEnd peername args fd index outcome).map fun stop => (stop, next)

/-- The bytes at the front of a slot's stream that are not in it any more. -/
def takenUntil (next : Libc maxFds) (index : Fin maxSockets) : List UInt8T :=
  (libc.layer.sockets index).rx.contents.take
    ((libc.layer.sockets index).rx.rxLen - (next.layer.sockets index).rx.rxLen)

/-- Either no address is asked for, or it has room and the socket has a peer. -/
def Answerable (args : RecvfromArgs) (fd : Fin maxFds) : Prop :=
  ∀ addrlen, args.addressLength = some addrlen → ¬ addrlen < sizeofSockaddrIn ∧
      ∀ index, libc.fdSocket fd = some index → (libc.layer.sockets index).state = .connected

end Libc

/-! ### Runs -/

/-- Where a call of `sys_recvfrom` has come to. -/
inductive RecvfromProgress (maxFds : Nat) where
  | ahead
  | stopped (stop : RecvfromStop maxFds)

structure RecvfromCall (maxFds : Nat) where
  libc : Libc maxFds
  progress : RecvfromProgress maxFds
  /-- What the call has taken from the stream of each slot. -/
  taken : Fin maxSockets → List UInt8T

inductive RecvfromEvent where
  /-- Another call, or lwIP, does something. -/
  | others (call : Syscall)
  | begins
  /-- The call was woken and goes on. -/
  | goesOn (position : Nat) (answers : LwipAnswers)

namespace RecvfromCall

variable {maxFds : Nat}

def before (libc : Libc maxFds) : RecvfromCall maxFds where
  libc
  progress := .ahead
  taken _ := []

/-- The call has done something itself. -/
def after (call : RecvfromCall maxFds) (stop : RecvfromStop maxFds) (next : Libc maxFds) :
    RecvfromCall maxFds where
  libc := next
  progress := .stopped stop
  taken index := call.taken index ++ call.libc.takenUntil next index

def TakesNothing (call : RecvfromCall maxFds) : Prop :=
  ∀ index, call.taken index = []

/-- If the call has failed, it has taken nothing. -/
def FailsUntaken (call : RecvfromCall maxFds) : Prop :=
  ∀ error, call.progress = .stopped (.fails error) → call.TakesNothing

/-- Where the call would take something, the address can be answered. -/
def MayTake (args : RecvfromArgs) (call : RecvfromCall maxFds) : RecvfromEvent → Prop
  | .others _ => True
  | .begins => args.buf = true → ∀ fd index, call.libc.socketOf args.sockfd = .ok (fd, index) →
    (call.libc.layer.sockets index).state = .connected →
    (call.libc.layer.sockets index).rx.Ready args.len → call.libc.Answerable args fd
  | .goesOn _ _ => ∀ fd index, call.progress = .stopped (.waits fd index) →
    (call.libc.layer.sockets index).rx.Ready args.len → call.libc.Answerable args fd

end RecvfromCall

/-- One call of `sys_recvfrom`, and whatever else happens before it, while it waits and after it. -/
inductive RecvfromStep {maxFds : Nat} (peername : Pcb → SockaddrIn) (args : RecvfromArgs)
    (call : RecvfromCall maxFds) : RecvfromEvent → RecvfromCall maxFds → Prop
  | others {other : Syscall} {next : Libc maxFds} (step : SyscallStep call.libc other next) :
    RecvfromStep peername args call (.others other) { call with libc := next }
  | begins {stop : RecvfromStop maxFds} {next : Libc maxFds} (ahead : call.progress = .ahead)
    (called : call.libc.sysRecvfrom peername args = some (stop, next)) :
    RecvfromStep peername args call .begins (call.after stop next)
  | goesOn {fd : Fin maxFds} {index : Fin maxSockets} {position : Nat} {answers : LwipAnswers}
    {stop : RecvfromStop maxFds} {next : Libc maxFds}
    (waits : call.progress = .stopped (.waits fd index))
    (woken : call.libc.layer.woken[position]? = some (index, .recv args.len))
    (resumed : call.libc.resumeRecvfrom peername args fd index position answers =
      some (stop, next)) :
    RecvfromStep peername args call (.goesOn position answers) (call.after stop next)

/-! ### What one step takes -/

namespace Libc

variable {maxFds : Nat} {libc next : Libc maxFds} {index : Fin maxSockets}

variable {len : Nat} {ready : Prop}

/-- The call has gone on to wait, or it has failed, or it has been given bytes; the slots and the
states of all sockets are the same. Only ready bytes are taken. -/
structure Received (libc next : Libc maxFds) (index : Fin maxSockets) (len : Nat) (ready : Prop)
    (outcome : Outcome) : Prop where
  fdSocket : next.fdSocket = libc.fdSocket
  state : ∀ other, (next.layer.sockets other).state = (libc.layer.sockets other).state
  kind : (∃ bytes, outcome = .received bytes) ∨ outcome = .waits ∨ ∃ error, outcome = .fails error
  taken : ready → (∃ bytes, outcome = .received bytes) ∧ libc.takenUntil next index ≠ []
  untaken : ¬ ready → ∀ other, libc.takenUntil next other = []

theorem takenUntil_eq_nil {other : Fin maxSockets}
    (same : (next.layer.sockets other).rx = (libc.layer.sockets other).rx) :
    libc.takenUntil next other = [] := by
  rw [takenUntil, same, Nat.sub_self, List.take_zero]

theorem takenUntil_ne_nil
    (less : (next.layer.sockets index).rx.rxLen < (libc.layer.sockets index).rx.rxLen) :
    libc.takenUntil next index ≠ [] := by
  rw [takenUntil, ne_eq, List.take_eq_nil_iff, not_or]
  refine ⟨(Nat.sub_pos_of_lt less).ne', fun empty => ?_⟩
  rw [RxBuffer.contents_eq_nil_iff] at empty
  exact absurd (empty ▸ less) (Nat.not_lt_zero _)

/-- What `recvEnd` does, if `outcome` comes from a call that takes ready bytes. -/
theorem received_of_recvEnd {stop : Socket.RecvOutcome} {layer : SocketLayer}
    (ended : libc.layer.recvEnd index len stop = .ok (outcome, layer))
    (copies : ∀ bytes rx, stop = .returns bytes rx →
      (libc.layer.sockets index).rx.copyOut len = (bytes, rx))
    (readyBytes : ready → ∃ bytes rx, stop = .returns bytes rx ∧
      (libc.layer.sockets index).rx.Ready len)
    (idle : ¬ ready → ∀ bytes rx, stop = .returns bytes rx →
      ¬ (libc.layer.sockets index).rx.Ready len) (fdSocket : next.fdSocket = libc.fdSocket)
    (sockets : next.layer.sockets = layer.sockets) :
    libc.Received next index len ready outcome := by
  cases stop with
  | fails error =>
    cases ended
    refine ⟨fdSocket, fun _ => by rw [sockets], .inr (.inr ⟨_, rfl⟩), fun isReady => ?_,
      fun _ other => takenUntil_eq_nil (by rw [sockets])⟩
    obtain ⟨_, _, impossible, _⟩ := readyBytes isReady
    cases impossible
  | waits =>
    cases ended
    have waiting (other : Fin maxSockets) :
        (next.layer.sockets other).state = (libc.layer.sockets other).state ∧
          (next.layer.sockets other).rx = (libc.layer.sockets other).rx := by
      rw [sockets, SocketLayer.wait]
      rcases eq_or_ne other index with rfl | different
      · rw [SocketLayer.setSocket_sockets_self]
        exact ⟨rfl, rfl⟩
      · rw [SocketLayer.setSocket_sockets_of_ne different]
        exact ⟨rfl, rfl⟩
    refine ⟨fdSocket, fun other => (waiting other).1, .inr (.inl rfl), fun isReady => ?_,
      fun _ other => takenUntil_eq_nil (waiting other).2⟩
    obtain ⟨_, _, impossible, _⟩ := readyBytes isReady
    cases impossible
  | returns bytes rx =>
    have copied := copies bytes rx rfl
    simp only [SocketLayer.recvEnd] at ended
    cases found : libc.layer.alive (libc.layer.sockets index).sockTpcb with
    | error fault =>
      rw [found] at ended
      cases ended
    | ok tpcb =>
      rw [found] at ended
      cases ended
      have self : next.layer.sockets index = { libc.layer.sockets index with rx } := by
        rw [sockets, SocketLayer.setSocket_sockets_self]
      have others {other : Fin maxSockets} (different : other ≠ index) :
          next.layer.sockets other = libc.layer.sockets other := by
        rw [sockets, SocketLayer.setSocket_sockets_of_ne different]
      refine ⟨fdSocket, fun other => ?_, .inl ⟨bytes, rfl⟩, fun isReady => ⟨⟨bytes, rfl⟩, ?_⟩,
        fun notReady other => takenUntil_eq_nil ?_⟩
      · rcases eq_or_ne other index with rfl | different
        · rw [self]
        · rw [others different]
      · obtain ⟨_, _, _, some_bytes⟩ := readyBytes isReady
        refine takenUntil_ne_nil ?_
        rw [self]
        have less := RxBuffer.rxLen_copyOut_lt some_bytes
        rw [copied] at less
        exact less
      · rcases eq_or_ne other index with rfl | different
        · rw [self]
          have same := RxBuffer.copyOut_of_not_ready (idle notReady bytes rx rfl)
          rw [copied] at same
          exact congrArg Prod.snd same
        · rw [others different]

/-- A call takes the ready bytes of a connection. -/
theorem received_of_recv {nonblock : Bool}
    (asked : libc.ask (.recv index len nonblock) = some (outcome, next)) :
    libc.Received next index len ((libc.layer.sockets index).state = .connected ∧
      (libc.layer.sockets index).rx.Ready len) outcome := by
  obtain ⟨layer, performed, rfl⟩ := ask_eq_some asked
  refine received_of_recvEnd performed (fun bytes rx returned => ?_) ?_
    (fun notReady bytes rx returned ready => ?_) rfl rfl
  · unfold Socket.tcpSocketRecv Socket.recvLoop at returned
    split_ifs at returned <;> cases returned <;> rfl
  · rintro ⟨connected, ready⟩
    obtain ⟨bytes, rx, returned⟩ := Socket.tcpSocketRecv_returns_iff.mpr
      ⟨connected, Nat.pos_of_ne_zero ready.nonempty⟩
    exact ⟨bytes, rx, returned, ready⟩
  · exact notReady ⟨(Socket.tcpSocketRecv_returns_iff.mp ⟨bytes, rx, returned⟩).1, ready⟩

theorem received_of_resume (woken : libc.layer.woken[position]? = some (index, .recv len))
    (asked : libc.ask (.resume position answers) = some (outcome, next)) :
    libc.Received next index len ((libc.layer.sockets index).rx.Ready len) outcome := by
  obtain ⟨layer, performed, rfl⟩ := ask_eq_some asked
  simp only [SocketLayer.perform, woken, SocketLayer.resume] at performed
  cases ended : libc.layer.recvEnd index len ((libc.layer.sockets index).recvLoop len) with
  | error fault =>
    rw [ended] at performed
    cases performed
  | ok result =>
    rw [ended] at performed
    cases performed
    refine received_of_recvEnd ended (fun bytes rx returned => ?_) (fun ready => ?_)
      (fun notReady _ _ _ => notReady) rfl rfl
    · unfold Socket.recvLoop at returned
      split_ifs at returned
      cases returned
      rfl
    · obtain ⟨bytes, rx, returned⟩ := Socket.recvLoop_returns_iff.mpr
        fun _ => Nat.pos_of_ne_zero ready.nonempty
      exact ⟨bytes, rx, returned, ready⟩

variable {peername : Pcb → SockaddrIn} {args : RecvfromArgs} {fd : Fin maxFds}
  {stop : RecvfromStop maxFds}

theorem Received.answerable_iff (received : libc.Received next index len ready outcome) :
    next.Answerable args fd ↔ libc.Answerable args fd := by
  simp only [Answerable, received.fdSocket, received.state]

theorem recvfromEnd_fails_iff {bytes : List UInt8T}
    (ended : libc.recvfromEnd peername args fd index (.received bytes) = some stop) :
    (∃ error, stop = .fails error) ↔ ¬ libc.Answerable args fd := by
  unfold recvfromEnd Answerable at *
  cases asked : args.addressLength with
  | none =>
    rw [asked] at ended
    cases ended
    exact iff_of_false (by rintro ⟨_, ⟨⟩⟩) (not_not_intro fun _ impossible => by cases impossible)
  | some addrlen =>
    simp only [asked] at ended
    split_ifs at ended with short
    · cases ended
      exact iff_of_true ⟨_, rfl⟩ fun answerable => (answerable _ rfl).1 short
    · unfold tcpSocketGetpeername at ended
      cases mapped : libc.fdSocket fd with
      | none =>
        rw [mapped] at ended
        cases ended
      | some slot =>
        simp only [mapped] at ended
        split_ifs at ended with closed
        · cases ended
          exact iff_of_true ⟨_, rfl⟩ fun answerable => closed ((answerable _ rfl).2 slot rfl)
        · split at ended
          · cases ended
          · rename_i failed
            split at failed <;> cases failed
          · cases ended
            refine iff_of_false (by rintro ⟨_, ⟨⟩⟩) (not_not_intro fun other same => ?_)
            cases same
            refine ⟨short, fun other same => ?_⟩
            cases same
            exact not_not.mp closed

/-- A step fails with bytes that it has taken, unless it may take what is ready. -/
theorem Received.fails_iff {len : Nat} {ready : Prop}
    (received : libc.Received next index len ready outcome)
    (ended : next.recvfromEnd peername args fd index outcome = some stop) :
    ((∃ error, stop = .fails error) → ∀ other, libc.takenUntil next other = []) ↔
      (ready → libc.Answerable args fd) := by
  by_cases isReady : ready
  · obtain ⟨⟨bytes, rfl⟩, taken⟩ := received.taken isReady
    rw [recvfromEnd_fails_iff ended, received.answerable_iff]
    constructor
    · intro untaken _
      by_contra unanswered
      exact taken (untaken unanswered index)
    · exact fun answerable failed => absurd (answerable isReady) failed
  · exact iff_of_true (fun _ => received.untaken isReady) fun ready => absurd ready isReady

/-- A call that waits on has taken nothing. -/
theorem Received.of_waits {reached : Fin maxFds} {slot : Fin maxSockets}
    (received : libc.Received next index len ready outcome)
    (ended : next.recvfromEnd peername args fd index outcome = some (.waits reached slot)) :
    ∀ other, libc.takenUntil next other = [] := by
  refine received.untaken fun isReady => ?_
  obtain ⟨⟨bytes, rfl⟩, _⟩ := received.taken isReady
  unfold recvfromEnd at ended
  dsimp only at ended
  split at ended
  · cases ended
  · split_ifs at ended
    · cases ended
    · split at ended <;> cases ended

end Libc

/-! ### Runs of one call -/

namespace RecvfromCall

variable {maxFds : Nat} {call : RecvfromCall maxFds} {stop : RecvfromStop maxFds}
  {next : Libc maxFds}

/-- Until it ends, a call has taken nothing. -/
def UntilEnded (call : RecvfromCall maxFds) : Prop :=
  (∃ error, call.progress = .stopped (.fails error)) ∨
    (∃ copied source, call.progress = .stopped (.returns copied source)) ∨ call.TakesNothing

theorem takesNothing_after_iff (untaken : call.TakesNothing) (stop : RecvfromStop maxFds) :
    (call.after stop next).TakesNothing ↔ ∀ other, call.libc.takenUntil next other = [] := by
  refine forall_congr' fun other => ?_
  show call.taken other ++ _ = [] ↔ _
  rw [untaken other, List.nil_append]

theorem failsUntaken_after_iff (untaken : call.TakesNothing) :
    (call.after stop next).FailsUntaken ↔
      ((∃ error, stop = .fails error) → ∀ other, call.libc.takenUntil next other = []) := by
  rw [← takesNothing_after_iff untaken stop]
  constructor
  · rintro fails ⟨error, rfl⟩
    exact fails error rfl
  · intro fails error stopped
    exact fails ⟨error, RecvfromProgress.stopped.inj stopped⟩

theorem UntilEnded.takesNothing (until_ended : call.UntilEnded)
    (going : call.progress = .ahead ∨ ∃ fd index, call.progress = .stopped (.waits fd index)) :
    call.TakesNothing := by
  rcases until_ended with ⟨error, failed⟩ | ⟨copied, source, returned⟩ | untaken
  · rw [failed] at going
    rcases going with ⟨⟨⟩⟩ | ⟨_, _, ⟨⟩⟩
  · rw [returned] at going
    rcases going with ⟨⟨⟩⟩ | ⟨_, _, ⟨⟩⟩
  · exact untaken

theorem untilEnded_after (untaken : call.TakesNothing)
    (waiting : ∀ fd index, stop = .waits fd index →
      ∀ other, call.libc.takenUntil next other = []) : (call.after stop next).UntilEnded := by
  cases stop with
  | waits fd index =>
    exact .inr (.inr ((takesNothing_after_iff untaken _).mpr (waiting fd index rfl)))
  | fails error => exact .inl ⟨error, rfl⟩
  | returns copied source => exact .inr (.inl ⟨copied, source, rfl⟩)

end RecvfromCall

section Steps

variable {maxFds : Nat} {peername : Pcb → SockaddrIn} {args : RecvfromArgs}
  {call next : RecvfromCall maxFds} {event : RecvfromEvent} {fd : Fin maxFds}

variable {libc : Libc maxFds} {stop : RecvfromStop maxFds} {index : Fin maxSockets}

/-- What a call of its own accord does: it ends before it asks the socket layer, or it is answered
from there. -/
theorem sysRecvfrom_cases {after : Libc maxFds}
    (called : libc.sysRecvfrom peername args = some (stop, after)) :
    (after = libc ∧ (∃ error, stop = .fails error) ∧
      ¬ (args.buf = true ∧ ∃ entry, libc.socketOf args.sockfd = .ok entry)) ∨
    ∃ fd index outcome, args.buf = true ∧ libc.socketOf args.sockfd = .ok (fd, index) ∧
      libc.Received after index args.len ((libc.layer.sockets index).state = .connected ∧
        (libc.layer.sockets index).rx.Ready args.len) outcome ∧
      after.recvfromEnd peername args fd index outcome = some stop := by
  unfold Libc.sysRecvfrom at called
  split_ifs at called with noBuffer
  · cases called
    exact .inl ⟨rfl, ⟨_, rfl⟩, fun valid => Bool.false_ne_true (noBuffer.symm.trans valid.1)⟩
  · split at called
    · rename_i refused
      cases called
      exact .inl ⟨rfl, ⟨_, rfl⟩, fun ⟨_, entry, found⟩ => by cases refused.symm.trans found⟩
    · rename_i fd index found
      split at called
      · cases called
      · rename_i asked
        obtain ⟨reached, ended, same⟩ := Option.map_eq_some_iff.mp called
        cases same
        exact .inr ⟨fd, index, _, Bool.eq_true_of_not_eq_false noBuffer, found,
          Libc.received_of_recv asked, ended⟩

theorem resumeRecvfrom_cases {after : Libc maxFds}
    (woken : libc.layer.woken[position]? = some (index, .recv args.len))
    (resumed : libc.resumeRecvfrom peername args fd index position answers = some (stop, after)) :
    ∃ outcome, libc.Received after index args.len
        ((libc.layer.sockets index).rx.Ready args.len) outcome ∧
      after.recvfromEnd peername args fd index outcome = some stop := by
  unfold Libc.resumeRecvfrom at resumed
  split at resumed
  · cases resumed
  · rename_i asked
    obtain ⟨reached, ended, same⟩ := Option.map_eq_some_iff.mp resumed
    cases same
    exact ⟨_, Libc.received_of_resume woken asked, ended⟩

theorem untilEnded_of_step (until_ended : call.UntilEnded)
    (step : RecvfromStep peername args call event next) : next.UntilEnded := by
  cases step with
  | others => exact until_ended
  | begins ahead called =>
    have untaken := until_ended.takesNothing (.inl ahead)
    refine RecvfromCall.untilEnded_after untaken ?_
    rintro _ _ rfl other
    rcases sysRecvfrom_cases called with ⟨rfl, _⟩ | ⟨fd, index, outcome, _, _, received, ended⟩
    · exact Libc.takenUntil_eq_nil rfl
    · exact received.of_waits ended other
  | goesOn waits woken resumed =>
    have untaken := until_ended.takesNothing (.inr ⟨_, _, waits⟩)
    refine RecvfromCall.untilEnded_after untaken ?_
    rintro _ _ rfl other
    obtain ⟨outcome, received, ended⟩ := resumeRecvfrom_cases woken resumed
    exact received.of_waits ended other

theorem step_failsUntaken_iff (until_ended : call.UntilEnded) (fails : call.FailsUntaken)
    (step : RecvfromStep peername args call event next) :
    next.FailsUntaken ↔ call.MayTake args event := by
  cases step with
  | others => exact iff_of_true fails trivial
  | begins ahead called =>
    rw [RecvfromCall.failsUntaken_after_iff (until_ended.takesNothing (.inl ahead))]
    rcases sysRecvfrom_cases called with ⟨rfl, _, invalid⟩ |
      ⟨fd, index, outcome, buffer, found, received, ended⟩
    · exact iff_of_true (fun _ _ => Libc.takenUntil_eq_nil rfl) fun buffer fd index found =>
        absurd ⟨buffer, _, found⟩ invalid
    · rw [received.fails_iff ended]
      constructor
      · intro answerable _ fd' index' found' connected ready
        cases found.symm.trans found'
        exact answerable ⟨connected, ready⟩
      · exact fun mayTake ready => mayTake buffer fd index found ready.1 ready.2
  | goesOn waits woken resumed =>
    rw [RecvfromCall.failsUntaken_after_iff (until_ended.takesNothing (.inr ⟨_, _, waits⟩))]
    obtain ⟨outcome, received, ended⟩ := resumeRecvfrom_cases woken resumed
    rw [received.fails_iff ended]
    constructor
    · intro answerable fd' index' waits' ready
      cases waits.symm.trans waits'
      exact answerable ready
    · exact fun mayTake ready => mayTake _ _ waits ready

/-- Whatever else happens meanwhile, a call that fails has taken nothing from a stream, exactly as
long as the address can be answered wherever the call takes something. -/
theorem failed_recvfrom_takes_nothing_iff {libc : Libc maxFds} {events : List RecvfromEvent} :
    Run (Within RecvfromCall.FailsUntaken (RecvfromStep peername args)) (.before libc) events call ↔
      Run (Guarded (RecvfromCall.MayTake args) (RecvfromStep peername args)) (.before libc) events
        call := by
  have untaken : (RecvfromCall.before libc).TakesNothing := fun _ => rfl
  refine run_within_iff_guarded RecvfromCall.UntilEnded (.inr (.inr untaken))
    (fun _ _ => untaken) ?_ ?_
  · exact fun _ _ _ until_ended step => untilEnded_of_step until_ended step
  · exact fun _ _ _ until_ended fails step => step_failsUntaken_iff until_ended fails step

/-! ### A call that loses a byte -/

/-- A segment of one byte comes for a socket that has just been connected. -/
theorem run_segment {start : RecvfromCall maxFds} {events : List RecvfromEvent}
    (run : Run (RecvfromStep peername args) start events call)
    (fresh : call.libc.layer.JustConnected 0) (arg : (call.libc.layer.pcbs 0).arg = some 0)
    (recvFunc : (call.libc.layer.pcbs 0).recvFunc = true)
    (enabled : call.libc.layer.Enabled (.lwipRecv 0 [7])) :
    ∃ libc, Run (RecvfromStep peername args) start
        (events ++ [.others (.callback (.lwipRecv 0 [7]))]) { call with libc } ∧
      libc.layer.Represents 0 ⟨[7], by decide⟩ ∧ libc.socketOf = call.libc.socketOf := by
  obtain ⟨layer, segment, represents⟩ := fresh.represents.segment [7]
  have performed : call.libc.layer.perform (.lwipRecv 0 [7]) = .ok (.returns 0, layer) := by
    simp only [SocketLayer.perform, recvFunc, arg]
    exact segment
  refine ⟨{ call.libc with layer := { layer with fault := none } },
    run.snoc (.others ⟨⟨trivial, enabled⟩, .returns 0, ?_⟩), represents.congr rfl rfl rfl rfl, rfl⟩
  simp only [Libc.perform, Libc.ask, performed]
  rfl

/-- With too little room for the address, the call comes to its end nevertheless. -/
theorem sysRecvfrom_of_short {queue : ByteQueue} {addrlen : UInt32T}
    (represents : libc.layer.Represents index queue) (stored : queue.items ≠ [])
    (found : libc.socketOf args.sockfd = .ok (fd, index)) (buffer : args.buf = true)
    (address : args.addressLength = some addrlen) (short : addrlen < sizeofSockaddrIn) :
    ∃ next, libc.sysRecvfrom peername args = some (.fails (.sys .einval), next) := by
  obtain ⟨layer, ended, _⟩ := represents.copyOut args.len
  have some_bytes : (libc.layer.sockets index).rx.rxLen ≠ 0 := mt represents.empty_iff.mp stored
  have read (nonblock : Bool) : libc.layer.perform (.recv index args.len nonblock) =
      .ok (.received (queue.take args.len).1, layer) := by
    show libc.layer.recvEnd _ _ (Socket.tcpSocketRecv _ _ _) = _
    rw [Socket.tcpSocketRecv, if_neg (not_not_intro represents.connected), if_neg some_bytes]
    exact ended
  simp only [Libc.sysRecvfrom, buffer, found, Libc.ask, read, Libc.recvfromEnd, address,
    if_pos short]
  exact ⟨_, rfl⟩

end Steps

/-- A connection holds one byte, and there is room for half of an address. -/
theorem failed_recvfrom_loses_byte : ∃ events call,
    Run (RecvfromStep (fun _ => ⟨0, 0⟩) ⟨3, true, 1, false, true, some 8⟩)
      (.before (.initial : Libc 128)) events call ∧ ¬ call.FailsUntaken := by
  have opened : Run (RecvfromStep (fun _ => ⟨0, 0⟩) ⟨3, true, 1, false, true, some 8⟩)
      (.before (.initial : Libc 128)) _ _ := Run.single
    (@RecvfromStep.others _ _ _ _ (.socket true true (some 0) .keeps) _ ⟨trivial, _, rfl⟩)
  have connecting := opened.snoc
    (@RecvfromStep.others _ _ _ _ (.socketCall 3 (.connect none)) _ ⟨trivial, _, rfl⟩)
  have connected := connecting.snoc
    (@RecvfromStep.others _ _ _ _ (.callback (.lwipConnected 0)) _ ⟨⟨trivial, rfl⟩, _, rfl⟩)
  obtain ⟨libc, readable, represents, sockets⟩ := run_segment connected
    ⟨rfl, ⟨0, rfl, by decide⟩, rfl, rfl⟩ rfl rfl ⟨.inl rfl, rfl, by decide, by decide⟩
  have found : libc.socketOf 3 = .ok (3, 0) := by
    rw [sockets]
    rfl
  obtain ⟨next, failed⟩ : ∃ next, libc.sysRecvfrom (fun _ => ⟨0, 0⟩)
      ⟨3, true, 1, false, true, some 8⟩ = some (.fails (.sys .einval), next) :=
    sysRecvfrom_of_short represents (List.cons_ne_nil _ _) found rfl rfl (by decide)
  refine ⟨_, _, readable.snoc (.begins rfl failed), fun fails => ?_⟩
  have mayTake := (step_failsUntaken_iff (.inr (.inr fun _ => rfl)) (fun _ _ _ => rfl)
    (.begins rfl failed)).mp fails
  have ready : (libc.layer.sockets 0).rx.Ready 1 := by
    have length : (libc.layer.sockets 0).rx.rxLen = 1 := represents.length
    have head := represents.inBounds.rxHead
    rw [RxBuffer.Ready]
    omega
  exact (mayTake rfl 3 0 found represents.connected ready 8 rfl).1 (by decide)

end LionsOS.Posix

/-
This file embeds `sys_ppoll` and compares what it reports of sockets with what a
nonblocking call on them does at that moment. The calls of an application and its
polls are one run; the polls that agree are those made of sockets whose state
does not make the difference.
-/

import LionsOS.Lib.Runs
import LionsOS.Posix.Calls
import LionsOS.Sock.Readiness

namespace LionsOS.Posix

open Sock StepRun SocketLayer

/-! ### `sys_ppoll` -/

/-- A descriptor, and which of `POLLIN` and `POLLOUT` are asked for. -/
structure PollFd where
  fd : Int
  pollin : Bool
  pollout : Bool

structure Revents where
  pollin : Bool
  pollout : Bool
  pollhup : Bool
  pollerr : Bool
  pollnval : Bool
  deriving DecidableEq

namespace Revents

def none : Revents where
  pollin := false
  pollout := false
  pollhup := false
  pollerr := false
  pollnval := false

def ready (revents : Revents) : Bool :=
  revents ≠ none

end Revents

inductive PpollResult where
  | efault
  | einval
  | returns (ready : Nat) (revents : List Revents)

namespace Libc

variable {maxFds : Nat} (libc : Libc maxFds)

/-- `POLLHUP` and `POLLERR` are looked at in any case. -/
def socketRevents (txFree : Bool) (index : Fin maxSockets) (asked : PollFd) : Revents where
  pollin := asked.pollin && libc.layer.tcpSocketReadable index
  pollout := asked.pollout && tcpSocketWritable txFree
  pollhup := libc.layer.tcpSocketHup index
  pollerr := (libc.layer.tcpSocketErr index).isSome
  pollnval := false

/-- Files are always ready. -/
def revents (txFree : Bool) (asked : PollFd) : Revents :=
  if asked.fd < 0 then Revents.none
  else
    match libc.fds.posixFdEntry asked.fd with
    | none => { Revents.none with pollnval := true }
    | some fd =>
      match libc.fdSocket fd with
      | some index => libc.socketRevents txFree index asked
      | none => { Revents.none with pollin := asked.pollin, pollout := asked.pollout }

/-- `none` stands for a null pointer with a count that is not 0. -/
def sysPpoll (txFree : Bool) : Option (List PollFd) → PpollResult
  | none => .efault
  | some fds =>
    if maxFds < fds.length then .einval
    else
      let revents := fds.map (libc.revents txFree)
      .returns (revents.countP Revents.ready) revents

end Libc

/-! ### Agreement -/

namespace Libc

variable {maxFds : Nat} {libc next : Libc maxFds} {index : Fin maxSockets} {fd : Fin maxFds}
  {asked : PollFd} {txFree : Bool}

/-- What is reported of a descriptor agrees with what a nonblocking call on it does: where `POLLOUT`
is reported, no write of at least one byte asks to try again, and where there is something to get,
`POLLIN` is reported if it was asked for. -/
structure Agrees (libc : Libc maxFds) (txFree : Bool) (asked : PollFd) : Prop where
  pollout : ∀ fd index, libc.socketOf asked.fd = .ok (fd, index) →
    (libc.revents txFree asked).pollout = true → ∀ len answers next, 0 < len →
      answers.NeverBlocks →
      libc.sysSocketCall asked.fd (.sendto len true answers) ≠
        some (.fails (.socket .eagain), next)
  pollin : ∀ fd index, libc.socketOf asked.fd = .ok (fd, index) → asked.pollin = true →
    libc.layer.Delivers index → (libc.revents txFree asked).pollin = true

/-- A socket that is polled for writing, while the driver has a free buffer, does not refuse writes.
One that is polled for reading is not at the end of its stream, or has data before it. -/
def PolledInTime (libc : Libc maxFds) (txFree : Bool) (asked : PollFd) : Prop :=
  ∀ fd index, libc.socketOf asked.fd = .ok (fd, index) →
    (asked.pollout = true → txFree = true → ¬ libc.layer.RefusesWrites index) ∧
      (asked.pollin = true → (libc.layer.sockets index).state = .closedByPeer →
        (libc.layer.sockets index).rx.rxLen ≠ 0)

theorem revents_of_socket (socket : libc.socketOf asked.fd = .ok (fd, index)) :
    libc.revents txFree asked = libc.socketRevents txFree index asked := by
  unfold socketOf at socket
  unfold revents
  cases found : libc.fds.posixFdEntry asked.fd with
  | none =>
    rw [found] at socket
    cases socket
  | some entry =>
    obtain ⟨same, _⟩ := FdTable.posixFdEntry_eq_some found
    have nonneg : ¬ asked.fd < 0 := by omega
    simp only [found] at socket
    cases slot : libc.fdSocket entry with
    | none =>
      rw [slot] at socket
      cases socket
    | some own =>
      simp only [slot] at socket
      obtain ⟨rfl, rfl⟩ := socket
      simp only [if_neg nonneg, slot]

/-- A nonblocking send ends with `EAGAIN` exactly if the socket layer refuses it. -/
theorem send_refused_iff {number : Int} (socket : libc.socketOf number = .ok (fd, index)) :
    (∃ len answers next, 0 < len ∧ answers.NeverBlocks ∧
        libc.sysSocketCall number (.sendto len true answers) =
          some (.fails (.socket .eagain), next)) ↔
      libc.layer.WriteRefused index := by
  have asks (len : Nat) (answers : LwipAnswers) :
      libc.sysSocketCall number (.sendto len true answers) =
        (libc.ask (.write index len true answers)).map fun called =>
          (.ofOutcome called.1, called.2) := by
    unfold sysSocketCall
    simp only [socket, SocketCall.event, Bool.or_true]
  constructor
  · rintro ⟨len, answers, next, some_bytes, neverBlocks, refused⟩
    rw [asks, Option.map_eq_some_iff] at refused
    obtain ⟨⟨outcome, after⟩, asked, same⟩ := refused
    obtain ⟨layer, performed, _⟩ := ask_eq_some asked
    obtain ⟨ends, _⟩ := Prod.mk.inj same
    cases outcome with
    | fails error =>
      cases ends
      exact ⟨len, answers, layer, some_bytes, neverBlocks, performed⟩
    | _ => cases ends
  · rintro ⟨len, answers, layer, some_bytes, neverBlocks, refused⟩
    refine ⟨len, answers, { libc with layer := { layer with fault := none } }, some_bytes,
      neverBlocks, ?_⟩
    rw [asks, ask]
    simp only [SocketLayer.perform, refused]
    rfl

theorem agrees_iff : libc.Agrees txFree asked ↔ libc.PolledInTime txFree asked := by
  constructor
  · intro agrees fd index socket
    refine ⟨fun pollout free refuses => ?_, fun pollin => ?_⟩
    · obtain ⟨len, answers, next, some_bytes, neverBlocks, refused⟩ :=
        (send_refused_iff socket).mpr (writeRefused_iff.mpr refuses)
      refine agrees.pollout fd index socket ?_ len answers next some_bytes neverBlocks refused
      rw [revents_of_socket socket]
      simp [socketRevents, pollout, free, tcpSocketWritable]
    · refine delivers_readable_iff.mp fun delivers => ?_
      have reported := agrees.pollin fd index socket pollin delivers
      rw [revents_of_socket socket, socketRevents, pollin] at reported
      exact reported
  · intro inTime
    refine ⟨fun fd index socket reported len answers next some_bytes neverBlocks refused => ?_,
      fun fd index socket pollin delivers => ?_⟩
    · rw [revents_of_socket socket] at reported
      obtain ⟨pollout, free⟩ := Bool.and_eq_true_iff.mp reported
      refine (inTime fd index socket).1 pollout free (writeRefused_iff.mp ?_)
      exact (send_refused_iff socket).mp ⟨len, answers, next, some_bytes, neverBlocks, refused⟩
    · rw [revents_of_socket socket, socketRevents, pollin]
      exact delivers_readable_iff.mpr ((inTime fd index socket).2 pollin) delivers

end Libc

/-! ### Runs with polls -/

/-- A descriptor that was polled, and the state at that moment. -/
structure PollRecord (maxFds : Nat) where
  libc : Libc maxFds
  txFree : Bool
  asked : PollFd

/-- The tables, and everything that was polled so far. -/
structure Polled (maxFds : Nat) where
  libc : Libc maxFds
  polls : List (PollRecord maxFds)

inductive PolledCall where
  | call (call : Syscall)
  | ppoll (txFree : Bool) (fds : List PollFd)

variable {maxFds : Nat}

/-- A poll of more descriptors than there are is refused. -/
def Polled.ppoll (polled : Polled maxFds) (txFree : Bool) (fds : List PollFd) : Polled maxFds :=
  match polled.libc.sysPpoll txFree (some fds) with
  | .returns _ _ => { polled with polls := polled.polls ++ fds.map (⟨polled.libc, txFree, ·⟩) }
  | _ => polled

def PolledStep (polled : Polled maxFds) : PolledCall → Polled maxFds → Prop
  | .call call, next => SyscallStep polled.libc call next.libc ∧ next.polls = polled.polls
  | .ppoll txFree fds, next => next = polled.ppoll txFree fds

theorem Polled.run_of_calls {libc next : Libc maxFds} {calls : List Syscall}
    (polls : List (PollRecord maxFds)) (run : Run SyscallStep libc calls next) :
    Run PolledStep ⟨libc, polls⟩ (calls.map .call) ⟨next, polls⟩ := by
  induction run with
  | nil => exact Run.nil
  | snoc _ last inductionHypothesis =>
    rw [List.map_append]
    exact inductionHypothesis.snoc ⟨last, rfl⟩

/-- Every poll so far agreed with the calls. -/
def Polled.Agrees (polled : Polled maxFds) : Prop :=
  ∀ poll ∈ polled.polls, poll.libc.Agrees poll.txFree poll.asked

/-- The sockets that are polled do not make the difference. -/
def Polled.InTime (polled : Polled maxFds) : PolledCall → Prop
  | .call _ => True
  | .ppoll txFree fds =>
    fds.length ≤ maxFds → ∀ asked ∈ fds, polled.libc.PolledInTime txFree asked

def Polled.initial : Polled maxFds where
  libc := .initial
  polls := []

theorem Polled.agrees_ppoll_iff {polled : Polled maxFds} (agrees : polled.Agrees) (txFree : Bool)
    (fds : List PollFd) :
    (polled.ppoll txFree fds).Agrees ↔ polled.InTime (.ppoll txFree fds) := by
  unfold Polled.ppoll Libc.sysPpoll
  dsimp only
  split_ifs with many
  · exact iff_of_true agrees fun few => absurd few (Nat.not_le.mpr many)
  · constructor
    · intro after _ asked member
      refine Libc.agrees_iff.mp (after ⟨polled.libc, txFree, asked⟩ ?_)
      exact List.mem_append_right _ (List.mem_map_of_mem member)
    · intro inTime poll member
      rcases List.mem_append.mp member with earlier | now
      · exact agrees poll earlier
      · obtain ⟨asked, polledNow, rfl⟩ := List.mem_map.mp now
        exact Libc.agrees_iff.mpr (inTime (Nat.le_of_not_lt many) asked polledNow)

/-- Every poll of a run agrees with the calls exactly as long as no socket is polled for writing
that refuses writes while the driver has a free buffer, and none for reading whose peer has closed
and whose buffer is empty. -/
theorem polls_agree_iff {polled : Polled maxFds} {calls : List PolledCall} :
    Run (Within Polled.Agrees PolledStep) .initial calls polled ↔
      Run (Guarded Polled.InTime PolledStep) .initial calls polled := by
  refine run_within_iff_guarded (fun _ => True) trivial (fun _ member => (nomatch member))
    (fun _ _ _ _ _ => trivial) ?_
  intro polled call next _ agrees step
  cases call with
  | call call =>
    refine iff_of_true (fun poll member => ?_) trivial
    rw [step.2] at member
    exact agrees poll member
  | ppoll txFree fds =>
    rw [show next = polled.ppoll txFree fds from step]
    exact Polled.agrees_ppoll_iff agrees txFree fds

/-- A connection is on its way. `POLLOUT` is reported for it, and a nonblocking write of a byte ends
with `EAGAIN`. -/
theorem poll_of_connecting : ∃ polled : Polled 128, Run PolledStep .initial
      [.call (.socket true true (some 1000) .keeps), .call (.fcntlSetfl 3 true),
        .call (.socketCall 3 (.connect none)), .ppoll true [⟨3, false, true⟩]] polled ∧
      ¬ polled.Agrees := by
  obtain ⟨libc, run, waits⟩ : ∃ libc : Libc 128,
      Run SyscallStep .initial [.socket true true (some 1000) .keeps, .fcntlSetfl 3 true,
        .socketCall 3 (.connect none)] libc ∧ ¬ libc.Agrees true ⟨3, false, true⟩ := by
    refine ⟨_, ((Run.single ⟨trivial, _, rfl⟩).snoc ⟨trivial, _, rfl⟩).snoc ⟨trivial, _, rfl⟩,
      fun agrees => ?_⟩
    exact agrees.pollout 3 0 rfl rfl 1 takesAll _ Nat.one_pos takesAll_neverBlocks rfl
  refine ⟨_, (Polled.run_of_calls [] run).snoc rfl, fun agrees => waits ?_⟩
  exact agrees ⟨libc, true, ⟨3, false, true⟩⟩ (List.mem_singleton_self _)

end LionsOS.Posix

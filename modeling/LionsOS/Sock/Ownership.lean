/-
This file is about what the slots of the socket layer hold: each slot at most one
PCB, and the queue of a slot that listens the connections that nobody has
accepted. A slot's state says how far its PCB has got; no PCB is in two places;
and a PCB whose callbacks can still come is held by the slot that they are given.
-/

import LionsOS.Sock.Tcp

namespace LionsOS.Sock

open List

/-! ### The accept queue -/

namespace AcceptQueue

variable {queue : AcceptQueue}

/-- How many connections wait. -/
def count (queue : AcceptQueue) : Nat :=
  (queue.head + maxListenBacklog - queue.tail) % maxListenBacklog

/-- The connections that wait, the oldest first. -/
def entries (queue : AcceptQueue) : List Pcb :=
  (range queue.count).map fun position =>
    queue.pendingPcbs ((queue.tail + position) % maxListenBacklog)

/-- Both indices are inside the array. -/
structure WellFormed (queue : AcceptQueue) : Prop where
  head : queue.head < maxListenBacklog
  tail : queue.tail < maxListenBacklog

theorem WellFormed.entries_eq_nil_iff (wellFormed : queue.WellFormed) :
    queue.entries = [] ↔ queue.head = queue.tail := by
  obtain ⟨head, tail⟩ := wellFormed
  unfold entries count
  rw [map_eq_nil_iff, range_eq_nil]
  unfold maxListenBacklog at *
  omega

theorem entries_reset (pendingPcbs : Nat → Pcb) :
    (AcceptQueue.mk pendingPcbs 0 0).entries = [] := by
  simp [entries, count]

theorem wellFormed_reset (pendingPcbs : Nat → Pcb) : (AcceptQueue.mk pendingPcbs 0 0).WellFormed :=
  ⟨Nat.zero_lt_succ _, Nat.zero_lt_succ _⟩

section

variable (wellFormed : queue.WellFormed)
include wellFormed

theorem WellFormed.enqueue (pcb : Pcb) : (queue.enqueue pcb).WellFormed :=
  ⟨Nat.mod_lt _ (by decide), wellFormed.tail⟩

theorem WellFormed.dequeue : queue.dequeue.WellFormed :=
  ⟨wellFormed.head, Nat.mod_lt _ (by decide)⟩

theorem WellFormed.entries_enqueue (room : (queue.head + 1) % maxListenBacklog ≠ queue.tail)
    (pcb : Pcb) : (queue.enqueue pcb).entries = queue.entries ++ [pcb] := by
  obtain ⟨head, tail⟩ := wellFormed
  have more : (queue.enqueue pcb).count = queue.count + 1 := by
    unfold count AcceptQueue.enqueue maxListenBacklog at *
    dsimp only
    omega
  have last : (queue.tail + queue.count) % maxListenBacklog = queue.head := by
    unfold count maxListenBacklog at *
    omega
  unfold entries
  rw [more, range_succ, map_append]
  congr 1
  · refine map_congr_left fun position member => ?_
    have inside := mem_range.mp member
    refine Function.update_of_ne ?_ pcb queue.pendingPcbs
    show (queue.tail + position) % maxListenBacklog ≠ queue.head
    unfold count maxListenBacklog at *
    omega
  · show [Function.update queue.pendingPcbs queue.head pcb _] = [pcb]
    have slot : ((queue.enqueue pcb).tail + queue.count) % maxListenBacklog = queue.head := last
    rw [slot, Function.update_self]

theorem WellFormed.entries_dequeue (waiting : queue.head ≠ queue.tail) :
    queue.entries = queue.pendingPcbs queue.tail :: queue.dequeue.entries := by
  obtain ⟨head, tail⟩ := wellFormed
  have fewer : queue.count = queue.dequeue.count + 1 := by
    unfold count AcceptQueue.dequeue maxListenBacklog at *
    dsimp only
    omega
  unfold entries
  rw [fewer, range_succ_eq_map, map_cons, map_map]
  congr 1
  · rw [Nat.add_zero, Nat.mod_eq_of_lt tail]
  · refine map_congr_left fun position _ => congrArg queue.pendingPcbs ?_
    show (queue.tail + (position + 1)) % maxListenBacklog =
      ((queue.tail + 1) % maxListenBacklog + position) % maxListenBacklog
    rw [Nat.mod_add_mod, Nat.add_assoc, Nat.add_comm position 1]

end

end AcceptQueue

/-- The PCBs that a slot refers to. -/
def Socket.references (socket : Socket) : List Pcb :=
  socket.sockTpcb.toList ++ socket.acceptQueue.entries

theorem Socket.mem_references {socket : Socket} {tpcb : Pcb} :
    tpcb ∈ socket.references ↔ socket.sockTpcb = some tpcb ∨ tpcb ∈ socket.acceptQueue.entries := by
  rw [Socket.references, mem_append, Option.mem_toList]

theorem Socket.mem_references_of_holds {socket : Socket} {tpcb : Pcb}
    (holds : socket.sockTpcb = some tpcb) : tpcb ∈ socket.references :=
  Socket.mem_references.mpr (Or.inl holds)

/-- The connection that waits longest in the queue of a slot. -/
structure SocketLayer.Oldest (layer : SocketLayer) (index : Fin maxSockets) (tpcb : Pcb) : Prop where
  waiting : (layer.sockets index).acceptQueue.head ≠ (layer.sockets index).acceptQueue.tail
  same : tpcb =
    (layer.sockets index).acceptQueue.pendingPcbs (layer.sockets index).acceptQueue.tail

/-! ### What a slot has -/

/-- The callbacks of a PCB are given a slot. -/
structure LwipPcb.Owned (pcb : LwipPcb) (index : Fin maxSockets) : Prop where
  arg : pcb.arg = some index
  errFunc : pcb.errFunc = true

/-- A connection that was accepted by lwIP. -/
def PcbPhase.Opened : PcbPhase → Prop
  | .established | .closing | .freed => True
  | .idle | .listening | .connecting => False

/-- A connection that lwIP has accepted and no slot has. -/
structure LwipPcb.Unaccepted (pcb : LwipPcb) : Prop where
  phase : pcb.phase.Opened
  errFunc : pcb.errFunc = false
  recvFunc : pcb.recvFunc = false

/-- The state of a slot, what it says about its PCB, and how often the slot is referenced. -/
inductive Backed (index : Fin maxSockets) (pcbs : Pcb → LwipPcb) (socket : Socket)
    (refcount : Int) : Prop
  | unallocated (state : socket.state = .unallocated) (empty : socket.sockTpcb = none)
    (closed : refcount = 0) (rx : socket.rx.rxHead = 0 ∧ socket.rx.rxLen = 0)
  | failed (state : socket.state = .allocated) (empty : socket.sockTpcb = none)
    (closed : refcount < 0)
  | unconnected {tpcb : Pcb} (state : socket.state = .allocated ∨ socket.state = .bound)
    (holds : socket.sockTpcb = some tpcb) (phase : (pcbs tpcb).phase = .idle)
    (owned : (pcbs tpcb).Owned index) (referenced : 0 < refcount)
  | connecting {tpcb : Pcb} (state : socket.state = .connecting)
    (holds : socket.sockTpcb = some tpcb)
    (phase : (pcbs tpcb).phase = .idle ∨ (pcbs tpcb).phase = .connecting)
    (owned : (pcbs tpcb).Owned index) (referenced : 0 < refcount)
  | connected {tpcb : Pcb} (state : socket.state = .connected)
    (holds : socket.sockTpcb = some tpcb) (phase : (pcbs tpcb).phase.Opened)
    (owned : (pcbs tpcb).Owned index) (recvFunc : (pcbs tpcb).recvFunc = true)
    (referenced : 0 < refcount)
  | closing {tpcb : Pcb} (state : socket.state = .closing) (holds : socket.sockTpcb = some tpcb)
    (phase : (pcbs tpcb).phase.Opened) (handedBack : (pcbs tpcb).handedBack = true)
    (recvFunc : (pcbs tpcb).phase = .freed ∨ (pcbs tpcb).recvFunc = true) (closed : refcount = 0)
  | closedByPeer {tpcb : Pcb} (state : socket.state = .closedByPeer)
    (holds : socket.sockTpcb = some tpcb) (phase : (pcbs tpcb).phase.Opened)
    (handedBack : (pcbs tpcb).handedBack = true) (arg : (pcbs tpcb).arg = none)
    (referenced : 0 < refcount)
  | error {tpcb : Pcb} (state : socket.state = .error) (holds : socket.sockTpcb = some tpcb)
    (phase : (pcbs tpcb).phase = .freed) (referenced : 0 ≤ refcount)
  | listening {tpcb : Pcb} (state : socket.state = .listening)
    (holds : socket.sockTpcb = some tpcb) (phase : (pcbs tpcb).phase = .listening)
    (arg : (pcbs tpcb).arg = some index) (referenced : 0 < refcount)

/-- Only a slot that listens has connections in its queue, or one that did until it was closed. -/
def Listened (pcbs : Pcb → LwipPcb) (socket : Socket) : Prop :=
  socket.state = .listening ∨
    socket.state = .closing ∧ ∃ tpcb, socket.sockTpcb = some tpcb ∧ (pcbs tpcb).phase = .freed

structure SlotSound (index : Fin maxSockets) (pcbs : Pcb → LwipPcb) (nextPcb : Pcb)
    (socket : Socket) (refcount : Int) : Prop where
  backed : Backed index pcbs socket refcount
  wellFormed : socket.acceptQueue.WellFormed
  listened : socket.acceptQueue.entries ≠ [] → Listened pcbs socket
  unaccepted : ∀ tpcb ∈ socket.acceptQueue.entries, (pcbs tpcb).Unaccepted
  nodup : socket.references.Nodup
  known : ∀ tpcb ∈ socket.references, tpcb < nextPcb

namespace SocketLayer

/-- What holds of a PCB wherever it is. -/
structure PcbSound (layer : SocketLayer) (tpcb : Pcb) : Prop where
  unknown : layer.nextPcb ≤ tpcb → (layer.pcbs tpcb).phase = .freed
  recvFunc : (layer.pcbs tpcb).recvFunc = true → (layer.pcbs tpcb).errFunc = true
  connecting : (layer.pcbs tpcb).phase = .connecting → (layer.pcbs tpcb).errFunc = true
  idle : (layer.pcbs tpcb).phase = .idle → (layer.pcbs tpcb).handedBack = false
  called : (layer.pcbs tpcb).phase.Active → (layer.pcbs tpcb).errFunc = true →
    ∀ index, (layer.pcbs tpcb).arg = some index → (layer.sockets index).sockTpcb = some tpcb

/-- The invariant of the socket layer. -/
structure Sound (layer : SocketLayer) : Prop where
  slots : ∀ index, SlotSound index layer.pcbs layer.nextPcb (layer.sockets index)
    (layer.socketRefcount index)
  apart : ∀ index other tpcb, tpcb ∈ (layer.sockets index).references →
    tpcb ∈ (layer.sockets other).references → index = other
  pcbs : ∀ tpcb, layer.PcbSound tpcb

/-! ### What the state of a slot says -/

namespace Sound

variable {layer : SocketLayer} {index : Fin maxSockets} {tpcb : Pcb}

section

variable (sound : layer.Sound)
include sound

theorem of_unallocated (state : (layer.sockets index).state = .unallocated) :
    (layer.sockets index).sockTpcb = none ∧ layer.socketRefcount index = 0 := by
  cases (sound.slots index).backed with
  | unallocated _ empty closed => exact ⟨empty, closed⟩
  | unconnected other => rcases other with other | other <;> cases state.symm.trans other
  | _ other => cases state.symm.trans other

theorem of_unconnected
    (state : (layer.sockets index).state = .allocated ∨ (layer.sockets index).state = .bound)
    (holds : (layer.sockets index).sockTpcb = some tpcb) :
    (layer.pcbs tpcb).phase = .idle ∧ (layer.pcbs tpcb).Owned index ∧
      0 < layer.socketRefcount index := by
  cases (sound.slots index).backed with
  | unconnected _ same phase owned referenced =>
    cases same.symm.trans holds
    exact ⟨phase, owned, referenced⟩
  | failed _ empty => cases empty.symm.trans holds
  | _ other => rcases state with state | state <;> cases state.symm.trans other

theorem holds_of_referenced (referenced : 0 < layer.socketRefcount index)
    (state : (layer.sockets index).state = .allocated ∨ (layer.sockets index).state = .bound) :
    ∃ tpcb, (layer.sockets index).sockTpcb = some tpcb := by
  cases (sound.slots index).backed with
  | unconnected _ holds => exact ⟨_, holds⟩
  | failed _ _ closed => exact absurd referenced closed.not_gt
  | _ other => rcases state with state | state <;> cases state.symm.trans other

theorem of_connecting (state : (layer.sockets index).state = .connecting) :
    ∃ tpcb, (layer.sockets index).sockTpcb = some tpcb ∧
      ((layer.pcbs tpcb).phase = .idle ∨ (layer.pcbs tpcb).phase = .connecting) ∧
      (layer.pcbs tpcb).Owned index ∧ 0 < layer.socketRefcount index := by
  cases (sound.slots index).backed with
  | connecting _ holds phase owned referenced => exact ⟨_, holds, phase, owned, referenced⟩
  | unconnected other => rcases other with other | other <;> cases state.symm.trans other
  | _ other => cases state.symm.trans other

theorem of_connected (state : (layer.sockets index).state = .connected) :
    ∃ tpcb, (layer.sockets index).sockTpcb = some tpcb ∧ (layer.pcbs tpcb).phase.Opened ∧
      (layer.pcbs tpcb).Owned index ∧ (layer.pcbs tpcb).recvFunc = true ∧
      0 < layer.socketRefcount index := by
  cases (sound.slots index).backed with
  | connected _ holds phase owned recvFunc referenced =>
    exact ⟨_, holds, phase, owned, recvFunc, referenced⟩
  | unconnected other => rcases other with other | other <;> cases state.symm.trans other
  | _ other => cases state.symm.trans other

theorem of_closing (state : (layer.sockets index).state = .closing) :
    ∃ tpcb, (layer.sockets index).sockTpcb = some tpcb ∧ (layer.pcbs tpcb).phase.Opened ∧
      (layer.pcbs tpcb).handedBack = true ∧
      ((layer.pcbs tpcb).phase = .freed ∨ (layer.pcbs tpcb).recvFunc = true) ∧
      layer.socketRefcount index = 0 := by
  cases (sound.slots index).backed with
  | closing _ holds phase handedBack recvFunc closed =>
    exact ⟨_, holds, phase, handedBack, recvFunc, closed⟩
  | unconnected other => rcases other with other | other <;> cases state.symm.trans other
  | _ other => cases state.symm.trans other

theorem of_listening (state : (layer.sockets index).state = .listening) :
    ∃ tpcb, (layer.sockets index).sockTpcb = some tpcb ∧
      (layer.pcbs tpcb).phase = .listening ∧ (layer.pcbs tpcb).arg = some index ∧
      0 < layer.socketRefcount index := by
  cases (sound.slots index).backed with
  | listening _ holds phase arg referenced => exact ⟨_, holds, phase, arg, referenced⟩
  | unconnected other => rcases other with other | other <;> cases state.symm.trans other
  | _ other => cases state.symm.trans other

theorem entries_eq_nil (listening : (layer.sockets index).state ≠ .listening)
    (closing : (layer.sockets index).state ≠ .closing) :
    (layer.sockets index).acceptQueue.entries = [] := by
  by_contra waiting
  rcases (sound.slots index).listened waiting with state | ⟨state, _⟩
  · exact listening state
  · exact closing state

/-! ### Who else refers to a PCB -/

theorem holds_unique {other : Fin maxSockets} (holds : (layer.sockets index).sockTpcb = some tpcb)
    (different : other ≠ index) : (layer.sockets other).sockTpcb ≠ some tpcb :=
  fun held => different (sound.apart _ _ _ (Socket.mem_references_of_holds held)
    (Socket.mem_references_of_holds holds))

theorem not_holds_next (index : Fin maxSockets) :
    (layer.sockets index).sockTpcb ≠ some layer.nextPcb :=
  fun held => lt_irrefl _ ((sound.slots index).known _ (Socket.mem_references_of_holds held))

theorem not_holds_oldest (oldest : layer.Oldest index tpcb) (other : Fin maxSockets) :
    (layer.sockets other).sockTpcb ≠ some tpcb := by
  intro holds
  have pending : tpcb ∈ (layer.sockets index).acceptQueue.entries := by
    rw [(sound.slots index).wellFormed.entries_dequeue oldest.waiting, oldest.same]
    exact mem_cons_self
  have same := sound.apart other index tpcb (Socket.mem_references_of_holds holds)
    (Socket.mem_references.mpr (.inr pending))
  have nodup := (sound.slots index).nodup
  rw [Socket.references, ← same, holds] at nodup
  exact (nodup_cons.mp nodup).1 (same ▸ pending)

end

end Sound

end SocketLayer

end LionsOS.Sock

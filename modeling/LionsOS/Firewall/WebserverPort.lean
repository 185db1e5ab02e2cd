/-
This file is about the packets and the ARP responses that the webserver takes from the
router and passes to lwIP, in `mpfirewallport.c`. Each goes in a pbuf that has an entry
of a pool, and comes back through the function that is registered for freeing it. The
passes of the two loops are events of their own, so that everything else can come
between them.
-/

import LionsOS.Firewall.Arp
import LionsOS.Firewall.VirtTx

open Function

namespace LionsOS.Firewall

open StepRun

/-! ### State and events -/

/-- A pbuf, by the function that frees it. -/
inductive Pbuf where
  /-- It is freed by `interface_free_arp_buffer`. -/
  | arp
  /-- It is freed by `firewall_interface_free_buffer`. -/
  | buffer (offset : Nat)
  deriving DecidableEq

structure FwWebserver (interfaces : Nat) where
  rxActive : List (FwBuffDesc interfaces)
  arpRespQueue : List FwArpRequest
  /-- What was put in the queues of free buffers so far. They have room. -/
  rxFree : Fin interfaces → List (FwBuffDesc interfaces)
  /-- The number of free entries in the pool. -/
  poolFree : Nat
  /-- The pbufs that lwIP has. -/
  held : List Pbuf
  /-- The buffers that were taken from the router so far. -/
  dequeued : List (FwBuffDesc interfaces)
  /-- The responses so far that say where an address is reached. -/
  responses : List FwArpRequest
  /-- Those of them that lwIP was given. -/
  delivered : List FwArpRequest
  /-- How often an entry of the pool was taken. -/
  taken : Nat
  /-- How often one was given back. -/
  given : Nat

inductive WebserverEvent (interfaces : Nat) where
  /-- A pass of the loop of `mpfirewall_process_arp`, and whether lwIP takes its input. -/
  | arp (accepted : Bool)
  /-- A pass of the loop of `mpfirewall_process_rx`, and whether lwIP takes its input. -/
  | rx (accepted : Bool)
  | lwipFree (pbuf : Pbuf)
  /-- Others enqueue buffers and responses, and use the pool. -/
  | others (buffers : List (FwBuffDesc interfaces)) (responses : List FwArpRequest)
    (poolFree : Nat)

namespace FwWebserver

variable {interfaces : Nat} (tx : Fin interfaces) (server : FwWebserver interfaces)

def sddfLwipPbufPoolAlloc : FwWebserver interfaces :=
  { server with poolFree := server.poolFree - 1, taken := server.taken + 1 }

def sddfLwipPbufPoolFree : FwWebserver interfaces :=
  { server with poolFree := server.poolFree + 1, given := server.given + 1 }

def fwEnqueueFree (i : Fin interfaces) (buffer : FwBuffDesc interfaces) : FwWebserver interfaces :=
  { server with rxFree := update server.rxFree i (server.rxFree i ++ [buffer]) }

/-- The function that is registered for freeing a pbuf. -/
def free : Pbuf → FwWebserver interfaces
  | .arp => server.sddfLwipPbufPoolFree
  | .buffer offset =>
    (server.fwEnqueueFree tx { offset, len := 0, interface := ⟨0, tx.pos⟩ }).sddfLwipPbufPoolFree

/-- Pass a pbuf to lwIP, and free it if lwIP does not take it. -/
def input (accepted : Bool) (pbuf : Pbuf) : FwWebserver interfaces :=
  if accepted then { server with held := server.held ++ [pbuf] } else server.free tx pbuf

def mpfirewallProcessArp (accepted : Bool) : FwWebserver interfaces :=
  match server.arpRespQueue with
  | [] => server
  | response :: rest =>
    let dequeued := { server with arpRespQueue := rest }
    if response.state ≠ .reachable then dequeued
    else
      let seen := { dequeued with responses := server.responses ++ [response] }
      if server.poolFree = 0 then seen
      else
        let delivered := if accepted then server.delivered ++ [response] else server.delivered
        { seen.sddfLwipPbufPoolAlloc with delivered }.input tx accepted .arp

def mpfirewallProcessRx (accepted : Bool) : FwWebserver interfaces :=
  match server.rxActive with
  | [] => server
  | buffer :: rest =>
    if server.poolFree = 0 then server
    else
      let dequeued :=
        { server.sddfLwipPbufPoolAlloc with
          rxActive := rest
          dequeued := server.dequeued ++ [buffer] }
      if buffer.interface ≠ tx then
        (dequeued.fwEnqueueFree buffer.interface buffer).sddfLwipPbufPoolFree
      -- `pbuf_alloced_custom` gives no pbuf, and nothing is done with none
      else if netBufferSize < buffer.len.toNat then dequeued
      else dequeued.input tx accepted (.buffer buffer.offset)

end FwWebserver

variable {interfaces : Nat} {tx : Fin interfaces} {server next start : FwWebserver interfaces}
  {accepted : Bool} {pbuf : Pbuf}

/-- lwIP only frees pbufs that it has. -/
def WebserverStep (tx : Fin interfaces) (server : FwWebserver interfaces) :
    WebserverEvent interfaces → FwWebserver interfaces → Prop
  | .arp accepted, next => next = server.mpfirewallProcessArp tx accepted
  | .rx accepted, next => next = server.mpfirewallProcessRx tx accepted
  | .lwipFree pbuf, next => pbuf ∈ server.held ∧
    next = { server with held := server.held.erase pbuf }.free tx pbuf
  | .others buffers responses poolFree, next => next = { server with
      rxActive := server.rxActive ++ buffers
      arpRespQueue := server.arpRespQueue ++ responses
      poolFree }

/-- Every buffer was returned to the interface that it is from or is in a pbuf that lwIP has, every
entry of the pool that was taken was given back or is that of such a pbuf, and lwIP was given every
response. -/
structure FwWebserver.Delivers (tx : Fin interfaces) (server : FwWebserver interfaces) :
    Prop where
  returned : ∀ i offset,
    server.dequeued.countP (fun buffer => buffer.interface = i ∧ buffer.offset = offset) =
      (server.rxFree i).countP (fun buffer => buffer.offset = offset) +
        if i = tx then server.held.count (.buffer offset) else 0
  entries : server.taken = server.given + server.held.length
  delivered : server.delivered = server.responses

/-- Nothing was taken from a queue or from the pool yet. -/
structure FwWebserver.Initial (server : FwWebserver interfaces) : Prop where
  rxFree : ∀ i, server.rxFree i = []
  held : server.held = []
  dequeued : server.dequeued = []
  responses : server.responses = []
  delivered : server.delivered = []
  taken : server.taken = 0
  given : server.given = 0

/-- For a response there is an entry in the pool, and lwIP takes it; and a buffer is as long as it
says. -/
def PassesOn (tx : Fin interfaces) (server : FwWebserver interfaces) :
    WebserverEvent interfaces → Prop
  | .arp accepted => ∀ response rest, server.arpRespQueue = response :: rest →
    response.state = .reachable → server.poolFree ≠ 0 ∧ accepted = true
  | .rx _ => ∀ buffer rest, server.rxActive = buffer :: rest → server.poolFree ≠ 0 →
    buffer.interface = tx → buffer.len.toNat ≤ netBufferSize
  | _ => True

/-! ### One event -/

namespace FwWebserver

theorem Initial.delivers (initial : start.Initial) : start.Delivers tx where
  returned i offset := by simp [initial.dequeued, initial.rxFree, initial.held]
  entries := by simp [initial.taken, initial.given, initial.held]
  delivered := initial.delivered.trans initial.responses.symm

theorem Delivers.free (delivers : { server with held := server.held ++ [pbuf] }.Delivers tx) :
    (server.free tx pbuf).Delivers tx := by
  obtain ⟨returned, entries, delivered⟩ := delivers
  simp only [List.length_append, List.length_singleton] at entries
  cases pbuf with
  | arp =>
    refine ⟨fun i offset => ?_, ?_, delivered⟩
    · simpa [FwWebserver.free, sddfLwipPbufPoolFree] using returned i offset
    · simp only [FwWebserver.free, sddfLwipPbufPoolFree]
      omega
  | buffer freed =>
    refine ⟨fun i offset => ?_, ?_, delivered⟩
    · have before := returned i offset
      simp only [FwWebserver.free, sddfLwipPbufPoolFree, fwEnqueueFree, update_apply] at before ⊢
      split_ifs at before ⊢ with same
      · subst same
        rw [List.count_append, List.count_singleton] at before
        rw [before, List.countP_append, List.countP_singleton]
        by_cases equal : freed = offset <;> simp [equal]
        omega
      · exact before
    · simp only [FwWebserver.free, sddfLwipPbufPoolFree, fwEnqueueFree]
      omega

theorem Delivers.input (delivers : { server with held := server.held ++ [pbuf] }.Delivers tx) :
    (server.input tx accepted pbuf).Delivers tx := by
  unfold FwWebserver.input
  split
  · exact delivers
  · exact delivers.free

theorem lost {response : FwArpRequest} (delivers : server.Delivers tx)
    (same : next.delivered = server.delivered)
    (seen : next.responses = server.responses ++ [response]) : ¬next.Delivers tx := by
  intro after
  have equal := after.delivered
  rw [same, seen, delivers.delivered] at equal
  simp at equal

theorem Delivers.arp_iff (delivers : server.Delivers tx) :
    (server.mpfirewallProcessArp tx accepted).Delivers tx ↔ PassesOn tx server (.arp accepted) := by
  unfold mpfirewallProcessArp
  cases queue : server.arpRespQueue with
  | nil => exact iff_of_true delivers (by simp [PassesOn, queue])
  | cons response rest =>
    have passes : PassesOn tx server (.arp accepted) ↔
        (response.state = .reachable → server.poolFree ≠ 0 ∧ accepted = true) := by
      simp [PassesOn, queue]
    rw [passes]
    dsimp only
    split_ifs with unreached empty accepts
    · exact iff_of_true ⟨delivers.returned, delivers.entries, delivers.delivered⟩
        fun reached => absurd reached unreached
    · exact iff_of_false (lost delivers rfl rfl)
        fun passes => (passes (not_not.mp unreached)).1 empty
    · refine iff_of_true (Delivers.input ⟨fun i offset => ?_, ?_, ?_⟩) fun _ => ⟨empty, accepts⟩
      · simpa [sddfLwipPbufPoolAlloc] using delivers.returned i offset
      · simp [sddfLwipPbufPoolAlloc, delivers.entries, Nat.add_assoc]
      · simp [sddfLwipPbufPoolAlloc, delivers.delivered]
    · refine iff_of_false (@lost _ _ _ _ response delivers ?_ ?_) fun passes =>
        accepts (passes (not_not.mp unreached)).2
      · simp [FwWebserver.input, FwWebserver.free, accepts, sddfLwipPbufPoolAlloc,
          sddfLwipPbufPoolFree]
      · simp [FwWebserver.input, FwWebserver.free, accepts, sddfLwipPbufPoolAlloc,
          sddfLwipPbufPoolFree]

theorem Delivers.rx_iff (delivers : server.Delivers tx) :
    (server.mpfirewallProcessRx tx accepted).Delivers tx ↔ PassesOn tx server (.rx accepted) := by
  unfold mpfirewallProcessRx
  cases queue : server.rxActive with
  | nil => exact iff_of_true delivers (by simp [PassesOn, queue])
  | cons buffer rest =>
    have passes : PassesOn tx server (.rx accepted) ↔
        (server.poolFree ≠ 0 → buffer.interface = tx → buffer.len.toNat ≤ netBufferSize) := by
      simp [PassesOn, queue]
    rw [passes]
    dsimp only
    split_ifs with empty foreign long
    · exact iff_of_true delivers fun entry => absurd empty entry
    · refine iff_of_true ⟨fun i offset => ?_, ?_, delivers.delivered⟩
        fun _ own => absurd own foreign
      · have before := delivers.returned i offset
        simp only [fwEnqueueFree, sddfLwipPbufPoolAlloc, sddfLwipPbufPoolFree, update_apply,
          List.countP_append, List.countP_singleton, before]
        by_cases same : i = buffer.interface
        · subst same
          by_cases equal : buffer.offset = offset <;> simp [equal, foreign]
        · simp [same, Ne.symm same]
      · simp only [fwEnqueueFree, sddfLwipPbufPoolAlloc, sddfLwipPbufPoolFree, delivers.entries]
        omega
    · refine iff_of_false (fun after => ?_) fun short => ?_
      · have entries := after.entries
        simp only [sddfLwipPbufPoolAlloc, delivers.entries] at entries
        omega
      · exact absurd (short empty (not_not.mp foreign)) (by omega)
    · refine iff_of_true (Delivers.input ⟨fun i offset => ?_, ?_, delivers.delivered⟩)
        fun _ _ => by omega
      · have before := delivers.returned i offset
        simp only [sddfLwipPbufPoolAlloc, List.countP_append, List.countP_singleton,
          List.count_append, List.count_singleton, before]
        by_cases own : i = tx
        · subst own
          by_cases equal : buffer.offset = offset <;>
            simp [equal, not_not.mp foreign, Nat.add_assoc]
        · simp [own, not_not.mp foreign, Ne.symm own]
      · simp [sddfLwipPbufPoolAlloc, delivers.entries, Nat.add_assoc]

theorem Delivers.lwipFree (delivers : server.Delivers tx) (held : pbuf ∈ server.held) :
    ({ server with held := server.held.erase pbuf }.free tx pbuf).Delivers tx := by
  have same : (server.held.erase pbuf ++ [pbuf]).Perm server.held :=
    List.perm_append_comm.trans (List.perm_cons_erase held).symm
  refine Delivers.free ⟨fun i offset => ?_, ?_, delivers.delivered⟩
  · exact (delivers.returned i offset).trans (by rw [same.count_eq])
  · exact delivers.entries.trans (by rw [same.length_eq])

end FwWebserver

theorem delivers_iff {event : WebserverEvent interfaces} (delivers : server.Delivers tx)
    (taken : WebserverStep tx server event next) : next.Delivers tx ↔ PassesOn tx server event := by
  cases event with
  | arp =>
    subst taken
    exact delivers.arp_iff
  | rx =>
    subst taken
    exact delivers.rx_iff
  | lwipFree =>
    obtain ⟨held, rfl⟩ := taken
    exact iff_of_true (delivers.lwipFree held) trivial
  | others =>
    subst taken
    exact iff_of_true ⟨delivers.returned, delivers.entries, delivers.delivered⟩ trivial

/-! ### Every run -/

/-- The packets, the entries of the pool and the responses are all accounted for throughout a run
exactly when every response finds an entry and is taken by lwIP. -/
theorem webserver_delivers_iff {events : List (WebserverEvent interfaces)}
    (initial : start.Initial) :
    Run (Within (FwWebserver.Delivers tx) (WebserverStep tx)) start events server ↔
      Run (Guarded (PassesOn tx) (WebserverStep tx)) start events server :=
  run_within_iff_guarded (fun _ => True) trivial initial.delivers
    (fun _ _ _ _ _ => trivial) fun _ _ _ _ delivers taken => delivers_iff delivers taken

/-- One interface, where an address was found, and the entries of the pool that are free. -/
def respondedServer (poolFree : Nat) : FwWebserver 1 where
  rxActive := []
  arpRespQueue := [{ ip := 0x0200000a, macAddr := fun _ => 0, state := .reachable }]
  rxFree _ := []
  poolFree
  held := []
  dequeued := []
  responses := []
  delivered := []
  taken := 0
  given := 0

theorem initial_respondedServer (poolFree : Nat) : (respondedServer poolFree).Initial :=
  ⟨fun _ => rfl, rfl, rfl, rfl, rfl, rfl, rfl⟩

theorem webserver_delivers_iff_response : ∃ server,
    Run (Within (FwWebserver.Delivers 0) (WebserverStep 0)) (respondedServer 1) [.arp true] server ∧
      server.held = [.arp] :=
  ⟨_, (webserver_delivers_iff (initial_respondedServer 1)).mpr
    (Run.single ⟨fun _ _ _ _ => ⟨Nat.one_ne_zero, rfl⟩, rfl⟩), rfl⟩

/-- While the pool is empty, a response is taken from its queue and lost. -/
theorem webserver_loses_response : ¬∀ (start server : FwWebserver 1)
    (events : List (WebserverEvent 1)), start.Initial →
      Run (WebserverStep 0) start events server → server.Delivers 0 := by
  intro claimed
  have lost := (claimed (respondedServer 0) _ [.arp true] (initial_respondedServer 0)
    (Run.single rfl)).delivered
  cases lost

end LionsOS.Firewall

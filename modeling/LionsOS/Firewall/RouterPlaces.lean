/-
This file follows the buffers through whole runs of the router and the
components around it. The router disposes of each buffer it dequeues exactly
once; and as long as filters hand over buffers that are free, no buffer is in
two places at once.
-/

import LionsOS.Firewall.RouterLedger

open Function

namespace LionsOS.Firewall

open StepRun Places Router Multiset

variable {interfaces : Nat}

variable {buffer : FwBuffDesc interfaces} {outInterface : Fin interfaces}

/-! ### The start -/

/-- What makes a buffer: the pool it belongs to, and where it is there. -/
def FwBuffDesc.place (buffer : FwBuffDesc interfaces) : Fin interfaces × Nat :=
  (buffer.interface, buffer.offset)

/-- All queues that carry buffers are empty, and so are the waiting structures. -/
structure RouterSystem.Initial (system : RouterSystem interfaces) : Prop where
  fwFilters : ∀ interface filter, (system.router.fwFilters interface filter).entries = []
  rxFree : ∀ interface, (system.router.rxFree interface).entries = []
  txActive : ∀ outInterface, (system.router.txActive outInterface).entries = []
  webserver : system.router.webserver.entries = []
  waiting : ∀ outInterface, ∃ packets capacity,
    system.router.pktWaitingQueue outInterface = pktWaitingInit packets capacity
  dequeued : system.dequeued = 0
  taken : system.taken = 0
  held : system.held = 0

open RouterSystem

namespace RouterSystem

variable {system next : RouterSystem interfaces}

theorem Initial.waitingSound (initial : system.Initial) : system.router.WaitingSound := by
  intro outInterface
  obtain ⟨packets, capacity, started⟩ := initial.waiting outInterface
  rw [started]
  exact PktsWaiting.wellFormed_init packets capacity

theorem Initial.disposed (initial : system.Initial) : system.router.disposed = 0 := by
  have rxFree : Places.total system.router.inRxFree = 0 :=
    Finset.sum_eq_zero fun interface _ => by rw [Router.inRxFree, initial.rxFree]; rfl
  have txActive : Places.total system.router.inTxActive = 0 :=
    Finset.sum_eq_zero fun outInterface _ => by rw [Router.inTxActive, initial.txActive]; rfl
  have waiting : Places.total system.router.isWaiting = 0 :=
    Finset.sum_eq_zero fun outInterface _ => by
      obtain ⟨packets, capacity, started⟩ := initial.waiting outInterface
      rw [Router.isWaiting, started]
      rfl
  rw [Router.disposed, rxFree, txActive, waiting, Router.inWebserver, initial.webserver]
  rfl

end RouterSystem

/-! ### The filter queues -/

namespace Router

variable {router : Router interfaces} {interface : Fin interfaces} {filter : Fin fwMaxFilters}
  {queue : FwQueue NetBuffDesc}

theorem inFilters_setFilter_of_ne {place : Fin interfaces × Fin fwMaxFilters}
    (different : place ≠ (interface, filter)) :
    (router.setFilter interface filter queue).inFilters place = router.inFilters place := by
  rw [inFilters, inFilters, setFilter_of_ne router queue different]

theorem inFilters_setFilter_self :
    (router.setFilter interface filter queue).inFilters (interface, filter) =
      queue.entries.map fun buffer => buffer.tagged interface := by
  rw [inFilters, setFilter_self]

theorem total_inFilters_dequeue {buffer : NetBuffDesc}
    (entries : (router.fwFilters interface filter).entries = buffer :: queue.entries) :
    total router.inFilters = total (router.setFilter interface filter queue).inFilters +
        {buffer.tagged interface} := by
  refine total_remove (interface, filter)
    (fun place different => inFilters_setFilter_of_ne different) ?_
  rw [inFilters_setFilter_self, inFilters, entries, add_comm]
  rfl

theorem total_inFilters_enqueue {buffer : NetBuffDesc}
    (entries : queue.entries = (router.fwFilters interface filter).entries ++ [buffer]) :
    total (router.setFilter interface filter queue).inFilters =
      total router.inFilters + {buffer.tagged interface} := by
  refine total_add (interface, filter)
    (fun place different => inFilters_setFilter_of_ne different) ?_
  rw [inFilters_setFilter_self, entries, List.map_append]
  rfl

/-! ### The consumers -/

theorem disposed_takeRxFree {buffer : NetBuffDesc}
    (entries : (router.rxFree interface).entries = buffer :: queue.entries) :
    router.disposed = disposed { router with
      rxFree := update router.rxFree interface queue } + {buffer.tagged interface} := by
  refine disposed_change {buffer.tagged interface} 0 0 0 (total_remove interface
    (fun other different => ?_) ?_) (add_zero _).symm (add_zero _).symm (add_zero _).symm (by simp)
  · simp only [inRxFree, update_of_ne different]
  · simp only [inRxFree, update_self, entries]
    rw [add_comm]
    rfl

theorem disposed_takeTxActive {queue : FwQueue (FwBuffDesc interfaces)}
    (entries : (router.txActive outInterface).entries = buffer :: queue.entries) :
    router.disposed = disposed { router with
      txActive := update router.txActive outInterface queue } + {buffer} := by
  refine disposed_change 0 {buffer} 0 0 (add_zero _).symm (total_remove outInterface
    (fun other different => ?_) ?_) (add_zero _).symm (add_zero _).symm (by simp)
  · simp only [inTxActive, update_of_ne different]
  · simp only [inTxActive, update_self, entries]
    rw [add_comm]
    rfl

theorem disposed_takeWebserver {queue : FwQueue (FwBuffDesc interfaces)}
    (entries : router.webserver.entries = buffer :: queue.entries) :
    router.disposed = disposed { router with webserver := queue } + {buffer} := by
  refine disposed_change 0 0 {buffer} 0 (add_zero _).symm (add_zero _).symm ?_
    (add_zero _).symm (by simp)
  simp only [inWebserver, entries]
  rw [add_comm]
  rfl

end Router

/-! ### One step -/

/-- The buffer that an event brings into the system. -/
def RouterEvent.arriving : RouterEvent interfaces → Multiset (FwBuffDesc interfaces)
  | .arrive interface _ buffer _ => {buffer.tagged interface}
  | _ => 0

namespace RouterSystem

variable {filter : Fin fwMaxFilters} {interface : Fin interfaces}

/-- The buffers that are somewhere in the system. Those in no place are free to be handed
over. -/
def everywhere (system : RouterSystem interfaces) : Multiset (FwBuffDesc interfaces) :=
  total system.router.inFilters + system.router.disposed + system.held

/-- The books balance: each buffer the router dequeued was disposed of once, and is either still
where the router put it or was taken from there. -/
structure Balanced (system : RouterSystem interfaces) : Prop where
  waitingSound : system.router.WaitingSound
  dequeued : system.dequeued = system.router.disposed + system.taken

variable {config : FwRouterConfig interfaces} {system next : RouterSystem interfaces}
  {event : RouterEvent interfaces}

theorem Initial.balanced (initial : system.Initial) : system.Balanced where
  waitingSound := initial.waitingSound
  dequeued := by rw [initial.dequeued, initial.disposed, initial.taken, add_zero]

theorem Initial.everywhere (initial : system.Initial) : system.everywhere = 0 := by
  have filters : Places.total system.router.inFilters = 0 :=
    Finset.sum_eq_zero fun place _ => by rw [inFilters, initial.fwFilters]; rfl
  rw [RouterSystem.everywhere, filters, initial.disposed, initial.held]
  rfl

section

variable (balanced : system.Balanced)
include balanced

theorem arrive_balanced {buffer : NetBuffDesc} {packet : Packet}
    (step : RouterStep config system (.arrive interface filter buffer packet) next) :
    next.Balanced ∧ next.everywhere = system.everywhere + {buffer.tagged interface} := by
  obtain ⟨result, performed, outcome⟩ := performs_of_eq step
  cases performed with
  | arrive queue entries capacity =>
    cases outcome
    refine ⟨⟨balanced.waitingSound, balanced.dequeued⟩, ?_⟩
    have filters : total ((system.router.setPacket interface buffer.ioOrOffset
        packet).setFilter interface filter queue).inFilters =
        total system.router.inFilters + {buffer.tagged interface} :=
      total_inFilters_enqueue entries
    simp only [everywhere, filters]
    ac_rfl

theorem route_balanced (step : RouterStep config system (.route interface filter) next) :
    next.Balanced ∧ next.everywhere = system.everywhere := by
  obtain ⟨result, performed, outcome⟩ := performs_of_eq step
  cases performed with
  | route buffer queue entries capacity =>
    obtain ⟨router, routed, rfl⟩ := Fallible.map_eq_ok outcome
    obtain ⟨disposed, waitingSound, inFilters⟩ :=
      routePacket_disposed (show (system.router.setFilter interface filter
        queue).WaitingSound from balanced.waitingSound) routed
    have sameDisposed : (system.router.setFilter interface filter queue).disposed =
        system.router.disposed := rfl
    refine ⟨⟨waitingSound, ?_⟩, ?_⟩
    · rw [disposed, sameDisposed, balanced.dequeued, add_right_comm]
    · simp only [everywhere, disposed, inFilters]
      rw [total_inFilters_dequeue entries]
      ac_rfl

/-- What processing a response does to the system, and what it keeps. -/
theorem respond_balanced (step : RouterStep config system (.respond outInterface) next) :
    (∃ response queue,
      fwDequeue (system.router.arpRespQueue outInterface) = some (response, queue) ∧
      Router.Responds outInterface response
        { system.router with
          arpRespQueue := update system.router.arpRespQueue outInterface queue }
        next.router) ∧ next.Balanced ∧ next.everywhere = system.everywhere := by
  obtain ⟨result, performed, outcome⟩ := performs_of_eq step
  cases performed with
  | respond response queue dequeued =>
    obtain ⟨router, resolved, rfl⟩ := Fallible.map_eq_ok outcome
    have sound : Router.WaitingSound { system.router with
        arpRespQueue := update system.router.arpRespQueue outInterface queue } :=
      balanced.waitingSound
    obtain ⟨responds, disposed, waitingSound, inFilters⟩ :=
      processArpResponse_responds sound resolved
    refine ⟨⟨response, queue, dequeued, responds⟩, ⟨waitingSound, ?_⟩, ?_⟩
    · exact balanced.dequeued.trans (congrArg (· + system.taken) disposed.symm)
    · simp only [everywhere, disposed, inFilters]
      rfl

theorem take_balanced {router : Router interfaces}
    (disposed : system.router.disposed = router.disposed + {buffer}) :
    system.dequeued = router.disposed + (system.taken + {buffer}) := by
  rw [balanced.dequeued, disposed]
  ac_rfl

/-- Every step keeps the books balanced, and brings in no buffer but the one that arrives. -/
theorem step_balanced (step : RouterStep config system event next) :
    next.Balanced ∧ next.everywhere ≤ system.everywhere + event.arriving := by
  obtain ⟨result, performed, outcome⟩ := performs_of_eq step
  cases performed with
  | arrive queue entries capacity =>
    obtain ⟨balanced, everywhere⟩ := arrive_balanced balanced step
    exact ⟨balanced, everywhere.le⟩
  | route buffer queue entries capacity =>
    obtain ⟨balanced, everywhere⟩ := route_balanced balanced step
    exact ⟨balanced, (everywhere.trans (add_zero _).symm).le⟩
  | respond response queue dequeued =>
    obtain ⟨_, balanced, everywhere⟩ := respond_balanced balanced step
    exact ⟨balanced, (everywhere.trans (add_zero _).symm).le⟩
  | takeRxFree buffer queue entries capacity =>
    cases outcome
    have disposed := disposed_takeRxFree entries
    refine ⟨⟨balanced.waitingSound, take_balanced balanced disposed⟩, ?_⟩
    simp only [everywhere, RouterEvent.arriving, add_zero]
    gcongr
    · exact le_rfl
    · exact disposed ▸ le_add_right _ _
  | takeTxActive buffer queue entries capacity =>
    cases outcome
    have disposed := disposed_takeTxActive entries
    refine ⟨⟨balanced.waitingSound, take_balanced balanced disposed⟩, ?_⟩
    simp only [everywhere, RouterEvent.arriving, add_zero, disposed]
    rw [add_comm system.held, ← add_assoc, ← add_assoc]
    rfl
  | takeWebserver buffer queue entries capacity =>
    cases outcome
    have disposed := disposed_takeWebserver entries
    refine ⟨⟨balanced.waitingSound, take_balanced balanced disposed⟩, ?_⟩
    simp only [everywhere, RouterEvent.arriving, add_zero, disposed]
    rw [add_comm system.held, ← add_assoc, ← add_assoc]
    rfl
  | giveBack member =>
    cases outcome
    refine ⟨⟨balanced.waitingSound, balanced.dequeued⟩, ?_⟩
    simp only [everywhere, RouterEvent.arriving, add_zero]
    gcongr
    exact erase_le _ _
  | takeIcmp queue | arp | changeRoutes | changePing =>
    cases outcome
    exact ⟨⟨balanced.waitingSound, balanced.dequeued⟩, (add_zero system.everywhere).ge⟩

theorem step_everywhere_eq_zero (step : RouterStep config system event next)
    (quiet : event.arriving = 0) (empty : system.everywhere = 0) : next.everywhere = 0 := by
  have bound := (step_balanced balanced step).2
  rw [quiet, empty] at bound
  exact le_zero.mp bound

end

/-! ### Fresh arrivals -/

/-- No buffer is in two places. -/
def NothingShared (system : RouterSystem interfaces) : Prop :=
  (system.everywhere.map FwBuffDesc.place).Nodup

/-- A filter only hands over a buffer that is nowhere else. -/
def Fresh (system : RouterSystem interfaces) : RouterEvent interfaces → Prop
  | .arrive interface _ buffer _ =>
    (interface, buffer.ioOrOffset) ∉ system.everywhere.map FwBuffDesc.place
  | _ => True

theorem step_nothingShared (balanced : system.Balanced) (nothingShared : system.NothingShared)
    (fresh : system.Fresh event) (step : RouterStep config system event next) :
    next.NothingShared := by
  refine nodup_of_le (map_le_map (step_balanced balanced step).2) ?_
  rw [map_add]
  cases event with
  | arrive interface filter buffer packet =>
    rw [add_comm]
    exact nodup_cons.mpr ⟨fresh, nothingShared⟩
  | _ =>
    exact (add_zero (system.everywhere.map FwBuffDesc.place)).symm ▸ nothingShared

end RouterSystem

/-! ### Whole runs -/

variable {config : FwRouterConfig interfaces} {start system : RouterSystem interfaces}
  {events : List (RouterEvent interfaces)}

theorem RouterSystem.Initial.run_balanced (initial : start.Initial)
    (run : Run (RouterStep config) start events system) : system.Balanced :=
  run.invariant RouterSystem.Balanced initial.balanced fun _ _ _ balanced step =>
    (step_balanced balanced step).1

theorem RouterSystem.Initial.run_nothingShared (initial : start.Initial)
    (run : Run (Guarded RouterSystem.Fresh (RouterStep config)) start events system) :
    system.Balanced ∧ system.NothingShared := by
  refine run.invariant (fun system => system.Balanced ∧ system.NothingShared)
    ⟨initial.balanced, ?_⟩ fun _ _ _ holds step =>
      ⟨(step_balanced holds.1 step.2).1, step_nothingShared holds.1 holds.2 step.1 step.2⟩
  rw [RouterSystem.NothingShared, initial.everywhere]
  exact nodup_zero

/-- In every run, each buffer the router has dequeued was disposed of once: it is in the free
queue of the interface it was received on, in one transmit queue, in the webserver queue or in one
node of a waiting structure, unless a consumer has taken it from there. Each round of `route`
disposes of the buffer it dequeues, each round of `process_arp_waiting` moves exactly the buffers
of its address, and if the buffers handed to the router are free ones no two places share one. -/
theorem router_disposes_of_every_buffer_once (initial : start.Initial)
    (run : Run (RouterStep config) start events system) :
    system.dequeued = system.router.disposed + system.taken ∧
      (∀ interface filter next, RouterStep config system (.route interface filter) next →
        ∃ buffer, (system.router.fwFilters interface filter).entries.head? = some buffer ∧
          next.dequeued = system.dequeued + {buffer.tagged interface} ∧
          next.router.disposed = system.router.disposed + {buffer.tagged interface}) ∧
      (∀ outInterface next, RouterStep config system (.respond outInterface) next →
        ∃ response queue,
          fwDequeue (system.router.arpRespQueue outInterface) = some (response, queue) ∧
          Router.Responds outInterface response
            { system.router with
              arpRespQueue := update system.router.arpRespQueue outInterface queue }
            next.router) ∧
      (Run (Guarded RouterSystem.Fresh (RouterStep config)) start events system →
        system.NothingShared) := by
  have balanced := initial.run_balanced run
  refine ⟨balanced.dequeued, fun interface filter next step => ?_, fun outInterface next step =>
    (respond_balanced balanced step).1, fun guarded =>
      (initial.run_nothingShared guarded).2⟩
  obtain ⟨result, performed, outcome⟩ := performs_of_eq step
  cases performed with
  | route buffer queue entries capacity =>
    obtain ⟨router, routed, rfl⟩ := Fallible.map_eq_ok outcome
    have disposed := (routePacket_disposed (show (system.router.setFilter interface filter
      queue).WaitingSound from balanced.waitingSound) routed).1
    exact ⟨buffer, by rw [entries]; rfl, rfl, disposed⟩

/-- A router with nothing in it, whose queues have room for `capacity` entries. -/
def RouterSystem.idle (interfaces capacity : Nat) : RouterSystem interfaces where
  router :=
    { fwFilters := fun _ _ => FwQueue.empty capacity
      rxFree := fun _ => FwQueue.empty capacity
      txActive := fun _ => FwQueue.empty capacity
      webserver := FwQueue.empty capacity
      data := fun _ _ _ => 0
      icmpQueue := FwQueue.empty capacity
      arpReqQueue := fun _ => FwQueue.empty capacity
      arpRespQueue := fun _ => FwQueue.empty capacity
      arpTable := fun _ => []
      pktWaitingQueue := fun interface => pktWaitingInit (fun _ =>
        { next := 0, prev := 0, child := 0, numChildren := 0, tail := 0, ip := 0,
          buffer := { offset := 0, len := 0, interface } }) capacity
      routingTable := []
      pingResponseEnabled := fun _ => false
      txNet := fun _ => false
      txWebserver := false
      returned := fun _ => false
      notifyArp := fun _ => false
      notifyIcmp := false }
  dequeued := 0
  taken := 0
  held := 0
  received := fun _ _ _ => 0

theorem RouterSystem.idle_initial (interfaces capacity : Nat) :
    (idle interfaces capacity).Initial where
  fwFilters _ _ := rfl
  rxFree _ := rfl
  txActive _ := rfl
  webserver := rfl
  waiting _ := ⟨_, _, rfl⟩
  dequeued := rfl
  taken := rfl
  held := rfl

def sampleConfig (interfaces : Nat) : FwRouterConfig interfaces where
  interface _ := { macAddr := fun _ => 0, ip := 0, numFilters := 1 }
  networkHwHasChecksum := false

def sampleFilter : Fin fwMaxFilters := ⟨0, by decide⟩

def sampleBuffer : NetBuffDesc := { ioOrOffset := 0, len := 0 }

theorem router_disposes_of_every_buffer_once_of_one :
    ∃ system, Run (RouterStep (sampleConfig 1)) (idle 1 1)
        [.arrive 0 sampleFilter sampleBuffer (fun _ => 0), .route 0 sampleFilter] system ∧
      system.dequeued = {sampleBuffer.tagged 0} ∧
      system.dequeued = system.router.disposed + system.taken := by
  have run : Run (RouterStep (sampleConfig 1)) (idle 1 1)
      [.arrive 0 sampleFilter sampleBuffer (fun _ => 0), .route 0 sampleFilter] _ :=
    Run.of_foldlM step_of_next rfl
  exact ⟨_, run, rfl, (router_disposes_of_every_buffer_once (idle_initial 1 1) run).1⟩

end LionsOS.Firewall

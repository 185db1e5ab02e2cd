/-
This file follows the bytes of the buffers. A buffer in a filter queue holds the
packet as it was received, one that waits for an ARP response holds it with the
time to live decremented, and one in a transmit queue holds what the router sends
for it. Because no buffer is in two places, a disposal changes the bytes of no
other buffer, so this holds throughout a run, whichever way a packet takes.
-/

import LionsOS.Firewall.RouterBytes
import LionsOS.Firewall.RouterPlaces

open Function

namespace LionsOS.Firewall

open StepRun Places Router RouterSystem Multiset Places

variable {interfaces : Nat} {macAddr : MacAddr} {offset : Nat}

variable {interface : Fin interfaces} {filter : Fin fwMaxFilters} {queue : FwQueue NetBuffDesc}

namespace Router

variable {buffer : FwBuffDesc interfaces} {outInterface : Fin interfaces} {response : FwArpRequest}

/-! ### The bytes in every place -/

/-- The bytes a buffer holds. -/
def bytesOf (router : Router interfaces) (buffer : FwBuffDesc interfaces) : Packet :=
  router.data buffer.interface buffer.offset

/-- The buffers whose bytes matter, given those that wait or are about to. -/
def carried (router : Router interfaces) (waiting : Multiset (FwBuffDesc interfaces)) :
    Multiset (FwBuffDesc interfaces) :=
  total router.inFilters + waiting + total router.inTxActive

/-- What each place says about the bytes of its buffers. -/
structure BytesKept (config : FwRouterConfig interfaces) (router : Router interfaces)
    (waiting : Multiset (FwBuffDesc interfaces)) (received : Fin interfaces → Nat → Packet) :
    Prop where
  distinct : ((router.carried waiting).map FwBuffDesc.place).Nodup
  inFilters : ∀ buffer ∈ total router.inFilters,
    router.bytesOf buffer = received buffer.interface buffer.offset
  isWaiting : ∀ buffer ∈ waiting, 1 < (received buffer.interface buffer.offset).ttl ∧
    router.bytesOf buffer = (received buffer.interface buffer.offset).decremented
  inTxActive : ∀ outInterface, ∀ buffer ∈ router.inTxActive outInterface,
    1 < (received buffer.interface buffer.offset).ttl ∧ ∃ macAddr, router.bytesOf buffer =
      outgoingPacket config (received buffer.interface buffer.offset).decremented macAddr
        outInterface

variable {config : FwRouterConfig interfaces} {router next : Router interfaces}
  {waiting : Multiset (FwBuffDesc interfaces)} {received : Fin interfaces → Nat → Packet}

/-- Taking buffers away keeps the rest. -/
theorem BytesKept.mono (kept : BytesKept config router waiting received)
    {fewer : Multiset (FwBuffDesc interfaces)} (data : next.data = router.data)
    (inFilters : total next.inFilters ≤ total router.inFilters)
    (isWaiting : fewer ≤ waiting)
    (inTxActive : ∀ outInterface, next.inTxActive outInterface ≤ router.inTxActive outInterface) :
    BytesKept config next fewer received := by
  have sameBytes : next.bytesOf = router.bytesOf := by
    funext buffer
    rw [bytesOf, bytesOf, data]
  have fewerCarried : next.carried fewer ≤ router.carried waiting :=
    add_le_add (add_le_add inFilters isWaiting) (total_mono inTxActive)
  refine ⟨nodup_of_le (map_le_map fewerCarried) kept.distinct,
    fun buffer member => ?_, fun buffer member => ?_, fun outInterface buffer member => ?_⟩
  · rw [sameBytes]
    exact kept.inFilters buffer (mem_of_le inFilters member)
  · rw [sameBytes]
    exact kept.isWaiting buffer (mem_of_le isWaiting member)
  · rw [sameBytes]
    exact kept.inTxActive outInterface buffer (mem_of_le (inTxActive outInterface) member)

theorem bytesOf_setPacket_of_ne (router : Router interfaces) (packet : Packet)
    (apart : buffer.place ≠ (interface, offset)) :
    (router.setPacket interface offset packet).bytesOf buffer = router.bytesOf buffer := by
  show update router.data interface _ buffer.interface buffer.offset = _
  by_cases same : buffer.interface = interface
  · have otherOffset : buffer.offset ≠ offset := fun sameOffset => apart (Prod.ext same sameOffset)
    rw [same, update_self, update_of_ne otherOffset, bytesOf, same]
  · rw [update_of_ne same, bytesOf]

theorem bytesOf_setPacket_self (router : Router interfaces) (buffer : FwBuffDesc interfaces)
    (packet : Packet) :
    (router.setPacket buffer.interface buffer.offset packet).bytesOf buffer = packet := by
  show update router.data buffer.interface _ buffer.interface buffer.offset = packet
  rw [update_self, update_self]

theorem mem_carried_of_inFilters (member : buffer ∈ total router.inFilters) :
    buffer ∈ router.carried waiting :=
  mem_add.mpr (Or.inl (mem_add.mpr (Or.inl member)))

theorem mem_carried_of_isWaiting (member : buffer ∈ waiting) : buffer ∈ router.carried waiting :=
  mem_add.mpr (Or.inl (mem_add.mpr (Or.inr member)))

theorem mem_carried_of_inTxActive (member : buffer ∈ router.inTxActive outInterface) :
    buffer ∈ router.carried waiting :=
  mem_add.mpr (Or.inr (mem_total.mpr ⟨outInterface, member⟩))

/-- Writing to a buffer that is nowhere changes nothing that matters. -/
theorem BytesKept.setPacket (kept : BytesKept config router waiting received)
    (apart : ∀ buffer ∈ router.carried waiting, buffer.place ≠ (interface, offset))
    (packet : Packet) :
    BytesKept config (router.setPacket interface offset packet) waiting received where
  distinct := kept.distinct
  inFilters buffer member := by
    rw [bytesOf_setPacket_of_ne _ _ (apart buffer (mem_carried_of_inFilters member))]
    exact kept.inFilters buffer member
  isWaiting buffer member := by
    rw [bytesOf_setPacket_of_ne _ _ (apart buffer (mem_carried_of_isWaiting member))]
    exact kept.isWaiting buffer member
  inTxActive outInterface buffer member := by
    rw [bytesOf_setPacket_of_ne _ _ (apart buffer (mem_carried_of_inTxActive member))]
    exact kept.inTxActive outInterface buffer member

theorem BytesKept.apart (kept : BytesKept config router (waiting + {buffer}) received) :
    ∀ other ∈ router.carried waiting, other.place ≠ buffer.place := by
  have carried : router.carried (waiting + {buffer}) = {buffer} + router.carried waiting := by
    unfold carried
    ac_rfl
  have distinct := kept.distinct
  rw [carried, singleton_add, map_cons, nodup_cons] at distinct
  exact fun other member same => distinct.1 (same ▸ mem_map_of_mem _ member)

theorem inTxActive_dequeue {queue : FwQueue (FwBuffDesc interfaces)}
    (entries : (router.txActive outInterface).entries = buffer :: queue.entries)
    (other : Fin interfaces) :
    inTxActive { router with txActive := update router.txActive outInterface queue }
      other ≤ router.inTxActive other := by
  by_cases same : other = outInterface
  · subst same
    simp only [inTxActive, update_self, entries]
    exact le_cons_self _ _
  · simp only [inTxActive, update_of_ne same]
    exact le_rfl

/-! ### The disposals keep the bytes -/

theorem transmitPacket_places
    (done : transmitPacket config router buffer macAddr outInterface = .ok next) :
    next.bytesOf = (router.setPacket buffer.interface buffer.offset (outgoingPacket config
        (router.bytesOf buffer) macAddr outInterface)).bytesOf ∧
      next.inFilters = router.inFilters ∧
      next.inTxActive outInterface = router.inTxActive outInterface + {buffer} ∧
      ∀ other, other ≠ outInterface → next.inTxActive other = router.inTxActive other := by
  obtain ⟨queue, entries, _, rfl⟩ := transmitPacket_ok done
  refine ⟨rfl, rfl, ?_, fun other different => ?_⟩
  · simp only [inTxActive, update_self, entries]
    rfl
  · simp only [inTxActive, update_of_ne different]

theorem BytesKept.transmitPacket (kept : BytesKept config router (waiting + {buffer}) received)
    (done : transmitPacket config router buffer macAddr outInterface = .ok next) :
    BytesKept config next waiting received := by
  obtain ⟨data, inFilters, here, elsewhere⟩ := transmitPacket_places done
  obtain ⟨alive, bytes⟩ := kept.isWaiting buffer (mem_add.mpr (Or.inr (mem_singleton_self buffer)))
  have others : BytesKept config router waiting received :=
    kept.mono rfl le_rfl (le_add_right _ _) fun _ => le_rfl
  have written := others.setPacket kept.apart
    (outgoingPacket config (router.bytesOf buffer) macAddr outInterface)
  have carried : next.carried waiting = router.carried (waiting + {buffer}) := by
    unfold carried
    rw [inFilters, total_add outInterface elsewhere here]
    ac_rfl
  refine ⟨carried ▸ kept.distinct, fun other member => ?_, fun other member => ?_,
    fun other found member => ?_⟩
  · rw [data]
    exact written.inFilters other (inFilters ▸ member)
  · rw [data]
    exact written.isWaiting other member
  · rw [data]
    by_cases same : other = outInterface
    · rw [same, here] at member
      rcases mem_add.mp member with before | new
      · exact same ▸ written.inTxActive outInterface found before
      · rw [mem_singleton.mp new, ← bytes, same]
        exact ⟨alive, macAddr, bytesOf_setPacket_self router buffer _⟩
    · rw [elsewhere other same] at member
      exact written.inTxActive other found member

theorem BytesKept.returnBuffer (kept : BytesKept config router waiting received)
    {buffer : NetBuffDesc} (done : router.returnBuffer interface buffer = .ok next) :
    BytesKept config next waiting received := by
  obtain ⟨queue, _, _, rfl⟩ := returnBuffer_ok done
  exact kept.mono rfl le_rfl le_rfl fun _ => le_rfl

theorem BytesKept.visitAll {buffers : List (FwBuffDesc interfaces)}
    (kept : BytesKept config router (waiting + ↑buffers) received)
    (done : buffers.foldlM (visitWaiting config outInterface response) router = .ok next) :
    BytesKept config next waiting received := by
  induction buffers generalizing router with
  | nil =>
    cases done
    exact kept.mono rfl le_rfl (le_add_right _ _) fun _ => le_rfl
  | cons buffer rest inductionHypothesis =>
    have first : waiting + ((buffer :: rest : List (FwBuffDesc interfaces)) :
        Multiset (FwBuffDesc interfaces)) = waiting + ↑rest + {buffer} := by
      rw [← cons_coe, ← singleton_add]
      ac_rfl
    rw [first] at kept
    obtain ⟨middle, visited, done⟩ := Fallible.foldlM_cons_eq_ok done
    refine inductionHypothesis ?_ done
    unfold visitWaiting at visited
    split_ifs at visited
    · refine BytesKept.returnBuffer ?_ visited
      exact kept.mono rfl le_rfl (le_add_right _ _) fun _ => le_rfl
    · exact kept.transmitPacket visited

/-! ### The rounds keep the bytes -/

/-- A buffer with more than one hop to live that was just dequeued may wait, once its time to live
is decremented. -/
theorem BytesKept.decrement (kept : BytesKept config router waiting received)
    (distinct : ((router.carried (waiting + {buffer})).map FwBuffDesc.place).Nodup)
    (apart : ∀ other ∈ router.carried waiting, other.place ≠ buffer.place)
    (bytes : router.bytesOf buffer = received buffer.interface buffer.offset)
    (alive : 1 < (router.bytesOf buffer).ttl) :
    BytesKept config (router.setPacket buffer.interface buffer.offset
      (router.bytesOf buffer).decremented) (waiting + {buffer}) received := by
  have written := kept.setPacket apart (router.bytesOf buffer).decremented
  refine ⟨distinct, written.inFilters, fun other member => ?_, written.inTxActive⟩
  rcases mem_add.mp member with before | new
  · exact written.isWaiting other before
  · rw [mem_singleton.mp new, ← bytes]
    exact ⟨alive, bytesOf_setPacket_self router buffer _⟩

theorem parkPacket_places {nextHop : UInt32T} (sound : router.WaitingSound)
    (done : router.parkPacket buffer nextHop outInterface = .ok next) :
    total next.isWaiting = total router.isWaiting + {buffer} ∧
      next.data = router.data ∧ next.inFilters = router.inFilters ∧
      next.inTxActive = router.inTxActive := by
  rcases parkPacket_ok done with ⟨root, waiting, found, pushed, rfl⟩ | ⟨request, queue, waiting,
    absent, _, _, _, pushed, rfl⟩
  · exact ⟨waiting_changed ((sound outInterface).pushChild_buffers found pushed), rfl, rfl, rfl⟩
  · exact ⟨waiting_changed ((sound outInterface).push_buffers absent pushed), rfl, rfl, rfl⟩

/-- Routing a buffer that holds its packet as received keeps the bytes of all places. -/
theorem BytesKept.routePacket (sound : router.WaitingSound) {buffer : NetBuffDesc}
    (kept : BytesKept config router (total router.isWaiting) received)
    (distinct : ((router.carried (total router.isWaiting +
      {buffer.tagged interface})).map FwBuffDesc.place).Nodup)
    (apart : ∀ other ∈ router.carried (total router.isWaiting),
      other.place ≠ (interface, buffer.ioOrOffset))
    (bytes : router.data interface buffer.ioOrOffset = received interface buffer.ioOrOffset)
    (done : routePacket config router interface buffer = .ok next) :
    BytesKept config next (total next.isWaiting) received := by
  obtain ⟨routed, outcome, result⟩ := routeOutcome_of_eq done
  cases outcome with
  | returned icmpQueue notifyIcmp packet =>
    have written := kept.setPacket apart packet
    obtain ⟨queue, _, _, rfl⟩ := returnBuffer_ok result
    exact written.mono rfl le_rfl le_rfl fun _ => le_rfl
  | webserver forWebserver =>
    obtain ⟨queue, _, _, rfl⟩ := transmitWebserver_ok result
    exact kept.mono rfl le_rfl le_rfl fun _ => le_rfl
  | parked outInterface nextHop alive mayPark =>
    have decremented := kept.decrement distinct apart bytes alive
    have prepared : (router.setPacket interface buffer.ioOrOffset
        (router.data interface buffer.ioOrOffset).decremented).WaitingSound := sound
    obtain ⟨isWaiting, data, inFilters, inTxActive⟩ := parkPacket_places prepared result
    rw [isWaiting]
    exact decremented.mono data (inFilters ▸ le_rfl) le_rfl fun _ => inTxActive ▸ le_rfl
  | transmitted outInterface macAddr forNextHop =>
    have sent := (kept.decrement distinct apart bytes forNextHop.alive).transmitPacket result
    have isWaiting : next.isWaiting = router.isWaiting := by
      funext other
      rw [Router.isWaiting, transmitPacket_keeps _ _ _ _ _ result]
      rfl
    rw [isWaiting]
    exact sent

theorem BytesKept.processArpResponse (sound : router.WaitingSound)
    (kept : BytesKept config router (total router.isWaiting) received)
    (done : processArpResponse config router outInterface response = .ok next) :
    BytesKept config next (total next.isWaiting) received := by
  have formed := sound outInterface
  rcases processArpResponse_ok formed done with ⟨_, rfl⟩ | ⟨root, resolved, found, visited, rfl⟩
  · exact kept
  · rw [freeParent_isWaiting formed found (visitAll_disposed visited).2] at kept
    exact (kept.visitAll visited).mono rfl le_rfl le_rfl fun _ => le_rfl

/-- Handing over a fresh buffer keeps the bytes of all places. -/
theorem BytesKept.arrive (kept : BytesKept config router waiting received) {buffer : NetBuffDesc}
    (entries : queue.entries = (router.fwFilters interface filter).entries ++ [buffer])
    (apart : ∀ other ∈ router.carried waiting, other.place ≠ (interface, buffer.ioOrOffset))
    (packet : Packet) :
    BytesKept config ((router.setPacket interface buffer.ioOrOffset packet).setFilter interface
      filter queue) waiting (update received interface
        (update (received interface) buffer.ioOrOffset packet)) := by
  have written := kept.setPacket apart packet
  have arrived : total ((router.setPacket interface buffer.ioOrOffset packet).setFilter
      interface filter queue).inFilters =
      total router.inFilters + {buffer.tagged interface} :=
    total_inFilters_enqueue entries
  have carried : ((router.setPacket interface buffer.ioOrOffset packet).setFilter interface filter
      queue).carried waiting = {buffer.tagged interface} + router.carried waiting := by
    unfold carried
    rw [arrived]
    ac_rfl
  have sameReceived : ∀ other ∈ router.carried waiting,
      update received interface (update (received interface) buffer.ioOrOffset
        packet) other.interface other.offset = received other.interface other.offset := by
    intro other member
    by_cases same : other.interface = interface
    · have otherOffset : other.offset ≠ buffer.ioOrOffset :=
        fun sameOffset => apart other member (Prod.ext same sameOffset)
      rw [same, update_self, update_of_ne otherOffset]
    · rw [update_of_ne same]
  refine ⟨?_, fun other member => ?_, fun other member => ?_, fun outInterface other member => ?_⟩
  · rw [carried, singleton_add, map_cons, nodup_cons]
    refine ⟨fun member => ?_, kept.distinct⟩
    obtain ⟨other, otherIn, same⟩ := mem_map.mp member
    exact apart other otherIn same
  · rw [arrived] at member
    rcases mem_add.mp member with before | new
    · rw [sameReceived other (mem_carried_of_inFilters before)]
      exact written.inFilters other before
    · rw [mem_singleton.mp new]
      refine (bytesOf_setPacket_self router (buffer.tagged interface) packet).trans ?_
      show packet = update received interface (update (received interface)
        buffer.ioOrOffset packet) interface buffer.ioOrOffset
      rw [update_self, update_self]
  · rw [sameReceived other (mem_carried_of_isWaiting member)]
    exact written.isWaiting other member
  · rw [sameReceived other (mem_carried_of_inTxActive member)]
    exact written.inTxActive outInterface other member

end Router

namespace RouterSystem

variable {config : FwRouterConfig interfaces} {system next : RouterSystem interfaces}
  {event : RouterEvent interfaces}

/-! ### Runs keep the bytes -/

/-- Every buffer holds what its place says. -/
def KeepsBytes (config : FwRouterConfig interfaces) (system : RouterSystem interfaces) : Prop :=
  Router.BytesKept config system.router (total system.router.isWaiting) system.received

theorem carried_le_everywhere (system : RouterSystem interfaces) :
    system.router.carried (total system.router.isWaiting) ≤ system.everywhere := by
  have disposed : system.router.disposed =
      total system.router.isWaiting + total system.router.inTxActive +
        (total system.router.inRxFree + system.router.inWebserver) := by
    unfold disposed
    ac_rfl
  rw [carried, everywhere, disposed, add_assoc]
  exact le_trans (add_le_add le_rfl (le_add_right _ _)) (le_add_right _ _)

theorem Initial.keepsBytes (initial : system.Initial) : system.KeepsBytes config := by
  have nothing : system.router.carried (total system.router.isWaiting) = 0 :=
    le_zero.mp (initial.everywhere ▸ carried_le_everywhere system)
  have nowhere : ∀ buffer, buffer ∉ system.router.carried (total system.router.isWaiting) :=
    fun buffer member => notMem_zero buffer (nothing ▸ member)
  refine ⟨by rw [nothing]; exact nodup_zero, fun buffer member => ?_,
    fun buffer member => ?_, fun outInterface buffer member => ?_⟩
  · exact absurd (mem_carried_of_inFilters member) (nowhere buffer)
  · exact absurd (mem_carried_of_isWaiting member) (nowhere buffer)
  · exact absurd (mem_carried_of_inTxActive member) (nowhere buffer)

/-- Routing the next buffer of a filter queue keeps the bytes of all places. -/
theorem KeepsBytes.route (keeps : system.KeepsBytes config) (sound : system.router.WaitingSound)
    {buffer : NetBuffDesc}
    (entries : (system.router.fwFilters interface filter).entries = buffer :: queue.entries)
    {router : Router interfaces}
    (routed : Router.routePacket config (system.router.setFilter interface filter queue) interface
      buffer = .ok router) :
    Router.BytesKept config router (total router.isWaiting) system.received := by
  have filters := Router.total_inFilters_dequeue entries
  have carried : system.router.carried (total system.router.isWaiting) =
      (system.router.setFilter interface filter queue).carried
        (total system.router.isWaiting + {buffer.tagged interface}) := by
    unfold Router.carried
    rw [filters, add_right_comm _ {_}, ← add_assoc]
    rfl
  have inHand : buffer.tagged interface ∈ total system.router.inFilters := by
    rw [filters]
    exact mem_add.mpr (Or.inr (mem_singleton_self _))
  have distinct := keeps.distinct
  rw [carried] at distinct
  have rest : Router.BytesKept config (system.router.setFilter interface filter queue)
      (total system.router.isWaiting) system.received :=
    keeps.mono rfl (filters ▸ le_add_right _ _) le_rfl fun _ => le_rfl
  refine Router.BytesKept.routePacket ?_ rest distinct ?_ (keeps.inFilters _ inHand) routed
  · exact sound
  · have apart : (system.router.setFilter interface filter queue).carried
        (total system.router.isWaiting + {buffer.tagged interface}) =
        {buffer.tagged interface} + (system.router.setFilter interface filter queue).carried
          (total system.router.isWaiting) := by
      unfold Router.carried
      ac_rfl
    rw [apart, singleton_add, map_cons, nodup_cons] at distinct
    intro other member same
    have samePlace : (buffer.tagged interface).place = other.place := same.symm
    exact distinct.1 (samePlace ▸ mem_map_of_mem _ member)

theorem step_keepsBytes (keeps : system.KeepsBytes config) (sound : system.router.WaitingSound)
    (fresh : system.Fresh event) (step : RouterStep config system event next) :
    next.KeepsBytes config := by
  obtain ⟨result, performed, outcome⟩ := performs_of_eq step
  cases performed with
  | arrive queue entries capacity =>
    cases outcome
    refine Router.BytesKept.arrive keeps entries (fun other member same => fresh ?_) _
    rw [← same]
    exact mem_map_of_mem _ (mem_of_le (carried_le_everywhere system) member)
  | route buffer queue entries capacity =>
    obtain ⟨router, routed, rfl⟩ := Fallible.map_eq_ok outcome
    exact keeps.route sound entries routed
  | respond response queue dequeued =>
    obtain ⟨router, resolved, rfl⟩ := Fallible.map_eq_ok outcome
    refine Router.BytesKept.processArpResponse ?_ ?_ resolved
    · exact sound
    · exact keeps.mono rfl le_rfl le_rfl fun _ => le_rfl
  | takeTxActive buffer queue entries capacity =>
    cases outcome
    exact keeps.mono rfl le_rfl le_rfl (inTxActive_dequeue entries)
  | _ =>
    cases outcome
    exact keeps.mono rfl le_rfl le_rfl fun _ => le_rfl

end RouterSystem

/-- Every packet in a transmit queue, whether it went there at once or waited for an ARP response
first, is the packet the filter handed over with its Ethernet addresses rewritten, its time to live
decremented once, and its header checksum calculated. -/
theorem transmitted_packets_forwarded {config : FwRouterConfig interfaces}
    {start system : RouterSystem interfaces} {events : List (RouterEvent interfaces)}
    (initial : start.Initial)
    (run : Run (Guarded RouterSystem.Fresh (RouterStep config)) start events system) :
    ∀ outInterface, ∀ buffer ∈ (system.router.txActive outInterface).entries,
      Forwarded config (system.received buffer.interface buffer.offset)
        (system.router.data buffer.interface buffer.offset) := by
  obtain ⟨_, keeps⟩ := run.invariant (fun system => system.Balanced ∧ system.KeepsBytes config)
    ⟨initial.balanced, initial.keepsBytes⟩ fun _ _ _ holds step =>
      ⟨(step_balanced holds.1 step.2).1, step_keepsBytes holds.2 holds.1.waitingSound step.1 step.2⟩
  intro outInterface buffer member
  obtain ⟨alive, macAddr, bytes⟩ :=
    keeps.inTxActive outInterface buffer (mem_coe.mpr member)
  have sent : system.router.data buffer.interface buffer.offset = _ := bytes
  rw [sent]
  exact forwarded_outgoingPacket alive macAddr outInterface

/-! ### A forwarded packet -/

/-- A packet to 10.0.0.2 with 64 hops to live. -/
def forwardedPacket : Packet := fun i =>
  if i = 12 then 0x08 else if i = 14 then 0x45 else if i = 22 then 64 else
    if i = 30 then 10 else if i = 33 then 2 else 0

/-- Everything in 10.0.0.0/24 is on the one interface. -/
def sampleRoutes : List (FwRoutingEntry 1) :=
  [{ ip := 0x0000000a, subnet := 24, interface := 0, nextHop := fwRoutingNonexthop }]

/-- The address 10.0.0.2 is resolved. -/
def sampleArpTable : List FwArpEntry :=
  [{ state := .reachable, ip := 0x0200000a, macAddr := fun _ => 1, client := 1, numRetries := 0 }]

theorem forwardedPacket_forNextHop {router : Router 1}
    (data : router.data 0 0 = forwardedPacket) (routes : router.routingTable = sampleRoutes)
    (arp : router.arpTable 0 = sampleArpTable) :
    Router.ForNextHop (sampleConfig 1) router 0 sampleBuffer 0 fun _ => 1 where
  routable := data ▸ ⟨by decide, by decide⟩
  notMine := data ▸ (by decide : forwardedPacket.dstIp ≠ 0)
  alive := data ▸ (by decide : 1 < forwardedPacket.ttl)
  resolved := by
    have dstIp : (router.data 0 sampleBuffer.ioOrOffset).dstIp = 0x0200000a :=
      data ▸ (by decide : forwardedPacket.dstIp = 0x0200000a)
    rw [dstIp, routes]
    refine ⟨0x0200000a, 24, sampleArpTable.getD 0 FwArpEntry.zeroed, rfl, by decide, by decide, ?_,
      by decide, by decide, rfl⟩
    rw [arpEntry, arp]
    rfl

theorem route_forwardedPacket {system : RouterSystem 1}
    (dequeued : fwDequeue (system.router.fwFilters 0 sampleFilter) = some (sampleBuffer, queue))
    (data : system.router.data 0 0 = forwardedPacket)
    (routes : system.router.routingTable = sampleRoutes)
    (arp : system.router.arpTable 0 = sampleArpTable) :
    system.perform (sampleConfig 1) (.route 0 sampleFilter) = some ((transmitPacket (sampleConfig 1)
        ((system.router.setFilter 0 sampleFilter queue).setPacket 0 0
          (system.router.data 0 0).decremented)
        (sampleBuffer.tagged 0) (fun _ => 1) 0).map fun router =>
          { system with router, dequeued := system.dequeued + {sampleBuffer.tagged 0} }) := by
  have forNextHop : Router.ForNextHop (sampleConfig 1)
      (system.router.setFilter 0 sampleFilter queue) 0 sampleBuffer 0 fun _ => 1 :=
    forwardedPacket_forNextHop data routes arp
  rw [perform_route dequeued, forNextHop.routePacket_eq]
  rfl

theorem transmitted_packets_forwarded_sample :
    ∃ system, Run (Guarded RouterSystem.Fresh (RouterStep (sampleConfig 1))) (idle 1 1)
        [.changeRoutes sampleRoutes, .arp 0 sampleArpTable (FwQueue.empty 1) (FwQueue.empty 1),
          .arrive 0 sampleFilter sampleBuffer forwardedPacket, .route 0 sampleFilter] system ∧
      sampleBuffer.tagged 0 ∈ (system.router.txActive 0).entries ∧
      Forwarded (sampleConfig 1) forwardedPacket (system.router.data 0 0) := by
  have initial := idle_initial 1 1
  obtain ⟨routable, resolved, arrived, system, step₁, step₂, step₃, step₄, sent, received⟩ :
      ∃ routable resolved arrived system,
        RouterStep (sampleConfig 1) (idle 1 1) (.changeRoutes sampleRoutes) routable ∧
        RouterStep (sampleConfig 1) routable
          (.arp 0 sampleArpTable (FwQueue.empty 1) (FwQueue.empty 1)) resolved ∧
        RouterStep (sampleConfig 1) resolved
          (.arrive 0 sampleFilter sampleBuffer forwardedPacket) arrived ∧
        RouterStep (sampleConfig 1) arrived (.route 0 sampleFilter) system ∧
        sampleBuffer.tagged 0 ∈ (system.router.txActive 0).entries ∧
        system.received 0 0 = forwardedPacket :=
    ⟨_, _, _, _, rfl, rfl, rfl, route_forwardedPacket rfl rfl rfl rfl,
      List.mem_singleton_self _, rfl⟩
  have empty₁ := step_everywhere_eq_zero initial.balanced step₁ rfl initial.everywhere
  have balanced := (step_balanced initial.balanced step₁).1
  have empty₂ := step_everywhere_eq_zero balanced step₂ rfl empty₁
  have fresh : resolved.Fresh (.arrive 0 sampleFilter sampleBuffer forwardedPacket) := by
    show ((0 : Fin 1), 0) ∉ resolved.everywhere.map FwBuffDesc.place
    rw [empty₂]
    exact notMem_zero _
  have run₁ : Run (Guarded RouterSystem.Fresh (RouterStep (sampleConfig 1)))
      (idle 1 1) [.changeRoutes sampleRoutes] routable :=
    Run.single ⟨trivial, step₁⟩
  have run₂ : Run (Guarded RouterSystem.Fresh (RouterStep (sampleConfig 1)))
      (idle 1 1) [.changeRoutes sampleRoutes,
        .arp 0 sampleArpTable (FwQueue.empty 1) (FwQueue.empty 1)] resolved :=
    run₁.snoc ⟨trivial, step₂⟩
  have run : Run (Guarded RouterSystem.Fresh (RouterStep (sampleConfig 1)))
      (idle 1 1) [.changeRoutes sampleRoutes,
        .arp 0 sampleArpTable (FwQueue.empty 1) (FwQueue.empty 1),
        .arrive 0 sampleFilter sampleBuffer forwardedPacket, .route 0 sampleFilter] system :=
    (run₂.snoc ⟨fresh, step₃⟩).snoc ⟨trivial, step₄⟩
  have forwarded := transmitted_packets_forwarded initial run 0 _ sent
  exact ⟨system, run, sent, received ▸ forwarded⟩

end LionsOS.Firewall

/-
This file says what one round of the router can do. A dequeued buffer ends in
one of four ways: returned to the pool it came from, handed to the webserver,
parked for an unresolved next hop, or transmitted; only the bytes of that buffer
change on the way, and a packet that is parked or transmitted has had its time
to live decremented once. An ARP response visits exactly the buffers that wait
for its address.
-/

import LionsOS.Firewall.Router
import LionsOS.Firewall.WaitingMap
import LionsOS.Lib.Fallible

open Function

namespace LionsOS.Firewall

variable {interfaces : Nat} {macAddr : MacAddr}

/-- The buffer of a filter queue, tagged with the interface it was received on. -/
def NetBuffDesc.tagged (buffer : NetBuffDesc) (interface : Fin interfaces) :
    FwBuffDesc interfaces :=
  { offset := buffer.ioOrOffset, len := buffer.len, interface }

/-- The packet with its time to live decremented. -/
def Packet.decremented (packet : Packet) : Packet :=
  packet.store8 Packet.ttlOffset (packet.ttl - 1)

namespace Router

variable (config : FwRouterConfig interfaces) (router : Router interfaces)

variable {buffer : NetBuffDesc} {interface outInterface : Fin interfaces} {nextHop : UInt32T}
  {response : FwArpRequest}

theorem setPacket_self (interface : Fin interfaces) (offset : Nat) :
    router.setPacket interface offset (router.data interface offset) = router := by
  unfold setPacket
  rw [update_eq_self, update_eq_self]

theorem setPacket_routingTable (interface : Fin interfaces) (offset : Nat) (packet : Packet) :
    (router.setPacket interface offset packet).routingTable = router.routingTable := rfl

/-- The next hop is not resolved, and there is room to wait for it. -/
structure MayPark (outInterface : Fin interfaces) (nextHop : UInt32T) : Prop where
  room : pktWaitingFull (router.pktWaitingQueue outInterface) = false
  unresolved : ∀ arp, router.arpEntry outInterface nextHop = some arp → arp.state = .pending
  requestRoom : router.arpEntry outInterface nextHop = none →
    fwQueueFull (router.arpReqQueue outInterface) = false

/-- A packet that is neither dropped as broadcast or multicast traffic, nor for not being IPv4. -/
structure Routable (packet : Packet) : Prop where
  unicast : ¬ (packet.dstIp = broadcastIpAddr ∨ packet.ethdstAddr = broadcastMacAddr ∨
    packet.dstIp &&& multicastIpMask = multicastIpAddr)
  ethtype : packet.ethtype = htons ethTypeIp

/-- The buffer holds webserver traffic for the firewall. -/
structure ForWebserver (interface : Fin interfaces) (buffer : NetBuffDesc) : Prop where
  routable : Routable (router.data interface buffer.ioOrOffset)
  mine : (router.data interface buffer.ioOrOffset).dstIp = (config.interface interface).ip
  web : (router.data interface buffer.ioOrOffset).protocol = ipv4ProtoTcp ∧
    (router.data interface buffer.ioOrOffset).load16
      ((transportLayerOffset (router.data interface buffer.ioOrOffset)).toNat + tcpDstPortOffset) =
        htons webserverPort

/-- The buffer holds a packet whose next hop is resolved. -/
structure ForNextHop (interface : Fin interfaces) (buffer : NetBuffDesc)
    (outInterface : Fin interfaces) (macAddr : MacAddr) : Prop where
  routable : Routable (router.data interface buffer.ioOrOffset)
  notMine : (router.data interface buffer.ioOrOffset).dstIp ≠ (config.interface interface).ip
  alive : 1 < (router.data interface buffer.ioOrOffset).ttl
  resolved : ∃ nextHop subnet arp,
    fwRoutingFindRoute router.routingTable (router.data interface buffer.ioOrOffset).dstIp =
      (nextHop, some (subnet, outInterface)) ∧
    ¬ (nextHop = fwRoutingNonexthop ∨ nextHop = (config.interface outInterface).ip) ∧
    ~~~ subnetMask subnet ||| nextHop ≠ (router.data interface buffer.ioOrOffset).dstIp ∧
    router.arpEntry outInterface nextHop = some arp ∧
    arp.state ≠ .unreachable ∧ arp.state ≠ .pending ∧ arp.macAddr = macAddr

/-- The ways in which `route` disposes of a buffer, with what comes of each. -/
inductive RouteOutcome (interface : Fin interfaces) (buffer : NetBuffDesc) :
    Except RouterAssertion (Router interfaces) → Prop
  | returned (icmpQueue : FwQueue (IcmpReq interfaces)) (notifyIcmp : Bool) (packet : Packet) :
    RouteOutcome interface buffer
      (({ router with icmpQueue, notifyIcmp }.setPacket interface buffer.ioOrOffset
        packet).returnBuffer interface buffer)
  | webserver (forWebserver : ForWebserver config router interface buffer) :
    RouteOutcome interface buffer (router.transmitWebserver (buffer.tagged interface))
  | parked (outInterface : Fin interfaces) (nextHop : UInt32T)
    (alive : 1 < (router.data interface buffer.ioOrOffset).ttl)
    (mayPark : router.MayPark outInterface nextHop) :
    RouteOutcome interface buffer
      ((router.setPacket interface buffer.ioOrOffset
        (router.data interface buffer.ioOrOffset).decremented).parkPacket
          (buffer.tagged interface) nextHop outInterface)
  | transmitted (outInterface : Fin interfaces) (macAddr : MacAddr)
    (forNextHop : ForNextHop config router interface buffer outInterface macAddr) :
    RouteOutcome interface buffer
      (transmitPacket config (router.setPacket interface buffer.ioOrOffset
        (router.data interface buffer.ioOrOffset).decremented)
          (buffer.tagged interface) macAddr outInterface)

open RouteOutcome

variable {config router}

theorem RouteOutcome.returned_unchanged (icmpQueue : FwQueue (IcmpReq interfaces))
    (notifyIcmp : Bool) :
    RouteOutcome config router interface buffer
      ({ router with icmpQueue, notifyIcmp }.returnBuffer interface buffer) := by
  have outcome := @returned interfaces config router interface buffer icmpQueue
    notifyIcmp (router.data interface buffer.ioOrOffset)
  have same : ({ router with icmpQueue, notifyIcmp } : Router interfaces).setPacket interface
      buffer.ioOrOffset (router.data interface buffer.ioOrOffset) =
      { router with icmpQueue, notifyIcmp } :=
    setPacket_self { router with icmpQueue, notifyIcmp } interface buffer.ioOrOffset
  rw [same] at outcome
  exact outcome

theorem RouteOutcome.returned_asIs :
    RouteOutcome config router interface buffer (router.returnBuffer interface buffer) :=
  returned_unchanged router.icmpQueue router.notifyIcmp

theorem RouteOutcome.returned_decremented :
    RouteOutcome config router interface buffer
      ((router.setPacket interface buffer.ioOrOffset
        (router.data interface buffer.ioOrOffset).decremented).returnBuffer interface buffer) :=
  returned router.icmpQueue router.notifyIcmp _

theorem RouteOutcome.returned_unreachable (nextHop : UInt32T) :
    RouteOutcome config router interface buffer
      (((router.setPacket interface buffer.ioOrOffset
        (router.data interface buffer.ioOrOffset).decremented).enqueueIcmpUnreachable
          (buffer.tagged interface) nextHop).returnBuffer interface buffer) :=
  let reported := (router.setPacket interface buffer.ioOrOffset
    (router.data interface buffer.ioOrOffset).decremented).enqueueIcmpUnreachable
      (buffer.tagged interface) nextHop
  returned reported.icmpQueue reported.notifyIcmp
    (router.data interface buffer.ioOrOffset).decremented

theorem forwardPacket_outcome (alive : 1 < (router.data interface buffer.ioOrOffset).ttl)
    (nextHop : UInt32T) (outInterface : Fin interfaces)
    (forNextHop : ∀ arp, router.arpEntry outInterface nextHop = some arp →
      arp.state ≠ .unreachable → arp.state ≠ .pending →
      ForNextHop config router interface buffer outInterface arp.macAddr) :
    RouteOutcome config router interface buffer
      (forwardPacket config (router.setPacket interface buffer.ioOrOffset
        (router.data interface buffer.ioOrOffset).decremented) interface buffer nextHop
          outInterface) := by
  have sameEntry : (router.setPacket interface buffer.ioOrOffset
      (router.data interface buffer.ioOrOffset).decremented).arpEntry outInterface nextHop =
      router.arpEntry outInterface nextHop := rfl
  unfold forwardPacket
  rw [sameEntry]
  cases entry : router.arpEntry outInterface nextHop with
  | none =>
    dsimp only
    split_ifs with full
    · exact returned_decremented
    · rw [not_or, Bool.not_eq_true, Bool.not_eq_true] at full
      exact parked outInterface nextHop alive
        ⟨full.1, fun arp found => by simp [entry] at found, fun _ => full.2⟩
  | some arp =>
    dsimp only
    split_ifs with unreachable pending full
    · exact returned_unreachable nextHop
    · exact returned_decremented
    · refine parked outInterface nextHop alive
        ⟨Bool.eq_false_iff.mpr full, fun other found => ?_, fun none => ?_⟩
      · rw [entry, Option.some.injEq] at found
        exact found ▸ pending
      · rw [entry] at none
        cases none
    · exact transmitted outInterface arp.macAddr (forNextHop arp entry unreachable pending)

/-- `route` disposes of every buffer in one of the four ways. -/
theorem routePacket_outcome (config : FwRouterConfig interfaces) (router : Router interfaces)
    (interface : Fin interfaces) (buffer : NetBuffDesc) :
    RouteOutcome config router interface buffer (routePacket config router interface buffer) := by
  unfold routePacket
  dsimp only
  split_ifs with broadcast ethtype mine expired
  · exact RouteOutcome.returned_asIs
  · exact RouteOutcome.returned_asIs
  · unfold routeToFirewall
    dsimp only
    split_ifs with web
    · exact RouteOutcome.webserver ⟨⟨broadcast, not_not.mp ethtype⟩, mine, web⟩
    · exact RouteOutcome.returned_unchanged _ _
    · exact RouteOutcome.returned_asIs
  · exact RouteOutcome.returned_unchanged _ _
  · have alive : 1 < (router.data interface buffer.ioOrOffset).ttl := BitVec.not_le.mp expired
    rw [setPacket_routingTable]
    rcases route : fwRoutingFindRoute router.routingTable
      (router.data interface buffer.ioOrOffset).dstIp with ⟨nextHop, _ | ⟨subnet, outInterface⟩⟩
    · exact RouteOutcome.returned_unreachable nextHop
    · dsimp only
      split_ifs with noHop subnetBroadcast
      · exact RouteOutcome.returned_unreachable nextHop
      · exact RouteOutcome.returned_decremented
      · exact forwardPacket_outcome alive nextHop outInterface
          fun arp found reachable settled => ⟨⟨broadcast, not_not.mp ethtype⟩, mine, alive, nextHop,
            subnet, arp, route, noHop, subnetBroadcast, found, reachable, settled, rfl⟩

/-- A call of `route` that ended in some way has disposed of its buffer in one of the four. -/
theorem routeOutcome_of_eq {result : Except RouterAssertion (Router interfaces)}
    (ended : routePacket config router interface buffer = result) :
    ∃ routed, RouteOutcome config router interface buffer routed ∧ routed = result :=
  ⟨_, routePacket_outcome config router interface buffer, ended⟩

theorem ForWebserver.routePacket_eq (forWebserver : ForWebserver config router interface buffer) :
    routePacket config router interface buffer =
      router.transmitWebserver (buffer.tagged interface) := by
  unfold routePacket routeToFirewall
  rw [if_neg forWebserver.routable.unicast, if_neg (not_not.mpr forWebserver.routable.ethtype),
    if_pos forWebserver.mine, if_pos forWebserver.web]
  rfl

/-- A packet with a next hop other than the firewall is forwarded, with its time to live
decremented. -/
theorem Routable.routePacket_eq (routable : Routable (router.data interface buffer.ioOrOffset))
    (notMine : (router.data interface buffer.ioOrOffset).dstIp ≠ (config.interface interface).ip)
    (alive : 1 < (router.data interface buffer.ioOrOffset).ttl) {subnet : UInt8T}
    (route : fwRoutingFindRoute router.routingTable
      (router.data interface buffer.ioOrOffset).dstIp = (nextHop, some (subnet, outInterface)))
    (hop : ¬ (nextHop = fwRoutingNonexthop ∨ nextHop = (config.interface outInterface).ip))
    (notBroadcast : ~~~ subnetMask subnet ||| nextHop ≠
      (router.data interface buffer.ioOrOffset).dstIp) :
    routePacket config router interface buffer =
      forwardPacket config (router.setPacket interface buffer.ioOrOffset
        (router.data interface buffer.ioOrOffset).decremented) interface buffer nextHop
          outInterface := by
  unfold routePacket
  dsimp only
  rw [if_neg routable.unicast, if_neg (not_not.mpr routable.ethtype), if_neg notMine,
    if_neg (BitVec.not_le.mpr alive), setPacket_routingTable, route]
  dsimp only
  rw [if_neg hop, if_neg notBroadcast]
  rfl

theorem ForNextHop.routePacket_eq
    (forNextHop : ForNextHop config router interface buffer outInterface macAddr) :
    routePacket config router interface buffer =
      transmitPacket config (router.setPacket interface buffer.ioOrOffset
        (router.data interface buffer.ioOrOffset).decremented)
          (buffer.tagged interface) macAddr outInterface := by
  obtain ⟨nextHop, subnet, arp, route, hop, notBroadcast, entry, reachable, settled, rfl⟩ :=
    forNextHop.resolved
  have sameEntry : (router.setPacket interface buffer.ioOrOffset
      (router.data interface buffer.ioOrOffset).decremented).arpEntry outInterface nextHop =
      some arp := entry
  rw [forNextHop.routable.routePacket_eq forNextHop.notMine forNextHop.alive route hop notBroadcast]
  unfold forwardPacket
  rw [sameEntry]
  dsimp only
  rw [if_neg reachable, if_neg settled]
  rfl

/-- A packet is parked if the ARP table has nothing about its next hop and there is room. -/
theorem forwardPacket_unresolved (unresolved : router.arpEntry outInterface nextHop = none)
    (room : pktWaitingFull (router.pktWaitingQueue outInterface) = false)
    (requestRoom : fwQueueFull (router.arpReqQueue outInterface) = false) :
    forwardPacket config router interface buffer nextHop outInterface =
      router.parkPacket (buffer.tagged interface) nextHop outInterface := by
  unfold forwardPacket
  rw [unresolved]
  rw [room, requestRoom]
  rfl

/-! ### What a successful disposal does -/

variable {next : Router interfaces}

/-- Where the router adds to a queue, an assertion fails if the queue is full. -/
def enqueueOr {Entry : Type} (assertion : RouterAssertion) (queue : FwQueue Entry) (entry : Entry)
    (rest : FwQueue Entry → Router interfaces) : Except RouterAssertion (Router interfaces) :=
  match fwEnqueue queue entry with
  | none => .error assertion
  | some queue => .ok (rest queue)

section Enqueueing

variable {Entry : Type} {assertion failed : RouterAssertion} {queue : FwQueue Entry}
  {entry : Entry} {rest : FwQueue Entry → Router interfaces}

theorem enqueueOr_ok (done : enqueueOr assertion queue entry rest = .ok next) :
    ∃ added, added.entries = queue.entries ++ [entry] ∧ added.capacity = queue.capacity ∧
      next = rest added := by
  unfold enqueueOr at done
  cases enqueued : fwEnqueue queue entry with
  | none =>
    rw [enqueued] at done
    cases done
  | some added =>
    rw [enqueued] at done
    cases done
    obtain ⟨entries, capacity⟩ := fwEnqueue_eq_some.mp enqueued
    exact ⟨added, entries, capacity, rfl⟩

theorem enqueueOr_eq_error : enqueueOr assertion queue entry rest = .error failed ↔
    failed = assertion ∧ queue.entries.length = queue.capacity := by
  unfold enqueueOr
  cases enqueued : fwEnqueue queue entry with
  | none => simp [fwEnqueue_eq_none.mp enqueued, eq_comm]
  | some added =>
    refine iff_of_false (by simp) fun full => ?_
    rw [fwEnqueue_eq_none.mpr full.2] at enqueued
    cases enqueued

end Enqueueing

theorem returnBuffer_eq (router : Router interfaces) (interface : Fin interfaces)
    (buffer : NetBuffDesc) : router.returnBuffer interface buffer =
      enqueueOr .rxFreeEnqueued (router.rxFree interface) buffer fun queue =>
        { router with
          rxFree := update router.rxFree interface queue
          returned := update router.returned interface true } := by
  unfold returnBuffer enqueueOr
  cases fwEnqueue (router.rxFree interface) buffer <;> rfl

theorem transmitPacket_eq (config : FwRouterConfig interfaces) (router : Router interfaces)
    (buffer : FwBuffDesc interfaces) (macAddr : MacAddr) (outInterface : Fin interfaces) :
    transmitPacket config router buffer macAddr outInterface =
      enqueueOr .txActiveEnqueued (router.txActive outInterface) buffer fun queue =>
        { router.setPacket buffer.interface buffer.offset (outgoingPacket config
            (router.data buffer.interface buffer.offset) macAddr outInterface) with
          txActive := update router.txActive outInterface queue
          txNet := update router.txNet outInterface true } := by
  have sameQueue : ∀ packet, (router.setPacket buffer.interface buffer.offset packet).txActive =
      router.txActive := fun _ => rfl
  unfold transmitPacket enqueueOr
  dsimp only
  rw [sameQueue]
  cases fwEnqueue (router.txActive outInterface) buffer <;> rfl

theorem transmitWebserver_eq (router : Router interfaces) (buffer : FwBuffDesc interfaces) :
    router.transmitWebserver buffer =
      enqueueOr .webserverEnqueued router.webserver buffer fun queue =>
        { router with webserver := queue, txWebserver := true } := by
  unfold transmitWebserver enqueueOr
  cases fwEnqueue router.webserver buffer <;> rfl

theorem returnBuffer_ok (done : router.returnBuffer interface buffer = .ok next) :
    ∃ queue, queue.entries = (router.rxFree interface).entries ++ [buffer] ∧
      queue.capacity = (router.rxFree interface).capacity ∧
      next = { router with
        rxFree := update router.rxFree interface queue
        returned := update router.returned interface true } := by
  rw [returnBuffer_eq] at done
  exact enqueueOr_ok done

theorem transmitPacket_ok {buffer : FwBuffDesc interfaces}
    (done : transmitPacket config router buffer macAddr outInterface = .ok next) :
    ∃ queue, queue.entries = (router.txActive outInterface).entries ++ [buffer] ∧
      queue.capacity = (router.txActive outInterface).capacity ∧
      next = { router.setPacket buffer.interface buffer.offset (outgoingPacket config
          (router.data buffer.interface buffer.offset) macAddr outInterface) with
        txActive := update router.txActive outInterface queue
        txNet := update router.txNet outInterface true } := by
  rw [transmitPacket_eq] at done
  exact enqueueOr_ok done

theorem transmitWebserver_ok {buffer : FwBuffDesc interfaces}
    (done : router.transmitWebserver buffer = .ok next) :
    ∃ queue, queue.entries = router.webserver.entries ++ [buffer] ∧
      queue.capacity = router.webserver.capacity ∧
      next = { router with webserver := queue, txWebserver := true } := by
  rw [transmitWebserver_eq] at done
  exact enqueueOr_ok done

/-- Parking a buffer puts it behind the others of its next hop, or starts a new root and
requests the address. -/
theorem parkPacket_ok {buffer : FwBuffDesc interfaces}
    (done : router.parkPacket buffer nextHop outInterface = .ok next) :
    (∃ root waiting, pktWaitingFindNode (router.pktWaitingQueue outInterface) nextHop = some root ∧
      pktWaitingPushChild (router.pktWaitingQueue outInterface) root buffer = .ok waiting ∧
      next = { router with
        pktWaitingQueue := update router.pktWaitingQueue outInterface waiting }) ∨
      ∃ request queue waiting,
        pktWaitingFindNode (router.pktWaitingQueue outInterface) nextHop = none ∧
        request.ip = nextHop ∧
        queue.entries = (router.arpReqQueue outInterface).entries ++ [request] ∧
        queue.capacity = (router.arpReqQueue outInterface).capacity ∧
        pktWaitingPush (router.pktWaitingQueue outInterface) nextHop buffer = .ok waiting ∧
        next = { router with
          arpReqQueue := update router.arpReqQueue outInterface queue
          pktWaitingQueue := update router.pktWaitingQueue outInterface waiting
          notifyArp := update router.notifyArp outInterface true } := by
  unfold parkPacket at done
  split at done
  case h_1 root found =>
    split at done
    case h_1 => cases done
    case h_2 waiting pushed =>
      cases done
      exact Or.inl ⟨root, waiting, found, pushed, rfl⟩
  case h_2 absent =>
    dsimp only at done
    split at done
    case h_1 => cases done
    case h_2 queue enqueued =>
      split at done
      case h_1 => cases done
      case h_2 waiting pushed =>
        cases done
        obtain ⟨entries, capacity⟩ := fwEnqueue_eq_some.mp enqueued
        exact Or.inr ⟨_, queue, waiting, absent, rfl, entries, capacity, pushed, rfl⟩

/-! ### Visiting the waiting buffers -/

/-- A visit that leaves the waiting structure alone goes through the buffers in list order. -/
theorem forWaiting_eq_foldlM
    {visit : Router interfaces → FwBuffDesc interfaces → Except RouterAssertion (Router interfaces)}
    (keeps : ∀ router buffer visited, visit router buffer = .ok visited →
      visited.pktWaitingQueue = router.pktWaitingQueue) (remaining node : Nat)
    (router : Router interfaces) :
    forWaiting outInterface visit remaining node router =
      ((IndexChain.walk (fun node => ((router.pktWaitingQueue outInterface).packets node).child)
        remaining node).map fun node =>
          ((router.pktWaitingQueue outInterface).packets node).buffer).foldlM visit router := by
  induction remaining generalizing node router with
  | zero => rfl
  | succ remaining inductionHypothesis =>
    rw [forWaiting, IndexChain.walk, List.map_cons, List.foldlM_cons]
    cases visited : visit router ((router.pktWaitingQueue outInterface).packets node).buffer with
    | error assertion => rfl
    | ok next =>
      have same := keeps router _ next visited
      show forWaiting outInterface visit remaining
        (pktsWaitingNextChild (next.pktWaitingQueue outInterface) node) next = _
      rw [inductionHypothesis, same]
      rfl

theorem dropWaiting_keeps (ip : UInt32T) (router : Router interfaces)
    (buffer : FwBuffDesc interfaces) (visited : Router interfaces)
    (done : dropWaiting ip router buffer = .ok visited) :
    visited.pktWaitingQueue = router.pktWaitingQueue := by
  obtain ⟨_, _, _, rfl⟩ := returnBuffer_ok done
  rfl

theorem transmitPacket_keeps (macAddr : MacAddr) (outInterface : Fin interfaces)
    (router : Router interfaces) (buffer : FwBuffDesc interfaces) (visited : Router interfaces)
    (done : transmitPacket config router buffer macAddr outInterface = .ok visited) :
    visited.pktWaitingQueue = router.pktWaitingQueue := by
  obtain ⟨_, _, _, rfl⟩ := transmitPacket_ok done
  rfl

/-- How the buffers of an address are disposed of. -/
def visitWaiting (config : FwRouterConfig interfaces) (outInterface : Fin interfaces)
    (response : FwArpRequest) (router : Router interfaces) (buffer : FwBuffDesc interfaces) :
    Except RouterAssertion (Router interfaces) :=
  if response.state = .unreachable then dropWaiting response.ip router buffer
  else transmitPacket config router buffer response.macAddr outInterface

theorem visitWaiting_keeps (outInterface : Fin interfaces) (response : FwArpRequest)
    (router : Router interfaces) (buffer : FwBuffDesc interfaces) (visited : Router interfaces)
    (done : visitWaiting config outInterface response router buffer = .ok visited) :
    visited.pktWaitingQueue = router.pktWaitingQueue := by
  unfold visitWaiting at done
  split_ifs at done
  · exact dropWaiting_keeps _ _ _ _ done
  · exact transmitPacket_keeps _ _ _ _ _ done

/-- A response for an address that is waited for disposes of exactly its buffers, in order, and
then removes the address. -/
theorem processArpResponse_eq (formed : (router.pktWaitingQueue outInterface).WellFormed)
    {root : Nat}
    (found : pktWaitingFindNode (router.pktWaitingQueue outInterface) response.ip = some root) :
    processArpResponse config router outInterface response =
      (((router.pktWaitingQueue outInterface).buffersOf root).foldlM
        (visitWaiting config outInterface response) router).map fun resolved =>
          { resolved with
            pktWaitingQueue := update resolved.pktWaitingQueue outInterface
              (pktsWaitingFreeParent (resolved.pktWaitingQueue outInterface) root) } := by
  have sameIp := (formed.find_eq_some found).1
  have visit : (if response.state = .unreachable then
        dropWaiting ((router.pktWaitingQueue outInterface).packets root).ip
      else fun router buffer => transmitPacket config router buffer response.macAddr outInterface) =
      visitWaiting config outInterface response := by
    unfold visitWaiting
    rw [sameIp]
    split_ifs <;> rfl
  unfold processArpResponse
  rw [found]
  dsimp only
  rw [visit, forWaiting_eq_foldlM (visitWaiting_keeps outInterface response)]
  rfl

/-- A response that was processed was for an address that is not waited for, or its buffers were
disposed of one by one and the address removed. -/
theorem processArpResponse_ok (formed : (router.pktWaitingQueue outInterface).WellFormed)
    (done : processArpResponse config router outInterface response = .ok next) :
    (pktWaitingFindNode (router.pktWaitingQueue outInterface) response.ip = none ∧
        next = router) ∨
      ∃ root resolved,
        pktWaitingFindNode (router.pktWaitingQueue outInterface) response.ip = some root ∧
        ((router.pktWaitingQueue outInterface).buffersOf root).foldlM
          (visitWaiting config outInterface response) router = .ok resolved ∧
        next = { resolved with
          pktWaitingQueue := update resolved.pktWaitingQueue outInterface
            (pktsWaitingFreeParent (resolved.pktWaitingQueue outInterface) root) } := by
  cases found : pktWaitingFindNode (router.pktWaitingQueue outInterface) response.ip with
  | none =>
    unfold processArpResponse at done
    rw [found] at done
    cases done
    exact Or.inl ⟨rfl, rfl⟩
  | some root =>
    rw [processArpResponse_eq formed found] at done
    obtain ⟨resolved, visited, rfl⟩ := Fallible.map_eq_ok done
    exact Or.inr ⟨root, resolved, rfl, visited, rfl⟩

end Router

end LionsOS.Firewall

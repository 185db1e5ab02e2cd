/-
This file embeds the router of `routing.c`: what it does with one packet of a
filter queue, what it does with one ARP response, and the loops over them. The
queues, the ARP tables and the data regions are shared with other components; a
buffer's bytes are found by its interface and offset, buffers being disjoint. A
failing `assert` ends the router.
-/

import LionsOS.Firewall.Arp
import LionsOS.Firewall.Icmp
import LionsOS.Firewall.PacketQueue
import Mathlib.Data.Fintype.Basic
import Mathlib.Data.List.FinRange

open Function

namespace LionsOS.Firewall

variable {interfaces : Nat}

/-! ### Configuration, state and assertions -/

def fwMaxFilters : Nat := 61

structure FwRouterInterface where
  macAddr : MacAddr
  ip : UInt32T
  numFilters : Nat

structure FwRouterConfig (interfaces : Nat) where
  interface : Fin interfaces → FwRouterInterface
  /-- The build leaves IP checksums to the hardware. -/
  networkHwHasChecksum : Bool

/-- The filters of an interface. -/
def FwRouterConfig.filters (config : FwRouterConfig interfaces) (interface : Fin interfaces) :
    List (Fin fwMaxFilters) :=
  (List.finRange fwMaxFilters).filter fun filter => filter < (config.interface interface).numFilters

structure Router (interfaces : Nat) where
  fwFilters : Fin interfaces → Fin fwMaxFilters → FwQueue NetBuffDesc
  rxFree : Fin interfaces → FwQueue NetBuffDesc
  txActive : Fin interfaces → FwQueue (FwBuffDesc interfaces)
  webserver : FwQueue (FwBuffDesc interfaces)
  data : Fin interfaces → Nat → Packet
  icmpQueue : FwQueue (IcmpReq interfaces)
  arpReqQueue : Fin interfaces → FwQueue FwArpRequest
  arpRespQueue : Fin interfaces → FwQueue FwArpRequest
  arpTable : Fin interfaces → List FwArpEntry
  pktWaitingQueue : Fin interfaces → PktsWaiting interfaces
  routingTable : List (FwRoutingEntry interfaces)
  pingResponseEnabled : Fin interfaces → Bool
  txNet : Fin interfaces → Bool
  txWebserver : Bool
  returned : Fin interfaces → Bool
  notifyArp : Fin interfaces → Bool
  notifyIcmp : Bool

/-- The assertions of the router, named after what they check. -/
inductive RouterAssertion where
  | rxFreeEnqueued
  | txActiveEnqueued
  | webserverEnqueued
  | arpRequestEnqueued
  | packetParked
  deriving DecidableEq

def webserverPort : UInt16T := 80
def ethTypeIp : UInt16T := 0x0800
def ipv4ProtoIcmp : UInt8T := 0x01
def ipv4ProtoTcp : UInt8T := 0x06
def tcpDstPortOffset : Nat := 2
def multicastIpMask : UInt32T := 0xf0000000
def multicastIpAddr : UInt32T := 0xe0000000
def broadcastIpAddr : UInt32T := 0xffffffff
def broadcastMacAddr : MacAddr := fun _ => 0xff

namespace Router

/-! ### Disposing of a buffer -/

/-- Overwrite the bytes of a buffer. -/
def setPacket (router : Router interfaces) (interface : Fin interfaces) (offset : Nat)
    (packet : Packet) : Router interfaces :=
  { router with
    data := update router.data interface (update (router.data interface) offset packet) }

/-- Give a buffer back to the pool of `interface`. -/
def returnBuffer (router : Router interfaces) (interface : Fin interfaces)
    (buffer : NetBuffDesc) : Except RouterAssertion (Router interfaces) :=
  match fwEnqueue (router.rxFree interface) buffer with
  | none => .error .rxFreeEnqueued
  | some queue =>
    .ok { router with
      rxFree := update router.rxFree interface queue
      returned := update router.returned interface true }

/-- Enqueue a request to the ICMP module to transmit a destination unreachable packet. -/
def enqueueIcmpUnreachable (router : Router interfaces) (buffer : FwBuffDesc interfaces)
    (nextHop : UInt32T) : Router interfaces :=
  let packet := router.data buffer.interface buffer.offset
  let code := if nextHop = packet.dstIp then icmpDestHostUnreachable else icmpDestNetUnreachable
  let (enqueued, icmpQueue) :=
    icmpEnqueueError router.icmpQueue icmpDestUnreachable code packet buffer.interface
  { router with icmpQueue, notifyIcmp := router.notifyIcmp || enqueued }

/-- The headers of a packet that leaves through an interface. The checksum is zeroed, and
recalculated in software unless the hardware does it. -/
def outgoingPacket (config : FwRouterConfig interfaces) (packet : Packet) (macAddr : MacAddr)
    (outInterface : Fin interfaces) : Packet :=
  let packet := packet.storeMac Packet.ethdstAddrOffset macAddr
  let packet := packet.storeMac Packet.ethsrcAddrOffset (config.interface outInterface).macAddr
  let packet := packet.store16 Packet.checkOffset 0
  if config.networkHwHasChecksum then packet
  else packet.store16 Packet.checkOffset
    (fwInternetChecksum (packet.advance Packet.ipv4HdrOffset) (ipv4HeaderLength packet).toNat)

def transmitPacket (config : FwRouterConfig interfaces) (router : Router interfaces)
    (buffer : FwBuffDesc interfaces) (macAddr : MacAddr) (outInterface : Fin interfaces) :
    Except RouterAssertion (Router interfaces) :=
  let packet := router.data buffer.interface buffer.offset
  let router := router.setPacket buffer.interface buffer.offset
    (outgoingPacket config packet macAddr outInterface)
  match fwEnqueue (router.txActive outInterface) buffer with
  | none => .error .txActiveEnqueued
  | some queue =>
    .ok { router with
      txActive := update router.txActive outInterface queue
      txNet := update router.txNet outInterface true }

/-- Hand a buffer to the webserver. -/
def transmitWebserver (router : Router interfaces) (buffer : FwBuffDesc interfaces) :
    Except RouterAssertion (Router interfaces) :=
  match fwEnqueue router.webserver buffer with
  | none => .error .webserverEnqueued
  | some queue => .ok { router with webserver := queue, txWebserver := true }

/-- Store a buffer until the next hop's address is resolved, with an ARP request if it is the
first one. -/
def parkPacket (router : Router interfaces) (buffer : FwBuffDesc interfaces) (nextHop : UInt32T)
    (outInterface : Fin interfaces) : Except RouterAssertion (Router interfaces) :=
  match pktWaitingFindNode (router.pktWaitingQueue outInterface) nextHop with
  | some root =>
    match pktWaitingPushChild (router.pktWaitingQueue outInterface) root buffer with
    | .error _ => .error .packetParked
    | .ok waiting =>
      .ok { router with
        pktWaitingQueue := update router.pktWaitingQueue outInterface waiting }
  | none =>
    let request : FwArpRequest := { ip := nextHop, macAddr := fun _ => 0, state := .invalid }
    match fwEnqueue (router.arpReqQueue outInterface) request with
    | none => .error .arpRequestEnqueued
    | some queue =>
      match pktWaitingPush (router.pktWaitingQueue outInterface) nextHop buffer with
      | .error _ => .error .packetParked
      | .ok waiting =>
        .ok { router with
          arpReqQueue := update router.arpReqQueue outInterface queue
          pktWaitingQueue := update router.pktWaitingQueue outInterface waiting
          notifyArp := update router.notifyArp outInterface true }

/-! ### Routing one packet -/

/-- The part of `route` for a packet to the firewall's own address: webserver traffic, pings,
and everything else, which is dropped. -/
def routeToFirewall (router : Router interfaces) (interface : Fin interfaces)
    (buffer : NetBuffDesc) : Except RouterAssertion (Router interfaces) :=
  let packet := router.data interface buffer.ioOrOffset
  let transport := (transportLayerOffset packet).toNat
  if packet.protocol = ipv4ProtoTcp ∧
      packet.load16 (transport + tcpDstPortOffset) = htons webserverPort then
    router.transmitWebserver { offset := buffer.ioOrOffset, len := buffer.len, interface }
  else if packet.protocol = ipv4ProtoIcmp ∧ packet transport = icmpEchoReq ∧
      router.pingResponseEnabled interface then
    let (enqueued, icmpQueue) := icmpEnqueueEchoReply router.icmpQueue packet interface
    { router with icmpQueue, notifyIcmp := router.notifyIcmp || enqueued }.returnBuffer interface
      buffer
  else router.returnBuffer interface buffer

/-- The entry the router finds for an address. -/
def arpEntry (router : Router interfaces) (outInterface : Fin interfaces) (ip : UInt32T) :
    Option FwArpEntry :=
  (fwArpTableFindEntry (router.arpTable outInterface) ip).map fun index =>
    (router.arpTable outInterface).getD index FwArpEntry.zeroed

/-- The part of `route` after the next hop is known: drop, park or transmit the packet,
depending on what the ARP table says. -/
def forwardPacket (config : FwRouterConfig interfaces) (router : Router interfaces)
    (interface : Fin interfaces) (buffer : NetBuffDesc) (nextHop : UInt32T)
    (outInterface : Fin interfaces) : Except RouterAssertion (Router interfaces) :=
  let fwBuffer : FwBuffDesc interfaces :=
    { offset := buffer.ioOrOffset, len := buffer.len, interface }
  let full := pktWaitingFull (router.pktWaitingQueue outInterface)
  match router.arpEntry outInterface nextHop with
  | none =>
    if full ∨ fwQueueFull (router.arpReqQueue outInterface) then
      router.returnBuffer interface buffer
    else router.parkPacket fwBuffer nextHop outInterface
  | some arp =>
    if arp.state = .unreachable then
      (router.enqueueIcmpUnreachable fwBuffer nextHop).returnBuffer interface buffer
    else if arp.state = .pending then
      if full then router.returnBuffer interface buffer
      else router.parkPacket fwBuffer nextHop outInterface
    else transmitPacket config router fwBuffer arp.macAddr outInterface

/-- What `route` does with one buffer dequeued from a filter queue of `interface`. -/
def routePacket (config : FwRouterConfig interfaces) (router : Router interfaces)
    (interface : Fin interfaces) (buffer : NetBuffDesc) :
    Except RouterAssertion (Router interfaces) :=
  let packet := router.data interface buffer.ioOrOffset
  if packet.dstIp = broadcastIpAddr ∨ packet.ethdstAddr = broadcastMacAddr ∨
      packet.dstIp &&& multicastIpMask = multicastIpAddr then
    router.returnBuffer interface buffer
  else if packet.ethtype ≠ htons ethTypeIp then router.returnBuffer interface buffer
  else if packet.dstIp = (config.interface interface).ip then
    router.routeToFirewall interface buffer
  else if packet.ttl ≤ 1 then
    let (enqueued, icmpQueue) :=
      icmpEnqueueError router.icmpQueue icmpTtlExceed icmpTimeExceededTtl packet interface
    { router with icmpQueue, notifyIcmp := router.notifyIcmp || enqueued }.returnBuffer interface
      buffer
  else
    let router := router.setPacket interface buffer.ioOrOffset
      (packet.store8 Packet.ttlOffset (packet.ttl - 1))
    let fwBuffer : FwBuffDesc interfaces :=
      { offset := buffer.ioOrOffset, len := buffer.len, interface }
    let (nextHop, found) := fwRoutingFindRoute router.routingTable packet.dstIp
    match found with
    | none => (router.enqueueIcmpUnreachable fwBuffer nextHop).returnBuffer interface buffer
    | some (subnet, outInterface) =>
      if nextHop = fwRoutingNonexthop ∨ nextHop = (config.interface outInterface).ip then
        (router.enqueueIcmpUnreachable fwBuffer nextHop).returnBuffer interface buffer
      else if ~~~ subnetMask subnet ||| nextHop = packet.dstIp then
        router.returnBuffer interface buffer
      else forwardPacket config router interface buffer nextHop outInterface

/-! ### Resolving the waiting packets of an address -/

/-- Visit a root and its children, `remaining` nodes from `node` on. -/
def forWaiting (outInterface : Fin interfaces)
    (visit : Router interfaces → FwBuffDesc interfaces →
      Except RouterAssertion (Router interfaces)) :
    Nat → Nat → Router interfaces → Except RouterAssertion (Router interfaces)
  | 0, _, router => .ok router
  | remaining + 1, node, router => do
    let visited ← visit router ((router.pktWaitingQueue outInterface).packets node).buffer
    forWaiting outInterface visit remaining
      (pktsWaitingNextChild (visited.pktWaitingQueue outInterface) node) visited

/-- Drop a waiting packet of an unreachable address. -/
def dropWaiting (ip : UInt32T) (router : Router interfaces) (buffer : FwBuffDesc interfaces) :
    Except RouterAssertion (Router interfaces) :=
  (router.enqueueIcmpUnreachable buffer ip).returnBuffer buffer.interface
    { ioOrOffset := buffer.offset, len := buffer.len }

/-- What `process_arp_waiting` does with one response dequeued on an interface. -/
def processArpResponse (config : FwRouterConfig interfaces) (router : Router interfaces)
    (outInterface : Fin interfaces) (response : FwArpRequest) :
    Except RouterAssertion (Router interfaces) :=
  match pktWaitingFindNode (router.pktWaitingQueue outInterface) response.ip with
  | none => .ok router
  | some root => do
    let rootNode := (router.pktWaitingQueue outInterface).packets root
    let visit :=
      if response.state = .unreachable then dropWaiting rootNode.ip
      else fun router buffer => transmitPacket config router buffer response.macAddr outInterface
    let resolved ← forWaiting outInterface visit (rootNode.numChildren + 1) root router
    .ok { resolved with
      pktWaitingQueue := update resolved.pktWaitingQueue outInterface
        (pktsWaitingFreeParent (resolved.pktWaitingQueue outInterface) root) }

/-! ### The loops -/

/-- One round of the inner loop of `route`: dequeue a buffer of a filter queue and route it.
`none` when the queue is empty. -/
def routeNext (config : FwRouterConfig interfaces) (router : Router interfaces)
    (interface : Fin interfaces) (filter : Fin fwMaxFilters) :
    Option (NetBuffDesc × Except RouterAssertion (Router interfaces)) :=
  (fwDequeue (router.fwFilters interface filter)).map fun (buffer, queue) =>
    (buffer, routePacket config
      { router with
        fwFilters := update router.fwFilters interface
          (update (router.fwFilters interface) filter queue) }
      interface buffer)

/-- One round of `process_arp_waiting`: dequeue a response and process it. `none` when the
queue is empty. -/
def respondNext (config : FwRouterConfig interfaces) (router : Router interfaces)
    (outInterface : Fin interfaces) :
    Option (FwArpRequest × Except RouterAssertion (Router interfaces)) :=
  (fwDequeue (router.arpRespQueue outInterface)).map fun (response, queue) =>
    (response, processArpResponse config
      { router with arpRespQueue := update router.arpRespQueue outInterface queue }
      outInterface response)

/-- Route the packets of one filter queue, at most `rounds` of them. -/
def routeFilter (config : FwRouterConfig interfaces) (interface : Fin interfaces)
    (filter : Fin fwMaxFilters) :
    Nat → Router interfaces → Except RouterAssertion (Router interfaces)
  | 0, router => .ok router
  | rounds + 1, router =>
    match routeNext config router interface filter with
    | none => .ok router
    | some (_, .error assertion) => .error assertion
    | some (_, .ok routed) => routeFilter config interface filter rounds routed

/-- Route every packet that is in a filter queue. No round adds to a filter queue, so as many
rounds as there are packets empty it. -/
def route (config : FwRouterConfig interfaces) (router : Router interfaces) :
    Except RouterAssertion (Router interfaces) :=
  (List.finRange interfaces).foldlM (fun router interface =>
    (config.filters interface).foldlM (fun router filter =>
      routeFilter config interface filter (router.fwFilters interface filter).entries.length router)
      router) router

/-- Process the ARP responses on an interface, at most `rounds` of them. -/
def processResponsesFor (config : FwRouterConfig interfaces) (outInterface : Fin interfaces) :
    Nat → Router interfaces → Except RouterAssertion (Router interfaces)
  | 0, router => .ok router
  | rounds + 1, router =>
    match respondNext config router outInterface with
    | none => .ok router
    | some (_, .error assertion) => .error assertion
    | some (_, .ok resolved) => processResponsesFor config outInterface rounds resolved

/-- Process every ARP response that is on an interface. -/
def processArpWaiting (config : FwRouterConfig interfaces) (router : Router interfaces)
    (outInterface : Fin interfaces) : Except RouterAssertion (Router interfaces) :=
  processResponsesFor config outInterface (router.arpRespQueue outInterface).entries.length router

end Router

end LionsOS.Firewall

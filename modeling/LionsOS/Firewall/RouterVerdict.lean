/-
This file splits `route` into its verdict on a packet, which only looks at the
packet, the addresses of the firewall and the routing table, and what is done on
the verdict. It then takes the guard in front of the parking of a packet apart,
as the source writes it.
-/

import LionsOS.Firewall.RouterCases

namespace LionsOS.Firewall

variable {interfaces : Nat} {interface outInterface : Fin interfaces} {buffer : NetBuffDesc}
  {nextHop : UInt32T}

/-! ### The verdict -/

/-- What `route` decides before it looks at the ARP table. -/
inductive RouteVerdict (interfaces : Nat) where
  /-- Broadcast, multicast or not IPv4. -/
  | drop
  /-- For the firewall itself. -/
  | mine
  /-- The time to live runs out. -/
  | expired
  /-- There is no next hop but the firewall. -/
  | noRoute (nextHop : UInt32T)
  /-- A broadcast to the subnet of a route. -/
  | subnetBroadcast
  | forward (nextHop : UInt32T) (outInterface : Fin interfaces)

namespace Router

/-- The verdict on the packet in a buffer. -/
def routeVerdict (config : FwRouterConfig interfaces) (router : Router interfaces)
    (interface : Fin interfaces) (packet : Packet) : RouteVerdict interfaces :=
  if packet.dstIp = broadcastIpAddr ∨ packet.ethdstAddr = broadcastMacAddr ∨
      packet.dstIp &&& multicastIpMask = multicastIpAddr then .drop
  else if packet.ethtype ≠ htons ethTypeIp then .drop
  else if packet.dstIp = (config.interface interface).ip then .mine
  else if packet.ttl ≤ 1 then .expired
  else
    match fwRoutingFindRoute router.routingTable packet.dstIp with
    | (nextHop, none) => .noRoute nextHop
    | (nextHop, some (subnet, outInterface)) =>
      if nextHop = fwRoutingNonexthop ∨ nextHop = (config.interface outInterface).ip then
        .noRoute nextHop
      else if ~~~ subnetMask subnet ||| nextHop = packet.dstIp then .subnetBroadcast
      else .forward nextHop outInterface

/-- The router once the time to live in a buffer is decremented. -/
def decremented (router : Router interfaces) (interface : Fin interfaces) (buffer : NetBuffDesc) :
    Router interfaces :=
  router.setPacket interface buffer.ioOrOffset (router.data interface buffer.ioOrOffset).decremented

/-- What `route` does on a verdict. -/
def carryOut (config : FwRouterConfig interfaces) (router : Router interfaces)
    (interface : Fin interfaces) (buffer : NetBuffDesc) :
    RouteVerdict interfaces → Except RouterAssertion (Router interfaces)
  | .drop => router.returnBuffer interface buffer
  | .mine => router.routeToFirewall interface buffer
  | .expired =>
    let (enqueued, icmpQueue) := icmpEnqueueError router.icmpQueue icmpTtlExceed icmpTimeExceededTtl
      (router.data interface buffer.ioOrOffset) interface
    { router with icmpQueue, notifyIcmp := router.notifyIcmp || enqueued }.returnBuffer interface
      buffer
  | .noRoute nextHop =>
    ((router.decremented interface buffer).enqueueIcmpUnreachable (buffer.tagged interface)
      nextHop).returnBuffer interface buffer
  | .subnetBroadcast => (router.decremented interface buffer).returnBuffer interface buffer
  | .forward nextHop outInterface =>
    forwardPacket config (router.decremented interface buffer) interface buffer nextHop outInterface

variable {config : FwRouterConfig interfaces} {router : Router interfaces}

theorem routePacket_eq_carryOut (interface : Fin interfaces) (buffer : NetBuffDesc) :
    routePacket config router interface buffer = carryOut config router interface buffer
      (routeVerdict config router interface (router.data interface buffer.ioOrOffset)) := by
  unfold routePacket routeVerdict
  dsimp only
  split_ifs with broadcast ethtype mine expired
  · rfl
  · rfl
  · rfl
  · rfl
  · rw [setPacket_routingTable]
    rcases fwRoutingFindRoute router.routingTable
      (router.data interface buffer.ioOrOffset).dstIp with ⟨nextHop, _ | ⟨subnet, outInterface⟩⟩
    · rfl
    · dsimp only
      split_ifs with noHop subnetBroadcast
      · rfl
      · rfl
      · rfl

/-! ### The guard -/

/-- What the ARP table says about the next hop leaves it unresolved. -/
def unresolved (arp : Option FwArpEntry) : Bool :=
  arp.isNone || arp.any fun arp => arp.state == .pending

/-- The guard of `route` for a packet that it can not park. -/
def dropsUnparkable (router : Router interfaces) (outInterface : Fin interfaces)
    (nextHop : UInt32T) : Bool :=
  let arp := router.arpEntry outInterface nextHop
  (arp.any fun arp => arp.state == .unreachable) ||
    (pktWaitingFull (router.pktWaitingQueue outInterface) && unresolved arp) ||
    (arp.isNone && fwQueueFull (router.arpReqQueue outInterface))

/-- Behind the guard an unresolved next hop has the packet parked. -/
theorem forwardPacket_parks (passes : router.dropsUnparkable outInterface nextHop = false)
    (waits : unresolved (router.arpEntry outInterface nextHop) = true) :
    forwardPacket config router interface buffer nextHop outInterface =
      router.parkPacket (buffer.tagged interface) nextHop outInterface := by
  unfold dropsUnparkable at passes
  unfold forwardPacket
  cases entry : router.arpEntry outInterface nextHop with
  | none =>
    simp only [entry, unresolved, Option.any_none, Option.isNone_none, Bool.false_or,
      Bool.true_or, Bool.and_true, Bool.true_and, Bool.or_eq_false_iff] at passes
    rw [passes.1, passes.2]
    rfl
  | some arp =>
    rw [entry] at passes waits
    simp only [unresolved, Option.isNone_some, Option.any_some, Bool.false_or, beq_iff_eq] at waits
    simp only [unresolved, waits, Option.any_some, Option.isNone_some, Bool.false_or,
      beq_self_eq_true, Bool.and_true, Bool.false_and, Bool.or_false, Bool.or_eq_false_iff] at passes
    dsimp only
    rw [waits, if_pos rfl, passes.2]
    rfl

/-- Where the guard drops a packet or the next hop is resolved, nothing is parked: the buffer is
returned or transmitted. -/
theorem forwardPacket_not_parked {interface outInterface : Fin interfaces} {buffer : NetBuffDesc}
    {nextHop : UInt32T} (notParked : ¬ (router.dropsUnparkable outInterface nextHop = false ∧
      unresolved (router.arpEntry outInterface nextHop) = true)) :
    (∃ icmpQueue notifyIcmp, forwardPacket config router interface buffer nextHop outInterface =
        { router with icmpQueue, notifyIcmp }.returnBuffer interface buffer) ∨
      ∃ macAddr, forwardPacket config router interface buffer nextHop outInterface =
        transmitPacket config router (buffer.tagged interface) macAddr outInterface := by
  unfold dropsUnparkable at notParked
  unfold forwardPacket
  cases entry : router.arpEntry outInterface nextHop with
  | none =>
    simp only [entry, unresolved, Option.any_none, Option.isNone_none, Bool.false_or, Bool.true_or,
      Bool.and_true, Bool.true_and, Bool.or_eq_false_iff, and_true, not_and_or,
      Bool.not_eq_false] at notParked
    dsimp only
    rw [if_pos notParked]
    exact Or.inl ⟨router.icmpQueue, router.notifyIcmp, rfl⟩
  | some arp =>
    dsimp only
    split_ifs with unreachable pending full
    · exact Or.inl ⟨_, _, rfl⟩
    · exact Or.inl ⟨router.icmpQueue, router.notifyIcmp, rfl⟩
    · rw [entry] at notParked
      exact absurd ⟨by simp [unresolved, pending, full], by simp [unresolved, pending]⟩ notParked
    · exact Or.inr ⟨arp.macAddr, rfl⟩

end Router

end LionsOS.Firewall

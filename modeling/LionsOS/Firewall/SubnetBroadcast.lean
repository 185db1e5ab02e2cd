/-
This file is about the packets that the router drops as broadcasts to a subnet.
The test fills the host bits of the next hop, under the mask of the route that
the lookup ended with. On a directly attached subnet the next hop is the
destination itself; subnets of 31 and 32 bits have no broadcast address, and
behind a gateway the subnet is not that of the destination.
-/

import LionsOS.Firewall.RouterPlaces
import LionsOS.Firewall.RouterVerdict
import LionsOS.Firewall.RoutingLookup

namespace LionsOS.Firewall

open BestScan Router

variable {interfaces : Nat}

variable {outInterface : Fin interfaces}

/-! ### Broadcast addresses -/

/-- All bits of the address behind those of the subnet are one, in network order. -/
def HostBitsOnes (subnet : UInt8T) (ip : UInt32T) : Prop :=
  ∀ position < 32 - subnet.toNat, (htonl ip).getLsbD position = true

/-- The address is the broadcast address of a directly attached subnet that has one. -/
def IsSubnetBroadcast (routes : List (FwRoutingEntry interfaces)) (ip : UInt32T) : Prop :=
  ∃ entry ∈ routes, entry.nextHop = fwRoutingNonexthop ∧ entry.subnet.toNat ≤ 30 ∧
    entry.Covers ip ∧ HostBitsOnes entry.subnet ip

variable {subnet : UInt8T} {ip hop : UInt32T}

theorem hostBitsOnes_iff : HostBitsOnes subnet ip ↔
    ∀ position < 32, swappedBit position < 32 - subnet.toNat → ip.getLsbD position = true := by
  constructor
  · intro ones position inside host
    have bit := ones (swappedBit position) host
    rwa [htonl_getLsbD _ (swappedBit_lt inside), swappedBit_swappedBit inside] at bit
  · intro ones position host
    have inside : position < 32 := Nat.lt_of_lt_of_le host (Nat.sub_le _ _)
    rw [htonl_getLsbD _ inside]
    refine ones _ (swappedBit_lt inside) ?_
    rwa [swappedBit_swappedBit inside]

theorem hostBitsOnes_32 (ip : UInt32T) : HostBitsOnes 32 ip :=
  fun position host => absurd host (Nat.not_lt_zero position)

theorem hostBitsOnes_31 : HostBitsOnes 31 ip ↔ (htonl ip).getLsbD 0 = true := by
  constructor
  · intro ones
    exact ones 0 (by decide)
  · intro one position host
    have first : position = 0 := Nat.lt_one_iff.mp host
    rwa [first]

theorem filled_eq_iff (fits : subnet.toNat ≤ 32) :
    ~~~ subnetMask subnet ||| hop = ip ↔
      networkPrefix subnet hop = networkPrefix subnet ip ∧ HostBitsOnes subnet ip := by
  have filled : ∀ position < 32, (~~~ subnetMask subnet ||| hop).getLsbD position =
      (decide (swappedBit position < 32 - subnet.toNat) || hop.getLsbD position) := by
    intro position inside
    rw [BitVec.getLsbD_or, BitVec.getLsbD_not, subnetMask_getLsbD fits inside, decide_eq_true
      inside]
    congr 1
    rw [← decide_not]
    exact decide_eq_decide.mpr Nat.not_le
  rw [networkPrefix_eq_iff, hostBitsOnes_iff]
  constructor
  · rintro rfl
    refine ⟨fun position inside network => ?_, fun position inside host => ?_⟩
    · rw [filled position inside, decide_eq_false (Nat.not_lt.mpr network), Bool.false_or]
    · rw [filled position inside, decide_eq_true host, Bool.true_or]
  · rintro ⟨network, host⟩
    refine BitVec.eq_of_getLsbD_eq fun position inside => ?_
    rw [filled position inside]
    by_cases isHost : swappedBit position < 32 - subnet.toNat
    · rw [decide_eq_true isHost, Bool.true_or, host position inside isHost]
    · rw [decide_eq_false isHost, Bool.false_or, network position inside (Nat.not_lt.mp isHost)]

/-! ### The lookup -/

variable {routes : List (FwRoutingEntry interfaces)} {entry : FwRoutingEntry interfaces}

theorem routeMatch_covers (fits : ∀ entry ∈ routes, entry.subnet.toNat ≤ 32)
    (found : routeMatch routes ip = some entry) : entry ∈ routes ∧ entry.Covers ip := by
  rw [routeMatch_eq_lastBest] at found
  obtain ⟨member, hit, _⟩ := lastBest_best found
  have masked := of_decide_eq_true hit
  refine ⟨member, (masked_eq_iff_networkPrefix (fits entry member) ip entry.ip).mp ?_⟩
  rw [← masked, ← BitVec.and_assoc, BitVec.and_self]

theorem findRoute_fits (fits : ∀ entry ∈ routes, entry.subnet.toNat ≤ 32) {lookups : Nat}
    (found : findRoute routes lookups ip = (hop, some (subnet, outInterface))) :
    subnet.toNat ≤ 32 := by
  induction lookups generalizing ip with
  | zero => simp [findRoute] at found
  | succ lookups inductionHypothesis =>
    rw [findRoute] at found
    cases matched : routeMatch routes ip with
    | none => simp [matched] at found
    | some entry =>
      rw [matched] at found
      dsimp only at found
      split_ifs at found with direct
      · have same : entry.subnet = subnet := by simp_all
        exact same ▸ fits entry (routeMatch_covers fits matched).1
      · exact inductionHypothesis found

theorem fwRoutingFindRoute_direct (found : routeMatch routes ip = some entry)
    (direct : entry.nextHop = fwRoutingNonexthop) :
    fwRoutingFindRoute routes ip = (ip, some (entry.subnet, entry.interface)) := by
  rw [fwRoutingFindRoute, fwRoutingMaxRecursion, findRoute, found]
  exact if_pos direct

theorem routeMatch_of_fwRoutingFindRoute
    (found : fwRoutingFindRoute routes ip = (hop, some (subnet, outInterface))) :
    ∃ entry, routeMatch routes ip = some entry := by
  cases matched : routeMatch routes ip with
  | none =>
    rw [fwRoutingFindRoute, fwRoutingMaxRecursion, findRoute, matched] at found
    simp at found
  | some entry => exact ⟨entry, rfl⟩

/-! ### The verdict -/

/-- The router looks up a route for the packet, and it leads to a next hop. -/
structure LookedUp (config : FwRouterConfig interfaces) (router : Router interfaces)
    (interface : Fin interfaces) (packet : Packet) (hop : UInt32T) (subnet : UInt8T)
    (outInterface : Fin interfaces) : Prop where
  routable : Routable packet
  notMine : packet.dstIp ≠ (config.interface interface).ip
  alive : 1 < packet.ttl
  ends : fwRoutingFindRoute router.routingTable packet.dstIp = (hop, some (subnet, outInterface))
  leads : ¬ (hop = fwRoutingNonexthop ∨ hop = (config.interface outInterface).ip)

variable {config : FwRouterConfig interfaces} {router : Router interfaces}
  {interface : Fin interfaces} {packet : Packet}

theorem routeVerdict_eq_subnetBroadcast :
    routeVerdict config router interface packet = .subnetBroadcast ↔ ∃ hop subnet outInterface,
        LookedUp config router interface packet hop subnet outInterface ∧
          ~~~ subnetMask subnet ||| hop = packet.dstIp := by
  constructor
  · intro verdict
    unfold routeVerdict at verdict
    split_ifs at verdict with unicast ethtype mine expired
    split at verdict
    case h_1 => simp at verdict
    case h_2 hop subnet outInterface ends =>
      split_ifs at verdict with leads filled
      exact ⟨hop, subnet, outInterface,
        ⟨⟨unicast, not_not.mp ethtype⟩, mine, BitVec.not_le.mp expired, ends, leads⟩, filled⟩
  · rintro ⟨hop, subnet, outInterface, lookedUp, filled⟩
    unfold routeVerdict
    rw [if_neg lookedUp.routable.unicast, if_neg (not_not_intro lookedUp.routable.ethtype),
      if_neg lookedUp.notMine, if_neg (BitVec.not_le.mpr lookedUp.alive), lookedUp.ends]
    dsimp only
    rw [if_neg lookedUp.leads, if_pos filled]

/-- What a drop as a subnet broadcast says about the destination. -/
structure DropsOnlyBroadcasts (config : FwRouterConfig interfaces) (router : Router interfaces)
    (interface : Fin interfaces) (packet : Packet) : Prop where
  attached : routeVerdict config router interface packet = .subnetBroadcast →
    IsSubnetBroadcast router.routingTable packet.dstIp
  host : ∀ entry, routeMatch router.routingTable packet.dstIp = some entry →
    entry.nextHop = fwRoutingNonexthop → entry.subnet = 32 →
    routeVerdict config router interface packet ≠ .subnetBroadcast
  gateway : ∀ entry, routeMatch router.routingTable packet.dstIp = some entry →
    entry.nextHop ≠ fwRoutingNonexthop →
    routeVerdict config router interface packet ≠ .subnetBroadcast

/-- The routes on which an address is taken for a broadcast that it is not. -/
inductive MistakenFor (routes : List (FwRoutingEntry interfaces)) (ip hop : UInt32T)
    (subnet : UInt8T) : Prop
  /-- A route to the host alone. -/
  | host (entry : FwRoutingEntry interfaces) (found : routeMatch routes ip = some entry)
    (direct : entry.nextHop = fwRoutingNonexthop) (alone : entry.subnet = 32)
  /-- The second host of a subnet of two. -/
  | second (entry : FwRoutingEntry interfaces) (found : routeMatch routes ip = some entry)
    (direct : entry.nextHop = fwRoutingNonexthop) (two : entry.subnet = 31)
    (last : (htonl ip).getLsbD 0 = true) (other : ¬ IsSubnetBroadcast routes ip)
  /-- Behind a gateway, the last address of the subnet the gateway is in. -/
  | gateway (entry : FwRoutingEntry interfaces) (found : routeMatch routes ip = some entry)
    (indirect : entry.nextHop ≠ fwRoutingNonexthop)
    (same : networkPrefix subnet hop = networkPrefix subnet ip) (ones : HostBitsOnes subnet ip)

theorem MistakenFor.filled (fits : ∀ entry ∈ routes, entry.subnet.toNat ≤ 32)
    (mistaken : MistakenFor routes ip hop subnet)
    (ends : fwRoutingFindRoute routes ip = (hop, some (subnet, outInterface))) :
    ~~~ subnetMask subnet ||| hop = ip := by
  rw [filled_eq_iff (findRoute_fits fits ends)]
  have attached : ∀ entry, routeMatch routes ip = some entry →
      entry.nextHop = fwRoutingNonexthop → ip = hop ∧ entry.subnet = subnet := by
    intro entry found direct
    rw [fwRoutingFindRoute_direct found direct] at ends
    simp_all
  cases mistaken with
  | host entry found direct alone =>
    obtain ⟨rfl, rfl⟩ := attached entry found direct
    exact ⟨rfl, alone ▸ hostBitsOnes_32 ip⟩
  | second entry found direct two last _ =>
    obtain ⟨rfl, rfl⟩ := attached entry found direct
    exact ⟨rfl, two ▸ hostBitsOnes_31.mpr last⟩
  | gateway _ _ _ same ones => exact ⟨same, ones⟩

/-- An address that passes the test for a broadcast is one, or is on such a route. -/
theorem mistakenFor_of_filled (fits : ∀ entry ∈ routes, entry.subnet.toNat ≤ 32)
    (found : routeMatch routes ip = some entry)
    (ends : fwRoutingFindRoute routes ip = (hop, some (subnet, outInterface)))
    (filled : ~~~ subnetMask subnet ||| hop = ip) :
    MistakenFor routes ip hop subnet ∨
      entry.nextHop = fwRoutingNonexthop ∧ entry.subnet ≠ 32 ∧ IsSubnetBroadcast routes ip := by
  obtain ⟨same, ones⟩ := (filled_eq_iff (findRoute_fits fits ends)).mp filled
  obtain ⟨member, covers⟩ := routeMatch_covers fits found
  by_cases direct : entry.nextHop = fwRoutingNonexthop
  case neg => exact Or.inl (MistakenFor.gateway entry found direct same ones)
  case pos =>
    have sameSubnet : entry.subnet = subnet := by
      rw [fwRoutingFindRoute_direct found direct] at ends
      simp_all
    rw [← sameSubnet] at ones
    by_cases alone : entry.subnet = 32
    · exact Or.inl (MistakenFor.host entry found direct alone)
    by_cases other : IsSubnetBroadcast routes ip
    · exact Or.inr ⟨direct, alone, other⟩
    · refine Or.inl (MistakenFor.second entry found direct ?_ ?_ other)
      all_goals
        have large : ¬ entry.subnet.toNat ≤ 30 := fun small =>
          other ⟨entry, member, direct, small, covers, ones⟩
        have fitting := fits entry member
        have two : entry.subnet = 31 := by
          bv_omega
      · exact two
      · exact hostBitsOnes_31.mp (two ▸ ones)

/-- For a table whose subnets fit, the router drops only broadcasts of attached subnets as subnet
broadcasts, and forwards to a host with a route of its own and through a gateway, exactly where no
route that it looks up has the address taken for a broadcast that it is not. -/
theorem dropsOnlyBroadcasts_iff (fits : ∀ entry ∈ router.routingTable, entry.subnet.toNat ≤ 32) :
    DropsOnlyBroadcasts config router interface packet ↔
      ∀ hop subnet outInterface, LookedUp config router interface packet hop subnet outInterface →
        ¬ MistakenFor router.routingTable packet.dstIp hop subnet := by
  constructor
  · intro drops hop subnet outInterface lookedUp mistaken
    have dropped : routeVerdict config router interface packet = .subnetBroadcast :=
      routeVerdict_eq_subnetBroadcast.mpr
        ⟨hop, subnet, outInterface, lookedUp, mistaken.filled fits lookedUp.ends⟩
    cases mistaken with
    | host entry found direct alone => exact drops.host entry found direct alone dropped
    | second _ _ _ _ _ other => exact other (drops.attached dropped)
    | gateway entry found indirect _ _ => exact drops.gateway entry found indirect dropped
  · intro sound
    have dropped : routeVerdict config router interface packet = .subnetBroadcast →
        ∀ entry, routeMatch router.routingTable packet.dstIp = some entry →
          entry.nextHop = fwRoutingNonexthop ∧ entry.subnet ≠ 32 ∧
            IsSubnetBroadcast router.routingTable packet.dstIp := by
      intro verdict entry found
      obtain ⟨hop, subnet, outInterface, lookedUp, filled⟩ :=
        routeVerdict_eq_subnetBroadcast.mp verdict
      exact (mistakenFor_of_filled fits found lookedUp.ends filled).resolve_left
        (sound hop subnet outInterface lookedUp)
    refine ⟨fun verdict => ?_, fun entry found _ alone verdict => ?_,
      fun entry found indirect verdict => ?_⟩
    · obtain ⟨hop, subnet, outInterface, lookedUp, _⟩ :=
        routeVerdict_eq_subnetBroadcast.mp verdict
      obtain ⟨entry, found⟩ := routeMatch_of_fwRoutingFindRoute lookedUp.ends
      exact (dropped verdict entry found).2.2
    · exact (dropped verdict entry found).2.1 alone
    · exact indirect (dropped verdict entry found).1

/-! ### A route to a host -/

/-- A router with a direct route to 10.0.0.1 and no other. -/
def hostRouter : Router 1 :=
  { (RouterSystem.idle 1 1).router with routingTable := [⟨0x0100000a, 32, 0, 0⟩] }

/-- An IPv4 packet to 10.0.0.1, with a time to live of 64. -/
def packetToHost : Packet := fun i =>
  match i with
  | 12 => 0x08
  | 14 => 0x45
  | 22 => 64
  | 30 => 10
  | 33 => 1
  | _ => 0

theorem hostRouter_fits : ∀ entry ∈ hostRouter.routingTable, entry.subnet.toNat ≤ 32 := by
  decide

theorem hostRouter_lookedUp :
    LookedUp (sampleConfig 1) hostRouter 0 packetToHost 0x0100000a 32 0 where
  routable := ⟨by decide, by decide⟩
  notMine := by decide
  alive := by decide
  ends := by decide
  leads := by decide

theorem hostRouter_dropsOnlyBroadcasts_iff :
    (∀ entry ∈ hostRouter.routingTable, entry.subnet.toNat ≤ 32) ∧
      (DropsOnlyBroadcasts (sampleConfig 1) hostRouter 0 packetToHost ↔ ∀ hop subnet outInterface,
          LookedUp (sampleConfig 1) hostRouter 0 packetToHost hop subnet outInterface →
            ¬ MistakenFor hostRouter.routingTable packetToHost.dstIp hop subnet) :=
  ⟨hostRouter_fits, dropsOnlyBroadcasts_iff hostRouter_fits⟩

/-- A packet to the host is dropped as a subnet broadcast, and no subnet is attached. -/
theorem host_dropped_as_broadcast :
    ¬ ∀ (config : FwRouterConfig 1) (router : Router 1) (interface : Fin 1) (packet : Packet),
      (∀ entry ∈ router.routingTable, entry.subnet.toNat ≤ 32) →
        routeVerdict config router interface packet = .subnetBroadcast →
          IsSubnetBroadcast router.routingTable packet.dstIp := by
  intro claimed
  have dropped : routeVerdict (sampleConfig 1) hostRouter 0 packetToHost = .subnetBroadcast :=
    routeVerdict_eq_subnetBroadcast.mpr ⟨_, _, _, hostRouter_lookedUp, by decide⟩
  obtain ⟨entry, member, _, small, _⟩ :=
    claimed (sampleConfig 1) hostRouter 0 packetToHost hostRouter_fits dropped
  cases List.mem_singleton.mp member
  exact absurd small (by decide)

end LionsOS.Firewall

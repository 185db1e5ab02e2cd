/-
This file embeds what a filter does with one packet (`filter` of the three filter
programs), and how the receive virtualiser picks the client a packet goes to. A
filter passes a packet on to the router or returns its buffer; a rejected packet
is reported to the ICMP module, except that the ICMP filter does not report an
ICMP error message, and that the TCP filter rejects nothing.
-/

import LionsOS.Firewall.ArpRequester
import LionsOS.Firewall.FilterGroup
import LionsOS.Firewall.Protected
import LionsOS.Firewall.Router

namespace LionsOS.Firewall

variable {interfaces : Nat} {packet : Packet}

/-! ### ICMP error messages -/

def icmpSrcQuench : UInt8T := 4
def icmpParamProblem : UInt8T := 12

def icmpDestPortUnreachable : UInt8T := 3

/-- Whether an ICMP type is that of an error message. -/
def icmpIsErrorMessage (type : UInt8T) : Bool :=
  type == icmpDestUnreachable || type == icmpRedirectMsg || type == icmpSrcQuench ||
    type == icmpTtlExceed || type == icmpParamProblem

/-- The first byte behind the IP header, which is the type of an ICMP message. -/
def Packet.icmpType (packet : Packet) : UInt8T :=
  packet (transportLayerOffset packet).toNat

/-- The packet is itself an ICMP error message. -/
def Packet.isIcmpError (packet : Packet) : Bool :=
  packet.protocol == ipv4ProtoIcmp && icmpIsErrorMessage packet.icmpType

/-! ### The client a packet goes to -/

def ipv4ProtoUdp : UInt8T := 0x11

/-- A client of the receive virtualiser, with the traffic it gets. -/
structure RxClient where
  ethtype : UInt16T
  subtype : UInt16T

/-- Whether a packet is for a client: an ARP packet by its opcode, an IPv4 packet by its
protocol. -/
def RxClient.gets (client : RxClient) (packet : Packet) : Bool :=
  let ethtype := htons packet.ethtype
  if client.ethtype ≠ ethtype then false
  else if ethtype = ethTypeArp then client.subtype == htons packet.arpOpcode
  else if ethtype = ethTypeIp then client.subtype == packet.protocol.setWidth 16
  else false

/-- The first client that a packet is for. -/
def getProtocolMatch (clients : List RxClient) (packet : Packet) : Option Nat :=
  clients.findIdx? fun client => client.gets packet

/-- The protocol of the packets that a filter gets. -/
def FilterProtocol.number : FilterProtocol → UInt8T
  | .icmp => ipv4ProtoIcmp
  | .tcp => ipv4ProtoTcp
  | .udp => ipv4ProtoUdp

/-- The client that a filter is for the receive virtualiser. -/
def FilterProtocol.rxClient (protocol : FilterProtocol) : RxClient :=
  { ethtype := ethTypeIp, subtype := protocol.number.setWidth 16 }

/-- A filter only gets packets of its protocol. -/
theorem protocol_of_getProtocolMatch {clients : List RxClient} {client : Nat}
    {protocol : FilterProtocol} (isFilter : clients[client]? = some protocol.rxClient)
    (matched : getProtocolMatch clients packet = some client) :
    packet.protocol = protocol.number := by
  obtain ⟨inside, gets, _⟩ := List.findIdx?_eq_some_iff_getElem.mp matched
  rw [List.getElem?_eq_getElem inside, Option.some.injEq] at isFilter
  rw [isFilter, RxClient.gets] at gets
  have isIp : protocol.rxClient.ethtype = ethTypeIp := rfl
  have ethtype : protocol.rxClient.ethtype = htons packet.ethtype := by
    by_contra different
    rw [if_pos different] at gets
    cases gets
  rw [← ethtype, isIp, if_pos rfl] at gets
  have same := congrArg BitVec.toNat (beq_iff_eq.mp gets)
  rw [FilterProtocol.rxClient, BitVec.toNat_setWidth, BitVec.toNat_setWidth] at same
  refine BitVec.eq_of_toNat_eq ?_
  omega

/-! ### Filtering a packet -/

namespace Packet

/-- The flow of a packet whose transport header starts with its ports. -/
def portFlow (packet : Packet) : PacketFlow :=
  { srcIp := packet.srcIp
    srcPort := packet.load16 (transportLayerOffset packet).toNat
    dstIp := packet.dstIp
    dstPort := packet.load16 ((transportLayerOffset packet).toNat + 2) }

/-- The flow of an ICMP packet, which has no ports. -/
def portlessFlow (packet : Packet) : PacketFlow :=
  { srcIp := packet.srcIp, srcPort := icmpFilterDummyPort, dstIp := packet.dstIp,
    dstPort := icmpFilterDummyPort }

end Packet

/-- What a filter leaves after a packet. -/
structure FilterResult (interfaces : Nat) where
  state : FwFilterState
  icmpQueue : FwQueue (IcmpReq interfaces)
  notifyIcmp : Bool
  /-- The packet that goes to the router. Without one its buffer is returned. -/
  transmitted : Option Packet

/-- What a filter knows besides its rules and instances. -/
structure FwFilterConfig (interfaces : Nat) where
  interface : Fin interfaces
  /-- The build leaves checksums to the hardware. -/
  networkHwHasChecksum : Bool

/-- A filter's loop body. The filters differ in the flow they look up, in the checksum they reset
and in the rejected packets they report. -/
def filterWith (flow : Packet → PacketFlow) (checkOffset : Nat) (reports : Packet → Bool)
    (config : FwFilterConfig interfaces) (state : FwFilterState)
    (externalInstancesTable : List (List FwInstance)) (icmpQueue : FwQueue (IcmpReq interfaces))
    (packet : Packet) : FilterResult interfaces :=
  let (action, _, state) := filterPacket state externalInstancesTable (flow packet)
  if action = FwAction.connect ∨ action = FwAction.established ∨ action = FwAction.allow then
    let forwarded :=
      if config.networkHwHasChecksum then
        packet.store16 ((transportLayerOffset packet).toNat + checkOffset) 0
      else packet
    { state, icmpQueue, notifyIcmp := false, transmitted := some forwarded }
  else if action = FwAction.reject ∧ reports packet then
    let (enqueued, icmpQueue) := icmpEnqueueError icmpQueue icmpDestUnreachable
      icmpDestPortUnreachable packet config.interface
    { state, icmpQueue, notifyIcmp := enqueued, transmitted := none }
  else { state, icmpQueue, notifyIcmp := false, transmitted := none }

/-- The ICMP filter sends no error message upon reception of another one. -/
def icmpFilter : FwFilterConfig interfaces → FwFilterState → List (List FwInstance) →
    FwQueue (IcmpReq interfaces) → Packet → FilterResult interfaces :=
  filterWith Packet.portlessFlow 2 fun packet => !icmpIsErrorMessage packet.icmpType

def udpFilter : FwFilterConfig interfaces → FwFilterState → List (List FwInstance) →
    FwQueue (IcmpReq interfaces) → Packet → FilterResult interfaces :=
  filterWith Packet.portFlow 6 fun _ => true

/-- The TCP filter has no case for a rejected packet, and drops it. -/
def tcpFilter : FwFilterConfig interfaces → FwFilterState → List (List FwInstance) →
    FwQueue (IcmpReq interfaces) → Packet → FilterResult interfaces :=
  filterWith Packet.portFlow 16 fun _ => false

def FilterProtocol.filter : FilterProtocol → FwFilterConfig interfaces → FwFilterState →
    List (List FwInstance) → FwQueue (IcmpReq interfaces) → Packet → FilterResult interfaces
  | .icmp => icmpFilter
  | .tcp => tcpFilter
  | .udp => udpFilter

/-- What a filter adds to the ICMP queue: nothing, or the report of a packet that it may report. -/
theorem filterWith_icmpQueue (flow : Packet → PacketFlow) (checkOffset : Nat)
    (reports : Packet → Bool) (config : FwFilterConfig interfaces) (state : FwFilterState)
    (externalInstancesTable : List (List FwInstance)) (icmpQueue : FwQueue (IcmpReq interfaces))
    (packet : Packet) :
    (filterWith flow checkOffset reports config state externalInstancesTable icmpQueue
        packet).icmpQueue = icmpQueue ∨
      reports packet = true ∧
        (filterWith flow checkOffset reports config state externalInstancesTable icmpQueue
          packet).icmpQueue = (icmpEnqueueError icmpQueue icmpDestUnreachable
            icmpDestPortUnreachable packet config.interface).2 := by
  unfold filterWith
  dsimp only
  split_ifs with passes hardware rejected
  · exact Or.inl rfl
  · exact Or.inl rfl
  · exact Or.inr ⟨rejected.2, rfl⟩
  · exact Or.inl rfl

/-- A filter reports no ICMP error message of its own protocol. -/
theorem FilterProtocol.filter_icmpQueue (protocol : FilterProtocol)
    (config : FwFilterConfig interfaces) (state : FwFilterState)
    (externalInstancesTable : List (List FwInstance)) (icmpQueue : FwQueue (IcmpReq interfaces))
    (mine : packet.protocol = protocol.number) :
    (protocol.filter config state externalInstancesTable icmpQueue packet).icmpQueue = icmpQueue ∨
      packet.isIcmpError = false ∧
        (protocol.filter config state externalInstancesTable icmpQueue packet).icmpQueue =
          (icmpEnqueueError icmpQueue icmpDestUnreachable icmpDestPortUnreachable packet
            config.interface).2 := by
  cases protocol with
  | icmp =>
    refine (filterWith_icmpQueue _ _ _ config state externalInstancesTable icmpQueue
      packet).imp_right fun reported => ⟨?_, reported.2⟩
    rw [Packet.isIcmpError, Bool.and_eq_false_iff]
    exact Or.inr (Bool.not_eq_true' _ ▸ reported.1)
  | tcp =>
    exact (filterWith_icmpQueue _ _ _ config state externalInstancesTable icmpQueue
      packet).imp_right fun reported => absurd reported.1 Bool.false_ne_true
  | udp =>
    refine (filterWith_icmpQueue _ _ _ config state externalInstancesTable icmpQueue
      packet).imp_right fun reported => ⟨?_, reported.2⟩
    rw [Packet.isIcmpError, mine, Bool.and_eq_false_iff]
    exact Or.inl rfl

end LionsOS.Firewall

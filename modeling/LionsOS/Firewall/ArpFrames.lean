/-
This file embeds the two builders of ARP frames, `generate_arp` of the requester
and `arp_reply` of the responder, and says which bytes of a frame they write.
Both fill in every field but the padding, and both hand the padding to the
driver.
-/

import LionsOS.Firewall.ArpRequester
import LionsOS.Firewall.FrameBytes

namespace LionsOS.Firewall

open Set Packet

/-! ### Building a frame -/

def arpHwtypeEth : UInt16T := 1
def arpProtoLenIpv4 : UInt8T := 4
def arpEthOpcodeRequest : UInt16T := 1

def arpPaddingOffset : Nat := arpPktOffset + 28
def arpPaddingLen : Nat := 18

/-- With the Ethernet header. -/
def arpPktLen : Nat := arpPaddingOffset + arpPaddingLen

/-- The addresses that the requester and the responder are configured with. -/
structure FwArpConfig where
  macAddr : MacAddr
  ip : UInt32T

structure ArpFrame where
  packet : Packet
  len : UInt16T

/-- The frame that both builders write over what the transmit buffer held. -/
def arpFrame (buffer : Packet) (opcode : UInt16T) (ethdstAddr ethsrcAddr hwsrcAddr : MacAddr)
    (ipsrcAddr : UInt32T) (hwdstAddr : MacAddr) (ipdstAddr : UInt32T) : ArpFrame :=
  let packet := buffer.storeMac ethdstAddrOffset ethdstAddr
  let packet := packet.storeMac ethsrcAddrOffset ethsrcAddr
  let packet := packet.store16 ethtypeOffset (htons ethTypeArp)
  let packet := packet.store16 arpPktOffset (htons arpHwtypeEth)
  let packet := packet.store16 (arpPktOffset + 2) (htons ethTypeIp)
  let packet := packet.store8 (arpPktOffset + 4) (BitVec.ofNat 8 ethHwaddrLen)
  let packet := packet.store8 (arpPktOffset + 5) arpProtoLenIpv4
  let packet := packet.store16 (arpPktOffset + 6) (htons opcode)
  let packet := packet.storeMac (arpPktOffset + 8) hwsrcAddr
  let packet := packet.store32 (arpPktOffset + 14) ipsrcAddr
  let packet := packet.storeMac (arpPktOffset + 18) hwdstAddr
  let packet := packet.store32 (arpPktOffset + 24) ipdstAddr
  { packet, len := BitVec.ofNat 16 arpPktLen }

/-- The request for an address. -/
def generateArp (config : FwArpConfig) (buffer : Packet) (ip : UInt32T) : ArpFrame :=
  arpFrame buffer arpEthOpcodeRequest broadcastMacAddr config.macAddr config.macAddr config.ip
    (fun _ => 0) ip

/-- A reply, unless no transmit buffer is free. -/
def arpReply (free : Option Packet) (ethsrcAddr ethdstAddr hwsrcAddr : MacAddr)
    (ipsrcAddr : UInt32T) (hwdstAddr : MacAddr) (ipdstAddr : UInt32T) : Option ArpFrame :=
  free.map fun buffer =>
    arpFrame buffer arpEthOpcodeReply ethdstAddr ethsrcAddr hwsrcAddr ipsrcAddr hwdstAddr ipdstAddr

namespace Packet

def arpIpdstAddr (packet : Packet) : UInt32T := packet.load32 (arpPktOffset + 24)

end Packet

/-- What the responder's `receive` sends for a packet: a reply to a request for its address. -/
def respondArp (config : FwArpConfig) (free : Option Packet) (received : Packet) :
    Option ArpFrame :=
  if received.ethtype = htons ethTypeArp ∧ received.arpOpcode = htons arpEthOpcodeRequest ∧
      received.arpIpdstAddr = config.ip then
    arpReply free config.macAddr received.ethsrcAddr config.macAddr config.ip
      received.arpHwsrcAddr received.arpIpsrcAddr
  else none

/-! ### What is written -/

section

variable (opcode : UInt16T) (ethdstAddr ethsrcAddr hwsrcAddr : MacAddr) (ipsrcAddr : UInt32T)
  (hwdstAddr : MacAddr) (ipdstAddr : UInt32T)

theorem arpFrame_overwrites :
    Overwrites ∅ (Iio arpPaddingOffset) fun buffer =>
      (arpFrame buffer opcode ethdstAddr ethsrcAddr hwsrcAddr ipsrcAddr hwdstAddr
        ipdstAddr).packet := by
  have ethernet := ((storeMac_overwrites ethdstAddrOffset ethdstAddr).andThen
    (storeMac_overwrites ethsrcAddrOffset ethsrcAddr)).andThen
    (store16_overwrites ethtypeOffset (htons ethTypeArp))
  have types := (((ethernet.andThen (store16_overwrites arpPktOffset (htons arpHwtypeEth))).andThen
    (store16_overwrites (arpPktOffset + 2) (htons ethTypeIp))).andThen
    (store8_overwrites (arpPktOffset + 4) (BitVec.ofNat 8 ethHwaddrLen))).andThen
    (store8_overwrites (arpPktOffset + 5) arpProtoLenIpv4)
  have source := ((types.andThen (store16_overwrites (arpPktOffset + 6) (htons opcode))).andThen
    (storeMac_overwrites (arpPktOffset + 8) hwsrcAddr)).andThen
    (store32_overwrites (arpPktOffset + 14) ipsrcAddr)
  have target := (source.andThen (storeMac_overwrites (arpPktOffset + 18) hwdstAddr)).andThen
    (store32_overwrites (arpPktOffset + 24) ipdstAddr)
  refine target.congr ?_
  ext i
  simp only [ethdstAddrOffset, ethsrcAddrOffset, ethtypeOffset, ethHwaddrLen,
    arpPktOffset, arpPaddingOffset, mem_union, mem_Ico, mem_Iio]
  omega

/-- What is handed to the driver does not depend on what the buffer held. -/
def Determined (frame : Packet → ArpFrame) : Prop :=
  ∀ first second, ∀ i < (frame first).len.toNat, (frame first).packet i = (frame second).packet i

/-- The bytes that do not depend on what the buffer held are those below a bound. -/
def DeterminedBelow (frame : Packet → ArpFrame) (bound : Nat) : Prop :=
  ∀ i, (∀ first second, (frame first).packet i = (frame second).packet i) ↔ i < bound

theorem arpFrame_determinedBelow :
    DeterminedBelow (fun buffer => arpFrame buffer opcode ethdstAddr ethsrcAddr hwsrcAddr ipsrcAddr
      hwdstAddr ipdstAddr) arpPaddingOffset :=
  (arpFrame_overwrites opcode ethdstAddr ethsrcAddr hwsrcAddr ipsrcAddr hwdstAddr
    ipdstAddr).place_determined_iff

theorem arpFrame_not_determined :
    ¬ Determined fun buffer => arpFrame buffer opcode ethdstAddr ethsrcAddr hwsrcAddr ipsrcAddr
      hwdstAddr ipdstAddr := by
  intro determined
  have sent : arpPaddingOffset < (BitVec.ofNat 16 arpPktLen).toNat := by decide
  have written := (arpFrame_determinedBelow opcode ethdstAddr ethsrcAddr hwsrcAddr ipsrcAddr
    hwdstAddr ipdstAddr arpPaddingOffset).mp fun first second =>
      determined first second arpPaddingOffset sent
  exact absurd written (Nat.lt_irrefl _)

end

/-- No ARP frame is determined by the configuration and the addresses: of a request and of a reply
exactly the bytes before the padding are. -/
theorem arp_frames_never_determined (config : FwArpConfig) :
    (∀ ip, ¬ Determined (fun buffer => generateArp config buffer ip) ∧
        DeterminedBelow (fun buffer => generateArp config buffer ip) arpPaddingOffset) ∧
      ∀ received, received.ethtype = htons ethTypeArp →
        received.arpOpcode = htons arpEthOpcodeRequest → received.arpIpdstAddr = config.ip →
        ∃ frame, (∀ buffer, respondArp config (some buffer) received = some (frame buffer)) ∧
          ¬ Determined frame ∧ DeterminedBelow frame arpPaddingOffset := by
  refine ⟨fun ip => ⟨?_, ?_⟩, fun received ethtype opcode mine => ?_⟩
  · exact arpFrame_not_determined _ _ _ _ _ _ _
  · exact arpFrame_determinedBelow _ _ _ _ _ _ _
  · refine ⟨_, fun buffer => if_pos ⟨ethtype, opcode, mine⟩, ?_, ?_⟩
    · exact arpFrame_not_determined _ _ _ _ _ _ _
    · exact arpFrame_determinedBelow _ _ _ _ _ _ _

/-- Over a buffer of zeroes and over a buffer of ones, requests for one address differ. -/
theorem arp_request_not_determined :
    ¬ ∀ (config : FwArpConfig) (ip : UInt32T),
      Determined fun buffer => generateArp config buffer ip := by
  intro claimed
  have same := claimed ⟨fun _ => 0, 0⟩ 0 (fun _ => 0) (fun _ => 1) arpPaddingOffset (by decide)
  exact absurd same (by decide)

end LionsOS.Firewall

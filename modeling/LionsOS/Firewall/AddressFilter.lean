/-
This file is about the packets that the router drops for their destination
address. An address is in network order in memory and is read as a
little-endian word, so its last octet is the highest byte of the word, and the
highest byte is what the multicast mask looks at.
-/

import LionsOS.Firewall.RouterVerdict

namespace LionsOS.Firewall

variable {interfaces : Nat}

namespace Packet

/-- An octet of the destination address, in network order. -/
def dstOctet (packet : Packet) (octet : Fin 4) : UInt8T := packet (dstIpOffset + octet)

/-- The tests of the router on the destination address. -/
def AddressFiltered (packet : Packet) : Prop :=
  packet.dstIp = broadcastIpAddr ∨ packet.dstIp &&& multicastIpMask = multicastIpAddr

/-- An octet that a multicast address starts with. -/
def MulticastOctet (octet : UInt8T) : Prop := 224 ≤ octet.toNat ∧ octet.toNat ≤ 239

/-- The destination is 255.255.255.255 or its first octet is that of a multicast address. -/
def BroadcastOrMulticast (packet : Packet) : Prop :=
  (∀ octet, packet.dstOctet octet = 255) ∨ MulticastOctet (packet.dstOctet 0)

/-! ### The word and its octets -/

theorem append_eq_append_iff {high low : Nat} {first other : BitVec high}
    {second another : BitVec low} :
    first ++ second = other ++ another ↔ first = other ∧ second = another := by
  constructor
  · intro same
    have highBits := congrArg (fun word => word.extractLsb' low high) same
    have lowBits := congrArg (fun word => word.extractLsb' 0 low) same
    simp only [BitVec.extractLsb'_append_eq_left, BitVec.extractLsb'_append_eq_right]
      at highBits lowBits
    exact ⟨highBits, lowBits⟩
  · rintro ⟨rfl, rfl⟩
    rfl

theorem multicastOctet_iff (octet : UInt8T) : octet &&& 0xf0 = 0xe0 ↔ MulticastOctet octet := by
  unfold MulticastOctet
  revert octet
  decide +kernel

variable {packet : Packet}

theorem dstIp_eq_append (packet : Packet) :
    packet.dstIp = packet.dstOctet 3 ++ packet.dstOctet 2 ++ packet.dstOctet 1 ++
      packet.dstOctet 0 := rfl

theorem dstIp_eq_broadcastIpAddr :
    packet.dstIp = broadcastIpAddr ↔ ∀ octet, packet.dstOctet octet = 255 := by
  have octets : broadcastIpAddr = (255 : UInt8T) ++ (255 : UInt8T) ++ (255 : UInt8T) ++
      (255 : UInt8T) := by decide
  rw [dstIp_eq_append, octets, append_eq_append_iff, append_eq_append_iff, append_eq_append_iff,
    Fin.forall_fin_succ, Fin.forall_fin_succ, Fin.forall_fin_two]
  constructor
  · rintro ⟨⟨⟨last, third⟩, second⟩, first⟩
    exact ⟨first, second, third, last⟩
  · rintro ⟨first, second, third, last⟩
    exact ⟨⟨⟨last, third⟩, second⟩, first⟩

theorem dstIp_and_multicastIpMask :
    packet.dstIp &&& multicastIpMask = multicastIpAddr ↔ MulticastOctet (packet.dstOctet 3) := by
  have mask : multicastIpMask =
      (0xf0 : UInt8T) ++ (0 : UInt8T) ++ (0 : UInt8T) ++ (0 : UInt8T) := by
    decide
  have addr : multicastIpAddr =
      (0xe0 : UInt8T) ++ (0 : UInt8T) ++ (0 : UInt8T) ++ (0 : UInt8T) := by
    decide
  rw [dstIp_eq_append, mask, addr, BitVec.and_append, BitVec.and_append, BitVec.and_append,
    append_eq_append_iff, append_eq_append_iff, append_eq_append_iff, multicastOctet_iff]
  simp

theorem addressFiltered_iff : packet.AddressFiltered ↔
    (∀ octet, packet.dstOctet octet = 255) ∨ MulticastOctet (packet.dstOctet 3) :=
  or_congr dstIp_eq_broadcastIpAddr dstIp_and_multicastIpMask

theorem addressFiltered_iff_broadcastOrMulticast :
    (packet.AddressFiltered ↔ packet.BroadcastOrMulticast) ↔
      (MulticastOctet (packet.dstOctet 0) ↔ MulticastOctet (packet.dstOctet 3)) := by
  rw [addressFiltered_iff, BroadcastOrMulticast]
  by_cases broadcast : ∀ octet, packet.dstOctet octet = 255
  · rw [broadcast 0, broadcast 3]
    exact iff_of_true (iff_of_true (Or.inl broadcast) (Or.inl broadcast)) Iff.rfl
  · rw [or_iff_right broadcast, or_iff_right broadcast]
    exact Iff.comm

end Packet

/-! ### What the router drops -/

open Packet Router

theorem routeVerdict_eq_drop (config : FwRouterConfig interfaces) (router : Router interfaces)
    (interface : Fin interfaces) (packet : Packet) :
    routeVerdict config router interface packet = .drop ↔
      packet.AddressFiltered ∨ packet.ethdstAddr = broadcastMacAddr ∨
        packet.ethtype ≠ htons ethTypeIp := by
  unfold routeVerdict AddressFiltered
  split_ifs with filtered ethtype
  · refine iff_of_true rfl ?_
    rcases filtered with broadcast | mac | multicast
    · exact Or.inl (Or.inl broadcast)
    · exact Or.inr (Or.inl mac)
    · exact Or.inl (Or.inr multicast)
  · exact iff_of_true rfl (Or.inr (Or.inr ethtype))
  all_goals
    refine iff_of_false ?_ ?_
    rotate_left
    · rintro ((broadcast | multicast) | mac | other)
      · exact filtered (Or.inl broadcast)
      · exact filtered (Or.inr (Or.inr multicast))
      · exact filtered (Or.inr (Or.inl mac))
      · exact ethtype other
  · simp
  · simp
  · split
    · simp
    · split_ifs <;> simp

/-- The router drops a packet for its destination address, for a broadcast address of the link
layer, or because it is not IPv4. The first is right about broadcast and multicast addresses
exactly where the first and the last octet agree about being multicast. -/
theorem address_filter_exact (config : FwRouterConfig interfaces) (router : Router interfaces)
    (interface : Fin interfaces) (packet : Packet) :
    (routeVerdict config router interface packet = .drop ↔
      packet.AddressFiltered ∨ packet.ethdstAddr = broadcastMacAddr ∨
        packet.ethtype ≠ htons ethTypeIp) ∧
      ((packet.AddressFiltered ↔ packet.BroadcastOrMulticast) ↔
        (MulticastOctet (packet.dstOctet 0) ↔ MulticastOctet (packet.dstOctet 3))) :=
  ⟨routeVerdict_eq_drop config router interface packet, addressFiltered_iff_broadcastOrMulticast⟩

/-- An IPv4 packet to 224.0.0.5, with a time to live of 64. -/
def multicastPacket : Packet := fun i =>
  match i with
  | 12 => 0x08
  | 14 => 0x45
  | 22 => 64
  | 30 => 224
  | 33 => 5
  | _ => 0

/-- Multicast traffic to 224.0.0.5 is not filtered. -/
theorem multicast_not_filtered :
    ¬ ∀ packet : Packet, packet.ethtype = htons ethTypeIp →
      (packet.AddressFiltered ↔ packet.BroadcastOrMulticast) := by
  intro claimed
  have multicast : multicastPacket.BroadcastOrMulticast := Or.inr (by
    unfold MulticastOctet
    decide)
  have filtered := (claimed multicastPacket (by decide)).mpr multicast
  rcases filtered with broadcast | masked
  · exact absurd broadcast (by decide)
  · exact absurd masked (by decide)

end LionsOS.Firewall

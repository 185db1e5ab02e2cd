/-
This file compares a packet as the router sends it with the packet as it was
received: which bytes may differ, what becomes of the time to live, and why the
header checksum of the sent packet verifies when it is calculated in software.
-/

import LionsOS.Firewall.Checksum
import LionsOS.Firewall.RouterCases

namespace LionsOS.Firewall

open OnesComplement Packet

variable {interfaces : Nat} {i : Nat}

/-! ### Stores into a packet -/

namespace Packet

theorem storeMac_of_le (packet : Packet) {n : Nat} (macAddr : MacAddr)
    (after : n + ethHwaddrLen ≤ i) : packet.storeMac n macAddr i = packet i :=
  dif_neg fun inside => Nat.not_lt.mpr after inside.2

theorem storeMac_storeMac_of_le (packet : Packet) (dst src : MacAddr) (after : 12 ≤ i) :
    (packet.storeMac ethdstAddrOffset dst).storeMac ethsrcAddrOffset src i = packet i := by
  have afterDst : ethdstAddrOffset + ethHwaddrLen ≤ i := Nat.le_trans (by decide) after
  have afterSrc : ethsrcAddrOffset + ethHwaddrLen ≤ i := after
  rw [storeMac_of_le _ src afterSrc, storeMac_of_le packet dst afterDst]

end Packet

/-! ### The sent packet -/

variable {config : FwRouterConfig interfaces} {packet : Packet} {macAddr : MacAddr}
  {outInterface : Fin interfaces}

/-- The packet before its checksum is calculated. -/
def unchecked (config : FwRouterConfig interfaces) (packet : Packet) (macAddr : MacAddr)
    (outInterface : Fin interfaces) : Packet :=
  ((packet.storeMac ethdstAddrOffset macAddr).storeMac ethsrcAddrOffset
    (config.interface outInterface).macAddr).store16 checkOffset 0

theorem outgoingPacket_eq : Router.outgoingPacket config packet macAddr outInterface =
    if config.networkHwHasChecksum then unchecked config packet macAddr outInterface
    else (unchecked config packet macAddr outInterface).store16 checkOffset
      (fwInternetChecksum ((unchecked config packet macAddr outInterface).advance ipv4HdrOffset)
        (ipv4HeaderLength (unchecked config packet macAddr outInterface)).toNat) := rfl

theorem unchecked_of_le (after : 12 ≤ i) (first : i ≠ checkOffset) (second : i ≠ checkOffset + 1) :
    unchecked config packet macAddr outInterface i = packet i := by
  rw [unchecked, store16_of_ne _ _ first second, storeMac_storeMac_of_le _ _ _ after]

theorem outgoingPacket_of_le (after : 12 ≤ i) (first : i ≠ checkOffset)
    (second : i ≠ checkOffset + 1) :
    Router.outgoingPacket config packet macAddr outInterface i = packet i := by
  rw [outgoingPacket_eq]
  split_ifs
  · exact unchecked_of_le after first second
  · rw [store16_of_ne _ _ first second, unchecked_of_le after first second]

theorem outgoingPacket_verifies (software : config.networkHwHasChecksum = false)
    (minimum : 5 ≤ packet.ihl.toNat) :
    Verifies ((Router.outgoingPacket config packet macAddr outInterface).advance
      ipv4HdrOffset).bytes (4 * packet.ihl.toNat) := by
  have headerLength : (ipv4HeaderLength (unchecked config packet macAddr outInterface)).toNat =
      4 * packet.ihl.toNat := by
    rw [ipv4HeaderLength_toNat, ihl, unchecked_of_le (by decide) (by decide) (by decide), ihl]
  have inside : 2 * 5 + 1 < 4 * packet.ihl.toNat := by omega
  have zeroFirst : unchecked config packet macAddr outInterface
      (ipv4HdrOffset + 2 * 5) = 0 := store16_first _ _ _
  have zeroSecond : unchecked config packet macAddr outInterface
      (ipv4HdrOffset + (2 * 5 + 1)) = 0 := store16_second _ _ _
  rw [outgoingPacket_eq, software, headerLength]
  exact storeChecksum_verifies (by omega) inside zeroFirst zeroSecond

/-! ### The sent packet and the received one -/

/-- How a packet sent by the router relates to the one it received: the time to live, which was
more than one, is one less, and the rest of what follows the Ethernet addresses is the same but
for the checksum, which verifies if it is calculated in software. -/
structure Forwarded (config : FwRouterConfig interfaces) (received sent : Packet) : Prop where
  alive : 1 < received.ttl
  ttl : sent.ttl = received.ttl - 1
  same : ∀ i, 12 ≤ i → i ≠ ttlOffset → i ≠ checkOffset →
    i ≠ checkOffset + 1 → sent i = received i
  verifies : config.networkHwHasChecksum = false → 5 ≤ received.ihl.toNat →
    Verifies (sent.advance ipv4HdrOffset).bytes (4 * received.ihl.toNat)

theorem forwarded_outgoingPacket {received : Packet} (alive : 1 < received.ttl)
    (macAddr : MacAddr) (outInterface : Fin interfaces) :
    Forwarded config received
      (Router.outgoingPacket config received.decremented macAddr outInterface) where
  alive := alive
  ttl := by
    unfold ttl
    rw [outgoingPacket_of_le (by decide) (by decide) (by decide)]
    exact store8_self _ _ _
  same i after ttl first second := by
    rw [outgoingPacket_of_le after first second]
    exact store8_of_ne _ _ ttl
  verifies software minimum := by
    exact outgoingPacket_verifies software minimum

end LionsOS.Firewall

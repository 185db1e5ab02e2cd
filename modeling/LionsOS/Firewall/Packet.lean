/-
This file embeds the packet layouts of `ethernet.h` and `ip.h` over the bytes of
a buffer, and the checksum of `checksum.h`. Multi-byte fields are read as the
little-endian machine reads them.
-/

import LionsOS.Firewall.Common
import LionsOS.Lib.OnesComplement

namespace LionsOS.Firewall

open OnesComplement

/-! ### Bytes and words of a packet -/

/-- The bytes of a buffer, counted from its start. -/
abbrev Packet := Nat → UInt8T

def ethHwaddrLen : Nat := 6

abbrev MacAddr := Fin ethHwaddrLen → UInt8T

namespace Packet

/-- The bytes from `n` on. -/
def advance (packet : Packet) (n : Nat) : Packet := fun i => packet (n + i)

def load16 (packet : Packet) (n : Nat) : UInt16T :=
  packet (n + 1) ++ packet n

def load32 (packet : Packet) (n : Nat) : UInt32T :=
  packet (n + 3) ++ packet (n + 2) ++ packet (n + 1) ++ packet n

def loadMac (packet : Packet) (n : Nat) : MacAddr := fun i => packet (n + i)

def store8 (packet : Packet) (n : Nat) (value : UInt8T) : Packet :=
  Function.update packet n value

def store16 (packet : Packet) (n : Nat) (value : UInt16T) : Packet :=
  (packet.store8 n (value.setWidth 8)).store8 (n + 1) ((value >>> 8).setWidth 8)

def storeMac (packet : Packet) (n : Nat) (macAddr : MacAddr) : Packet := fun i =>
  if inside : n ≤ i ∧ i < n + ethHwaddrLen then macAddr ⟨i - n, by omega⟩ else packet i

/-! ### Stored bytes -/

theorem store8_self (packet : Packet) (n : Nat) (value : UInt8T) :
    packet.store8 n value n = value := by
  rw [store8, Function.update_self]

theorem store8_of_ne (packet : Packet) {n i : Nat} (value : UInt8T) (different : i ≠ n) :
    packet.store8 n value i = packet i := by
  rw [store8, Function.update_of_ne different]

theorem store16_of_ne (packet : Packet) {n i : Nat} (value : UInt16T) (first : i ≠ n)
    (second : i ≠ n + 1) : packet.store16 n value i = packet i := by
  rw [store16, store8_of_ne _ _ second, store8_of_ne _ _ first]

theorem store16_first (packet : Packet) (n : Nat) (value : UInt16T) :
    packet.store16 n value n = value.setWidth 8 := by
  rw [store16, store8_of_ne _ _ (Nat.ne_of_lt (Nat.lt_succ_self n)), store8_self]

theorem store16_second (packet : Packet) (n : Nat) (value : UInt16T) :
    packet.store16 n value (n + 1) = (value >>> 8).setWidth 8 :=
  store8_self _ _ _

/-! ### Header fields -/

def ethdstAddrOffset : Nat := 0
def ethsrcAddrOffset : Nat := 6
def ethtypeOffset : Nat := 12
def ipv4HdrOffset : Nat := 14
def totLenOffset : Nat := ipv4HdrOffset + 2
def ttlOffset : Nat := ipv4HdrOffset + 8
def protocolOffset : Nat := ipv4HdrOffset + 9
def checkOffset : Nat := ipv4HdrOffset + 10
def srcIpOffset : Nat := ipv4HdrOffset + 12
def dstIpOffset : Nat := ipv4HdrOffset + 16

def ethdstAddr (packet : Packet) : MacAddr := packet.loadMac ethdstAddrOffset
def ethsrcAddr (packet : Packet) : MacAddr := packet.loadMac ethsrcAddrOffset
def ethtype (packet : Packet) : UInt16T := packet.load16 ethtypeOffset

/-- The header length in 32-bit words, the low half of the first header byte. -/
def ihl (packet : Packet) : BitVec 4 := (packet ipv4HdrOffset).setWidth 4

def totLen (packet : Packet) : UInt16T := packet.load16 totLenOffset
def ttl (packet : Packet) : UInt8T := packet ttlOffset
def protocol (packet : Packet) : UInt8T := packet protocolOffset
def check (packet : Packet) : UInt16T := packet.load16 checkOffset
def srcIp (packet : Packet) : UInt32T := packet.load32 srcIpOffset
def dstIp (packet : Packet) : UInt32T := packet.load32 dstIpOffset

end Packet

/-- IPv4 header length in bytes. -/
def ipv4HeaderLength (packet : Packet) : UInt8T :=
  4 * packet.ihl.setWidth 8

/-- Offset of the transport layer header. -/
def transportLayerOffset (packet : Packet) : UInt8T :=
  BitVec.ofNat 8 Packet.ipv4HdrOffset + ipv4HeaderLength packet

theorem ipv4HeaderLength_toNat (packet : Packet) :
    (ipv4HeaderLength packet).toNat = 4 * packet.ihl.toNat := by
  unfold ipv4HeaderLength
  have four : (4 : UInt8T).toNat = 4 := rfl
  rw [BitVec.toNat_mul, BitVec.toNat_setWidth, four]
  omega

/-! ### The checksum -/

/-- The loop that adds up the 16-bit words, and the odd last byte. -/
def sumWords : Packet → Nat → UInt32T → UInt32T
  | _, 0, sum => sum
  | pkt, 1, sum => sum + (pkt 0).setWidth 32
  | pkt, len + 2, sum =>
    sumWords (fun i => pkt (i + 2)) len (sum + (pkt.load16 0).setWidth 32)

theorem foldCarries_step (sum : UInt32T) :
    ((sum &&& (0xffff : UInt32T)) + sum >>> 16).toNat = sum.toNat % 65536 + sum.toNat / 65536 := by
  have low : (sum &&& (0xffff : UInt32T)).toNat = sum.toNat % 65536 := by
    exact Nat.and_two_pow_sub_one_eq_mod sum.toNat 16
  have high : (sum >>> 16).toNat = sum.toNat / 65536 := by
    rw [BitVec.toNat_ushiftRight, Nat.shiftRight_eq_div_pow]
  rw [BitVec.toNat_add]
  omega

theorem carry_ne_zero {sum : UInt32T} : sum >>> 16 ≠ 0 ↔ 65536 ≤ sum.toNat := by
  have zero : (0 : UInt32T).toNat = 0 := rfl
  rw [ne_eq, ← BitVec.toNat_inj, BitVec.toNat_ushiftRight]
  omega

/-- The loop that folds the 32-bit sum to 16 bits. -/
def foldCarries (sum : UInt32T) : UInt32T :=
  if sum >>> 16 ≠ 0 then foldCarries ((sum &&& (0xffff : UInt32T)) + sum >>> 16) else sum
  termination_by sum.toNat
  decreasing_by
    rename_i carry
    have large := carry_ne_zero.mp carry
    rw [foldCarries_step]
    omega

/-- The Internet checksum of `len` bytes. -/
def fwInternetChecksum (pkt : Packet) (len : Nat) : UInt16T :=
  (~~~ foldCarries (sumWords pkt len 0)).setWidth 16

/-- The bytes as numbers. -/
def Packet.bytes (packet : Packet) : Nat → Nat := fun i => (packet i).toNat

theorem foldCarries_toNat (sum : UInt32T) : (foldCarries sum).toNat = fold sum.toNat := by
  induction sum using foldCarries.induct with
  | case1 sum carry inductionHypothesis =>
    rw [foldCarries, if_pos carry, inductionHypothesis, foldCarries_step]
    conv_rhs => rw [fold, if_pos (carry_ne_zero.mp carry)]
  | case2 sum done =>
    rw [foldCarries, if_neg done, fold, if_neg fun large => done (carry_ne_zero.mpr large)]

end LionsOS.Firewall

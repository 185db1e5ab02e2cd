/-
This file says what the subnet masks mean. Addresses are stored big-endian, so
the bytes of an address are swapped before its bits are in the order of the
network. Two addresses agree under the mask of a subnet of at most 32 bits
exactly when their first bits in network order, as many as the subnet has, are
the same.
-/

import LionsOS.Firewall.Common

namespace LionsOS.Firewall

open BitVec

variable {position : Nat} {subnet : UInt8T}

/-- The number an address is in network order, without all but its first `subnet` bits. -/
def networkPrefix (subnet : UInt8T) (ip : UInt32T) : UInt32T :=
  htonl ip >>> (32 - subnet.toNat)

/-! ### Swapping bytes, bit by bit -/

/-- The bit that swapping the bytes of a 32-bit word puts in a position. -/
def swappedBit (position : Nat) : Nat := 8 * (3 - position / 8) + position % 8

theorem swappedBit_lt (inside : position < 32) : swappedBit position < 32 := by
  unfold swappedBit
  omega

theorem swappedBit_swappedBit (inside : position < 32) :
    swappedBit (swappedBit position) = position := by
  unfold swappedBit
  omega

theorem htonl_getLsbD (word : UInt32T) (inside : position < 32) :
    (htonl word).getLsbD position = word.getLsbD (swappedBit position) := by
  unfold htonl swappedBit
  interval_cases position <;> simp

/-! ### Masks and prefixes -/

theorem subnetMask_getLsbD (fits : subnet.toNat ≤ 32) (inside : position < 32) :
    (subnetMask subnet).getLsbD position = decide (32 - subnet.toNat ≤ swappedBit position) := by
  have shift : ((32 - (subnet.toNat : Int)) % 64).toNat = 32 - subnet.toNat := by
    omega
  have below := swappedBit_lt inside
  have ones : ∀ bit, bit < 32 → (0xffffffff : UInt64T).getLsbD bit = true := by
    decide
  rw [subnetMask, htonl_getLsbD _ inside, shift, getLsbD_setWidth, getLsbD_shiftLeft]
  by_cases reached : 32 - subnet.toNat ≤ swappedBit position
  · rw [ones _ (by omega), decide_eq_true reached, decide_eq_true below,
      decide_eq_true (by omega : swappedBit position < 64), decide_eq_false (by omega)]
    rfl
  · rw [decide_eq_true (by omega : swappedBit position < 32 - subnet.toNat),
      decide_eq_false reached]
    simp

theorem masked_eq_iff (fits : subnet.toNat ≤ 32) (ip other : UInt32T) :
    subnetMask subnet &&& ip = subnetMask subnet &&& other ↔
      ∀ position < 32, 32 - subnet.toNat ≤ swappedBit position →
        ip.getLsbD position = other.getLsbD position := by
  constructor
  · intro same position inside reached
    have bit := congrArg (fun word : UInt32T => word.getLsbD position) same
    rw [getLsbD_and, getLsbD_and, subnetMask_getLsbD fits inside, decide_eq_true reached] at bit
    exact bit
  · intro same
    refine eq_of_getLsbD_eq fun position inside => ?_
    rw [getLsbD_and, getLsbD_and, subnetMask_getLsbD fits inside]
    by_cases reached : 32 - subnet.toNat ≤ swappedBit position
    · rw [same position inside reached]
    · rw [decide_eq_false reached, Bool.false_and, Bool.false_and]

theorem networkPrefix_eq_iff (subnet : UInt8T) (ip other : UInt32T) :
    networkPrefix subnet ip = networkPrefix subnet other ↔
      ∀ position < 32, 32 - subnet.toNat ≤ swappedBit position →
        ip.getLsbD position = other.getLsbD position := by
  constructor
  · intro same position inside reached
    have bit := congrArg (fun word : UInt32T =>
      word.getLsbD (swappedBit position - (32 - subnet.toNat))) same
    rw [networkPrefix, networkPrefix, getLsbD_ushiftRight, getLsbD_ushiftRight,
      Nat.add_sub_cancel' reached, htonl_getLsbD _ (swappedBit_lt inside),
      htonl_getLsbD _ (swappedBit_lt inside), swappedBit_swappedBit inside] at bit
    exact bit
  · intro same
    refine eq_of_getLsbD_eq fun position inside => ?_
    rw [networkPrefix, networkPrefix, getLsbD_ushiftRight, getLsbD_ushiftRight]
    by_cases within : 32 - subnet.toNat + position < 32
    · rw [htonl_getLsbD _ within, htonl_getLsbD _ within]
      refine same _ (swappedBit_lt within) ?_
      rw [swappedBit_swappedBit within]
      exact Nat.le_add_right _ _
    · rw [getLsbD_of_ge _ _ (Nat.le_of_not_lt within), getLsbD_of_ge _ _ (Nat.le_of_not_lt within)]

theorem masked_eq_iff_networkPrefix (fits : subnet.toNat ≤ 32) (ip other : UInt32T) :
    subnetMask subnet &&& ip = subnetMask subnet &&& other ↔
      networkPrefix subnet ip = networkPrefix subnet other :=
  (masked_eq_iff fits ip other).trans (networkPrefix_eq_iff subnet ip other).symm

/-- 192.168.2.0 and 192.168.2.7 agree in 24 bits. -/
example : networkPrefix 24 0x0002a8c0 = networkPrefix 24 0x0702a8c0 := by decide

end LionsOS.Firewall

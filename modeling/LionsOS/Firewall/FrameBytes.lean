/-
This file says which bytes of a buffer the stores of a frame's builder write, and
which bytes a checksum reads. What a store writes does not depend on the buffer,
and is what is read there afterwards; a checksum depends on the bytes it is over
and on no others.
-/

import LionsOS.Firewall.IcmpModule
import LionsOS.Lib.Overwrites
import Mathlib.Order.Interval.Set.LinearOrder

namespace LionsOS.Firewall

open Set Packet

variable {first second : Packet} {len : Nat}

instance nontrivialUInt8T : Nontrivial UInt8T := ⟨0, 1, by decide⟩

/-! ### Stores -/

namespace Packet

variable {n : Nat}

theorem store8_overwrites (n : Nat) (value : UInt8T) :
    Overwrites ∅ (Ico n (n + 1)) fun packet : Packet => packet.store8 n value where
  written first second _ i inside := by
    have here : i = n := Nat.le_antisymm (Nat.le_of_lt_succ inside.2) inside.1
    rw [here, store8_self, store8_self]
  kept packet i outside := by
    refine store8_of_ne packet value ?_
    rintro rfl
    exact outside ⟨Nat.le_refl _, Nat.lt_succ_self _⟩

theorem store16_overwrites (n : Nat) (value : UInt16T) :
    Overwrites ∅ (Ico n (n + 2)) fun packet : Packet => packet.store16 n value :=
  ((store8_overwrites n _).andThen (store8_overwrites (n + 1) _)).congr
    (Ico_union_Ico_eq_Ico (Nat.le_succ n) (Nat.le_succ (n + 1)))

theorem store32_overwrites (n : Nat) (value : UInt32T) :
    Overwrites ∅ (Ico n (n + 4)) fun packet : Packet => packet.store32 n value :=
  ((store16_overwrites n _).andThen (store16_overwrites (n + 2) _)).congr
    (Ico_union_Ico_eq_Ico (Nat.le_add_right n 2) (Nat.le_add_right (n + 2) 2))

theorem storeMac_overwrites (n : Nat) (macAddr : MacAddr) :
    Overwrites ∅ (Ico n (n + ethHwaddrLen)) fun packet : Packet => packet.storeMac n macAddr where
  written first second _ i inside := by
    have within : n ≤ i ∧ i < n + ethHwaddrLen := inside
    rw [storeMac, dif_pos within, storeMac, dif_pos within]
  kept _ _ outside := dif_neg outside

theorem storeBytes_overwrites (n : Nat) (bytes : List UInt8T) :
    Overwrites ∅ (Ico n (n + bytes.length)) fun packet : Packet => packet.storeBytes n bytes where
  written first second _ i inside := by
    have within : n ≤ i ∧ i < n + bytes.length := inside
    rw [storeBytes, if_pos within, storeBytes, if_pos within]
  kept _ _ outside := if_neg outside

/-! ### Reading what was stored -/

theorem append_halves {high low : Nat} (value : BitVec (high + low)) :
    (value >>> low).setWidth high ++ value.setWidth low = value := by
  rw [BitVec.setWidth_ushiftRight_eq_extractLsb, BitVec.setWidth_eq_extractLsb' (by omega)]
  exact BitVec.extractLsb'_append_extractLsb'

theorem load16_store16 (packet : Packet) (n : Nat) (value : UInt16T) :
    (packet.store16 n value).load16 n = value := by
  rw [load16, store16_first, store16_second]
  exact @append_halves 8 8 value

theorem load16_congr (low : first n = second n) (high : first (n + 1) = second (n + 1)) :
    first.load16 n = second.load16 n := by
  rw [load16, load16, low, high]

theorem load32_eq_append (packet : Packet) (n : Nat) :
    packet.load32 n = packet.load16 (n + 2) ++ packet.load16 n := by
  unfold load32 load16
  rw [BitVec.append_assoc]
  rfl

theorem load32_congr (low : first.load16 n = second.load16 n)
    (high : first.load16 (n + 2) = second.load16 (n + 2)) : first.load32 n = second.load32 n := by
  rw [load32_eq_append, load32_eq_append, low, high]

theorem load32_store32 (packet : Packet) (n : Nat) (value : UInt32T) :
    (packet.store32 n value).load32 n = value := by
  have below : ∀ i < n + 2, packet.store32 n value i = packet.store16 n (value.setWidth 16) i :=
    fun i below => store16_of_ne _ _ (by omega) (by omega)
  have low : (packet.store32 n value).load16 n = value.setWidth 16 := by
    rw [load16, below n (by omega), below (n + 1) (by omega)]
    exact load16_store16 _ _ _
  have high : (packet.store32 n value).load16 (n + 2) = (value >>> 16).setWidth 16 :=
    load16_store16 _ _ _
  rw [load32_eq_append, low, high]
  exact @append_halves 16 16 value

theorem copy_storeBytes (packet : Packet) (n : Nat) (bytes : List UInt8T) :
    (packet.storeBytes n bytes).copy n bytes.length = bytes := by
  unfold copy
  refine List.ext_getElem ?_ fun i inside member => ?_
  · rw [List.length_map, List.length_range]
  · rw [List.getElem_map, List.getElem_range, storeBytes,
      if_pos ⟨Nat.le_add_right _ _, Nat.add_lt_add_left member _⟩, Nat.add_sub_cancel_left,
      List.getD_eq_getElem?_getD, List.getElem?_eq_getElem member, Option.getD_some]

theorem copy_congr (same : ∀ i < len, first (n + i) = second (n + i)) :
    first.copy n len = second.copy n len :=
  List.map_congr_left fun i inside => same i (List.mem_range.mp inside)

theorem length_copy (packet : Packet) (n len : Nat) : (packet.copy n len).length = len := by
  rw [copy, List.length_map, List.length_range]

end Packet

/-! ### Checksums -/

theorem sumWords_congr (sum : UInt32T) (same : ∀ i < len, first i = second i) :
    sumWords first len sum = sumWords second len sum := by
  induction first, len, sum using sumWords.induct generalizing second with
  | case1 => rfl
  | case2 first sum => rw [sumWords, sumWords, same 0 (Nat.zero_lt_one)]
  | case3 first len sum inductionHypothesis =>
    have word : first.load16 0 = second.load16 0 := by
      rw [load16, load16, same 0 (by omega), same 1 (by omega)]
    rw [sumWords, sumWords, ← word]
    exact inductionHypothesis fun i inside => same (i + 2) (by omega)

theorem fwInternetChecksum_congr (same : ∀ i < len, first i = second i) :
    fwInternetChecksum first len = fwInternetChecksum second len := by
  rw [fwInternetChecksum, fwInternetChecksum, sumWords_congr 0 same]

/-- Storing the checksum of `len` bytes from `start` on. -/
theorem storeChecksum_overwrites (offset start len : Nat) :
    Overwrites (Ico start (start + len)) (Ico offset (offset + 2)) fun packet : Packet =>
      packet.store16 offset (fwInternetChecksum (packet.advance start) len) where
  written first second same i inside := by
    have checksum : fwInternetChecksum (advance first start) len =
        fwInternetChecksum (advance second start) len :=
      fwInternetChecksum_congr fun i below =>
        same (start + i) ⟨Nat.le_add_right _ _, Nat.add_lt_add_left below _⟩
    rw [checksum]
    exact (store16_overwrites offset _).written first second
      (fun _ impossible => absurd impossible id) i inside
  kept packet i outside := (store16_overwrites offset _).kept packet i outside

/-! ### The checksums of an ICMP message -/

variable {interfaces : Nat}

theorem icmpFrame_packet (config : FwIcmpModuleConfig interfaces) (buffer : Packet)
    (req : IcmpReq interfaces) :
    (icmpFrame config buffer req).packet = icmpFrameChecksums config
      ((icmpFramePayload (icmpFrameHeaders config buffer req) req).1.store16 totLenOffset
        (htons (icmpFramePayload (icmpFrameHeaders config buffer req) req).2))
      (icmpFramePayload (icmpFrameHeaders config buffer req) req).2 := rfl

/-- The two checksums. -/
def checkPlaces : Set Nat :=
  Ico icmpCheckOffset (icmpCheckOffset + 2) ∪ Ico checkOffset (checkOffset + 2)

/-- What the two checksums are over, but for themselves. -/
def checkedPlaces (totLen : UInt16T) : Set Nat :=
  Ico ipv4HdrOffset (icmpHdrOffset + (totLen.toNat - ipv4HdrLenMin)) \ checkPlaces

theorem icmpFrameChecksums_overwrites (config : FwIcmpModuleConfig interfaces) (totLen : UInt16T) :
    Overwrites (checkedPlaces totLen) checkPlaces fun packet =>
      icmpFrameChecksums config packet totLen := by
  have zeroed : Overwrites (checkedPlaces totLen) checkPlaces fun packet : Packet =>
      (packet.store16 icmpCheckOffset 0).store16 checkOffset 0 :=
    ((store16_overwrites icmpCheckOffset 0).andThen
      (store16_overwrites checkOffset 0)).mono (empty_subset _)
  have known : checkedPlaces totLen ∪ checkPlaces = Ico ipv4HdrOffset
      (icmpHdrOffset + (totLen.toNat - ipv4HdrLenMin)) ∪ checkPlaces := sdiff_union_self
  unfold icmpFrameChecksums
  cases config.networkHwHasChecksum with
  | true =>
    exact zeroed
  | false =>
    have icmp := zeroed.comp (storeChecksum_overwrites icmpCheckOffset icmpHdrOffset
      (totLen.toNat - ipv4HdrLenMin)) (by
        rw [known]
        exact (Ico_subset_Ico_left (by decide)).trans subset_union_left)
    have both := icmp.comp (storeChecksum_overwrites checkOffset ipv4HdrOffset ipv4HdrLenMin) (by
        rw [← union_assoc, known]
        exact ((Ico_subset_Ico_right (Nat.le_add_right _ _)).trans subset_union_left).trans
          subset_union_left)
    refine both.congr ?_
    rw [union_assoc]
    exact union_self _

end LionsOS.Firewall

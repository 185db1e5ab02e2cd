/-
This file embeds the checksums of `checksum.h` for hosts of either byte order, as
`common.h` provides for both, and compares them with the Internet checksum. A
word is compared by its bytes in memory. Only an odd last byte is treated
differently: both hosts add it as the low byte of a word, which on a big-endian
host is the wrong one.
-/

import LionsOS.Firewall.Packet

namespace LionsOS.Firewall

open OnesComplement

/-! ### Words in memory -/

inductive ByteOrder where
  | little
  | big
  deriving DecidableEq

open ByteOrder

namespace ByteOrder

/-- The bytes of a word, the first one in memory first. -/
def bytes (order : ByteOrder) (value : UInt16T) : UInt8T × UInt8T :=
  match order with
  | .little => (value.setWidth 8, (value >>> 8).setWidth 8)
  | .big => ((value >>> 8).setWidth 8, value.setWidth 8)

/-- The number that the bytes of a word are in network order. -/
def inNetworkOrder (order : ByteOrder) (value : UInt16T) : Nat :=
  256 * (order.bytes value).1.toNat + (order.bytes value).2.toNat

/-- The words of a host with this byte order. -/
def load16 (order : ByteOrder) (packet : Packet) (n : Nat) : UInt16T :=
  match order with
  | .little => packet (n + 1) ++ packet n
  | .big => packet n ++ packet (n + 1)

def store16 (order : ByteOrder) (packet : Packet) (n : Nat) (value : UInt16T) : Packet :=
  (packet.store8 n (order.bytes value).1).store8 (n + 1) (order.bytes value).2

def htons (order : ByteOrder) (n : UInt16T) : UInt16T :=
  match order with
  | .little => Firewall.htons n
  | .big => n

/-- What the first and the second byte of a word count for. -/
def weights (order : ByteOrder) : Nat × Nat :=
  match order with
  | .little => (1, 256)
  | .big => (256, 1)

/-- What the host adds up, as a number. -/
def sum (order : ByteOrder) (byte : Nat → Nat) (n : Nat) : Nat :=
  plainSum order.weights.1 order.weights.2 byte n

end ByteOrder

/-! ### The checksums -/

/-- The loop over the 16-bit words, and the odd last byte. -/
def sumWordsOn (order : ByteOrder) : Packet → Nat → UInt32T → UInt32T
  | _, 0, sum => sum
  | pkt, 1, sum => sum + (pkt 0).setWidth 32
  | pkt, len + 2, sum =>
    sumWordsOn order (fun i => pkt (i + 2)) len (sum + (order.load16 pkt 0).setWidth 32)

def fwInternetChecksumOn (order : ByteOrder) (pkt : Packet) (len : UInt16T) : UInt16T :=
  (~~~ foldCarries (sumWordsOn order pkt len.toNat 0)).setWidth 16

def fwPseudoHeaderLen : Nat := 12

/-- The pseudo-header, with the addresses given by their bytes in memory. -/
def fwPseudoHeader (order : ByteOrder) (srcIp dstIp : Fin 4 → UInt8T) (protocol : UInt8T)
    (len : UInt16T) : Packet :=
  let psh : Packet := fun i =>
    if source : i < 4 then srcIp ⟨i, source⟩
    else if target : i - 4 < 4 then dstIp ⟨i - 4, target⟩
    else 0
  let psh := psh.store8 9 protocol
  order.store16 psh 10 (order.htons len)

/-- The checksum of a transport layer packet behind its pseudo-header. -/
def calculateTransportChecksum (order : ByteOrder) (pkt : Packet) (len : UInt16T)
    (protocol : UInt8T) (srcIp dstIp : Fin 4 → UInt8T) : UInt16T :=
  let psh := fwPseudoHeader order srcIp dstIp protocol len
  let sum := (List.range (fwPseudoHeaderLen / 2)).foldl
    (fun sum i => sum + (order.load16 psh (2 * i)).setWidth 32) 0
  (~~~ foldCarries (sumWordsOn order pkt len.toNat sum)).setWidth 16

theorem sumWordsOn_little (pkt : Packet) (len : Nat) (sum : UInt32T) :
    sumWordsOn .little pkt len sum = sumWords pkt len sum := by
  induction pkt, len, sum using sumWords.induct with
  | case1 pkt sum => rfl
  | case2 pkt sum => rfl
  | case3 pkt len sum inductionHypothesis =>
    exact inductionHypothesis

theorem fwInternetChecksumOn_little (pkt : Packet) (len : UInt16T) :
    fwInternetChecksumOn .little pkt len = fwInternetChecksum pkt len.toNat := by
  rw [fwInternetChecksumOn, sumWordsOn_little, fwInternetChecksum]

/-! ### No overflow -/

variable {order : ByteOrder} {value : UInt16T}

theorem append_toNat (high low : UInt8T) : (high ++ low).toNat = low.toNat + 256 * high.toNat := by
  have below : low.toNat < 2 ^ 8 := low.isLt
  rw [BitVec.toNat_append, Nat.shiftLeft_eq, Nat.mul_comm, ← Nat.two_pow_add_eq_or_of_lt below]
  omega

theorem ByteOrder.load16_toNat (packet : Packet) (n : Nat) :
    (order.load16 packet n).toNat =
      order.weights.1 * packet.bytes n + order.weights.2 * packet.bytes (n + 1) := by
  cases order with
  | little =>
    show _ = 1 * packet.bytes n + 256 * packet.bytes (n + 1)
    rw [Nat.one_mul]
    exact append_toNat _ _
  | big =>
    show _ = 256 * packet.bytes n + 1 * packet.bytes (n + 1)
    rw [Nat.one_mul, Nat.add_comm]
    exact append_toNat _ _

theorem sumWordsOn_toNat (pkt : Packet) (len : Nat) (sum : UInt32T)
    (room : sum.toNat + 65535 * ((len + 1) / 2) < 4294967296) :
    (sumWordsOn order pkt len sum).toNat = sum.toNat + order.sum pkt.bytes len := by
  unfold ByteOrder.sum
  induction pkt, len, sum using sumWordsOn.induct order with
  | case1 pkt sum => rfl
  | case2 pkt sum =>
    rw [sumWordsOn, BitVec.toNat_add, BitVec.toNat_setWidth, plainSum, Packet.bytes]
    omega
  | case3 pkt len sum inductionHypothesis =>
    have added : (sum + (order.load16 pkt 0).setWidth 32).toNat =
        sum.toNat + (order.load16 pkt 0).toNat := by
      rw [BitVec.toNat_add, BitVec.toNat_setWidth]
      omega
    rw [sumWordsOn, inductionHypothesis (by rw [added]; omega), added, ByteOrder.load16_toNat,
      Nat.add_assoc]
    rfl

theorem ByteOrder.sum_little (byte : Nat → Nat) (n : Nat) :
    little.sum byte n = littleEndianSum byte n :=
  plainSum_littleEndian byte n

/-! ### The fold -/

/-- One round of the loop that folds the carries. -/
def foldStep (sum : UInt32T) : UInt32T :=
  (sum &&& (0xffff : UInt32T)) + sum >>> 16

theorem foldCarries_ends (sum : UInt32T) :
    ∃ rounds ≤ 2, foldStep^[rounds] sum >>> 16 = 0 ∧ foldCarries sum = foldStep^[rounds] sum := by
  have stop : ∀ {sum : UInt32T}, sum.toNat < 65536 → sum >>> 16 = 0 ∧ foldCarries sum = sum := by
    intro sum small
    have done : ¬ sum >>> 16 ≠ 0 := fun carry => absurd (carry_ne_zero.mp carry) (by omega)
    exact ⟨not_not.mp done, by rw [foldCarries, if_neg done]⟩
  have again : ∀ {sum : UInt32T}, 65536 ≤ sum.toNat →
      foldCarries sum = foldCarries (foldStep sum) := by
    intro sum large
    rw [foldCarries, if_pos (carry_ne_zero.mpr large), foldStep]
  have first := foldCarries_step sum
  have second := foldCarries_step (foldStep sum)
  change (foldStep sum).toNat = _ at first
  change (foldStep (foldStep sum)).toNat = _ at second
  by_cases small : sum.toNat < 65536
  · exact ⟨0, by decide, stop small⟩
  by_cases smaller : (foldStep sum).toNat < 65536
  · refine ⟨1, by decide, (stop smaller).1, ?_⟩
    rw [again (Nat.not_lt.mp small), (stop smaller).2]
    rfl
  · have smallest : (foldStep (foldStep sum)).toNat < 65536 := by omega
    refine ⟨2, Nat.le_refl 2, (stop smallest).1, ?_⟩
    rw [again (Nat.not_lt.mp small), again (Nat.not_lt.mp smaller), (stop smallest).2]
    rfl

/-! ### The bytes of the checksums -/

theorem complement_toNat (sum : UInt32T) :
    ((~~~ foldCarries sum).setWidth 16 : UInt16T).toNat = 65535 - fold sum.toNat := by
  have below := fold_lt sum.toNat
  rw [BitVec.toNat_setWidth, BitVec.toNat_not, foldCarries_toNat]
  omega

theorem fwInternetChecksumOn_toNat (pkt : Packet) (len : UInt16T) :
    (fwInternetChecksumOn order pkt len).toNat = 65535 - fold (order.sum pkt.bytes len.toNat) := by
  have zero : (0 : UInt32T).toNat = 0 := rfl
  rw [fwInternetChecksumOn, complement_toNat,
    sumWordsOn_toNat pkt len.toNat 0 (by rw [zero]; omega), zero, Nat.zero_add]

theorem ByteOrder.bytes_toNat (value : UInt16T) :
    ((little.bytes value).1.toNat = value.toNat % 256 ∧
        (little.bytes value).2.toNat = value.toNat / 256) ∧
      (big.bytes value).1.toNat = value.toNat / 256 ∧
        (big.bytes value).2.toNat = value.toNat % 256 := by
  have high : ((value >>> 8).setWidth 8 : UInt8T).toNat = value.toNat / 256 := by
    rw [BitVec.toNat_setWidth, BitVec.toNat_ushiftRight]
    omega
  have low : (value.setWidth 8 : UInt8T).toNat = value.toNat % 256 := BitVec.toNat_setWidth _ _
  exact ⟨⟨low, high⟩, high, low⟩

theorem ByteOrder.inNetworkOrder_little (value : UInt16T) :
    little.inNetworkOrder value = 256 * (value.toNat % 256) + value.toNat / 256 := by
  rw [inNetworkOrder, (bytes_toNat value).1.1, (bytes_toNat value).1.2]

theorem ByteOrder.inNetworkOrder_big (value : UInt16T) :
    big.inNetworkOrder value = value.toNat := by
  rw [inNetworkOrder, (bytes_toNat value).2.1]
  exact Nat.div_add_mod _ _

theorem ByteOrder.bytes_eq_iff {other : ByteOrder} {another : UInt16T} :
    order.bytes value = other.bytes another ↔
      order.inNetworkOrder value = other.inNetworkOrder another := by
  unfold inNetworkOrder
  rw [Prod.ext_iff, ← BitVec.toNat_inj, ← BitVec.toNat_inj]
  omega

theorem oddByte_lt (pkt : Packet) (n : Nat) : oddByte pkt.bytes n < 256 := by
  unfold oddByte
  split_ifs
  · exact (pkt (n - 1)).isLt
  · decide

theorem inNetworkOrder_eq_checksum {byte : Nat → Nat} {n : Nat} (small : oddByte byte n < 256)
    (complement : value.toNat = 65535 - fold (order.sum byte n)) :
    order.inNetworkOrder value = checksum byte n ↔ order = .little ∨ oddByte byte n = 0 := by
  cases order with
  | little =>
    rw [inNetworkOrder_little]
    rw [sum_little] at complement
    exact iff_of_true (swapped_eq_checksum complement) (Or.inl rfl)
  | big =>
    rw [inNetworkOrder_big, plain_eq_checksum_iff small complement]
    exact (or_iff_right (by simp)).symm

/-! ### The pseudo-header -/

/-- The bytes of the pseudo-header: the addresses, a zero, the protocol and the length. -/
def pseudoHeaderBytes (srcIp dstIp : Fin 4 → UInt8T) (protocol : UInt8T) (len : UInt16T) :
    Nat → Nat := fun i =>
  if source : i < 4 then (srcIp ⟨i, source⟩).toNat
  else if target : i - 4 < 4 then (dstIp ⟨i - 4, target⟩).toNat
  else if i = 9 then protocol.toNat
  else if i = 10 then len.toNat / 256
  else if i = 11 then len.toNat % 256
  else 0

/-- A transport layer packet behind its pseudo-header. -/
def behindPseudoHeader (srcIp dstIp : Fin 4 → UInt8T) (protocol : UInt8T) (pkt : Packet)
    (len : UInt16T) : Nat → Nat := fun i =>
  if i < 2 * 6 then pseudoHeaderBytes srcIp dstIp protocol len i else pkt.bytes (i - 2 * 6)

theorem ByteOrder.inNetworkOrder_htons (value : UInt16T) :
    order.inNetworkOrder (order.htons value) = value.toNat := by
  cases order with
  | little =>
    have high : (Firewall.htons value).setWidth 8 = ((value >>> 8).setWidth 8 : UInt8T) := by
      ext i inside
      interval_cases i <;> simp [Firewall.htons]
    have low : (Firewall.htons value >>> 8).setWidth 8 = (value.setWidth 8 : UInt8T) := by
      ext i inside
      interval_cases i <;> simp [Firewall.htons]
    have swapped : little.bytes (Firewall.htons value) = big.bytes value :=
      Prod.ext high low
    show little.inNetworkOrder (Firewall.htons value) = _
    rw [bytes_eq_iff.mp swapped, inNetworkOrder_big]
  | big => exact inNetworkOrder_big value

theorem ByteOrder.store16_first (packet : Packet) (n : Nat) (value : UInt16T) :
    order.store16 packet n value n = (order.bytes value).1 := by
  rw [store16, Packet.store8_of_ne _ _ (Nat.ne_of_lt (Nat.lt_succ_self n)), Packet.store8_self]

theorem ByteOrder.store16_second (packet : Packet) (n : Nat) (value : UInt16T) :
    order.store16 packet n value (n + 1) = (order.bytes value).2 :=
  Packet.store8_self _ _ _

theorem ByteOrder.store16_of_ne (packet : Packet) {n i : Nat} (value : UInt16T) (first : i ≠ n)
    (second : i ≠ n + 1) : order.store16 packet n value i = packet i := by
  rw [store16, Packet.store8_of_ne _ _ second, Packet.store8_of_ne _ _ first]

theorem fwPseudoHeader_bytes (srcIp dstIp : Fin 4 → UInt8T) (protocol : UInt8T) (len : UInt16T) :
    ∀ i < 2 * 6, (fwPseudoHeader order srcIp dstIp protocol len).bytes i =
      pseudoHeaderBytes srcIp dstIp protocol len i := by
  have length := order.inNetworkOrder_htons len
  unfold inNetworkOrder at length
  intro i inside
  unfold fwPseudoHeader Packet.bytes
  by_cases ten : i = 10
  · rw [ten, store16_first]
    show _ = len.toNat / 256
    omega
  by_cases eleven : i = 11
  · rw [eleven, store16_second]
    show _ = len.toNat % 256
    omega
  rw [store16_of_ne _ _ ten eleven]
  unfold pseudoHeaderBytes
  by_cases nine : i = 9
  · rw [nine]
    rfl
  rw [Packet.store8_of_ne _ _ nine]
  split_ifs
  · rfl
  · rfl
  · rfl

variable {srcIp dstIp : Fin 4 → UInt8T} {protocol : UInt8T} {pkt : Packet} {len : UInt16T}

theorem sum_behindPseudoHeader :
    order.sum (behindPseudoHeader srcIp dstIp protocol pkt len) (2 * 6 + len.toNat) =
      order.sum (fwPseudoHeader order srcIp dstIp protocol len).bytes (2 * 6) +
        order.sum pkt.bytes len.toNat := by
  unfold sum behindPseudoHeader
  rw [plainSum_append, plainSum_congr (fwPseudoHeader_bytes srcIp dstIp protocol len)]

theorem oddByte_behindPseudoHeader :
    oddByte (behindPseudoHeader srcIp dstIp protocol pkt len) (2 * 6 + len.toNat) =
      oddByte pkt.bytes len.toNat :=
  oddByte_append _ _ 6 _

/-- The sum over the pseudo-header and the packet. -/
def transportSum (order : ByteOrder) (srcIp dstIp : Fin 4 → UInt8T) (protocol : UInt8T)
    (pkt : Packet) (len : UInt16T) : UInt32T :=
  sumWordsOn order pkt len.toNat
    (sumWordsOn order (fwPseudoHeader order srcIp dstIp protocol len) (2 * 6) 0)

theorem calculateTransportChecksum_eq :
    calculateTransportChecksum order pkt len protocol srcIp dstIp =
      (~~~ foldCarries (transportSum order srcIp dstIp protocol pkt len)).setWidth 16 := rfl

theorem ByteOrder.sum_le (packet : Packet) (n : Nat) :
    order.sum packet.bytes n ≤ 65535 * ((n + 1) / 2) := by
  have weights : order.weights.1 + order.weights.2 = 257 := by cases order <;> rfl
  exact plainSum_le weights (fun i => Nat.le_of_lt_succ (packet i).isLt) n

theorem transportSum_toNat : (transportSum order srcIp dstIp protocol pkt len).toNat =
    order.sum (behindPseudoHeader srcIp dstIp protocol pkt len) (2 * 6 + len.toNat) := by
  have zero : (0 : UInt32T).toNat = 0 := rfl
  have header := order.sum_le (fwPseudoHeader order srcIp dstIp protocol len) (2 * 6)
  have headerSum :
      (sumWordsOn order (fwPseudoHeader order srcIp dstIp protocol len) (2 * 6) 0).toNat =
        order.sum (fwPseudoHeader order srcIp dstIp protocol len).bytes (2 * 6) := by
    rw [sumWordsOn_toNat _ _ _ (by decide), zero, Nat.zero_add]
  rw [transportSum, sumWordsOn_toNat _ _ _ (by rw [headerSum]; omega), headerSum,
    sum_behindPseudoHeader]

/-! ### Against the Internet checksum -/

/-- The loop over a sum comes to an end. -/
def FoldEnds (sum : UInt32T) : Prop :=
  ∃ rounds, foldStep^[rounds] sum >>> 16 = 0 ∧ foldCarries sum = foldStep^[rounds] sum

/-- What a host with a byte order makes of `len` bytes is the Internet checksum. -/
structure Rfc1071 (order : ByteOrder) (pkt : Packet) (len : UInt16T) : Prop where
  noOverflow : (sumWordsOn order pkt len.toNat 0).toNat = order.sum pkt.bytes len.toNat
  folds : FoldEnds (sumWordsOn order pkt len.toNat 0)
  internet : order.inNetworkOrder (fwInternetChecksumOn order pkt len) =
    checksum pkt.bytes len.toNat
  /-- Behind a pseudo-header. -/
  transport : ∀ srcIp dstIp protocol,
    (transportSum order srcIp dstIp protocol pkt len).toNat =
        order.sum (behindPseudoHeader srcIp dstIp protocol pkt len) (2 * 6 + len.toNat) ∧
      FoldEnds (transportSum order srcIp dstIp protocol pkt len) ∧
      order.inNetworkOrder (calculateTransportChecksum order pkt len protocol srcIp dstIp) =
        checksum (behindPseudoHeader srcIp dstIp protocol pkt len) (2 * 6 + len.toNat)
  /-- Stored in a zeroed field. -/
  verifies : ∀ place, 2 * place + 1 < len.toNat → pkt (2 * place) = 0 → pkt (2 * place + 1) = 0 →
    Verifies (order.store16 pkt (2 * place) (fwInternetChecksumOn order pkt len)).bytes len.toNat

theorem foldEnds (sum : UInt32T) : FoldEnds sum := by
  obtain ⟨rounds, _, ends⟩ := foldCarries_ends sum
  exact ⟨rounds, ends⟩

theorem fwInternetChecksumOn_eq_checksum :
    order.inNetworkOrder (fwInternetChecksumOn order pkt len) = checksum pkt.bytes len.toNat ↔
      order = .little ∨ oddByte pkt.bytes len.toNat = 0 :=
  inNetworkOrder_eq_checksum (oddByte_lt pkt len.toNat) (fwInternetChecksumOn_toNat pkt len)

theorem store16_verifies {place : Nat} (inside : 2 * place + 1 < len.toNat)
    (zeroFirst : pkt (2 * place) = 0) (zeroSecond : pkt (2 * place + 1) = 0)
    (correct : order.inNetworkOrder value = checksum pkt.bytes len.toNat) :
    Verifies (order.store16 pkt (2 * place) value).bytes len.toNat := by
  have first : pkt.bytes (2 * place) = 0 := congrArg BitVec.toNat zeroFirst
  have second : pkt.bytes (2 * place + 1) = 0 := congrArg BitVec.toNat zeroSecond
  refine verifies_of_checksum inside first second (fun i notFirst notSecond => ?_) ?_
  · exact congrArg BitVec.toNat (store16_of_ne _ _ notFirst notSecond)
  · show 256 * (order.store16 pkt (2 * place) value (2 * place)).toNat +
      (order.store16 pkt (2 * place) value (2 * place + 1)).toNat = _
    rw [store16_first, store16_second]
    exact correct

/-- The checksum of a part of a packet, stored in a zeroed word of it. -/
theorem storeChecksum_verifies {packet : Packet} {start place n : Nat} (short : n ≤ 65535)
    (inside : 2 * place + 1 < n) (zeroFirst : packet (start + 2 * place) = 0)
    (zeroSecond : packet (start + (2 * place + 1)) = 0) :
    Verifies ((packet.store16 (start + 2 * place)
      (fwInternetChecksum (packet.advance start) n)).advance start).bytes n := by
  have same : (BitVec.ofNat 16 n).toNat = n := by
    rw [BitVec.toNat_ofNat]
    omega
  have moved : ∀ value, (packet.store16 (start + 2 * place) value).advance start =
      little.store16 (packet.advance start) (2 * place) value := by
    intro value
    funext i
    by_cases first : i = 2 * place
    · rw [first, store16_first]
      exact Packet.store16_first _ _ _
    by_cases second : i = 2 * place + 1
    · rw [second, store16_second]
      exact Packet.store16_second _ _ _
    · rw [store16_of_ne _ _ first second]
      exact Packet.store16_of_ne _ _ (by omega) (by omega)
  have correct := (@fwInternetChecksumOn_eq_checksum .little (packet.advance start)
    (BitVec.ofNat 16 n)).mpr (Or.inl rfl)
  rw [← same] at inside
  have verified := store16_verifies inside zeroFirst zeroSecond correct
  rwa [fwInternetChecksumOn_little, same, ← moved] at verified

theorem rfc1071_of (right : order = .little ∨ oddByte pkt.bytes len.toNat = 0) :
    Rfc1071 order pkt len where
  noOverflow := by
    have zero : (0 : UInt32T).toNat = 0 := rfl
    rw [sumWordsOn_toNat _ _ _ (by rw [zero]; omega), zero, Nat.zero_add]
  folds := foldEnds _
  internet := fwInternetChecksumOn_eq_checksum.mpr right
  transport srcIp dstIp protocol := by
    refine ⟨transportSum_toNat, foldEnds _, ?_⟩
    have sameOdd := @oddByte_behindPseudoHeader srcIp dstIp protocol pkt len
    refine (inNetworkOrder_eq_checksum ?_ ?_).mpr (sameOdd ▸ right)
    · rw [sameOdd]
      exact oddByte_lt pkt len.toNat
    · rw [calculateTransportChecksum_eq, complement_toNat, transportSum_toNat]
  verifies _ inside zeroFirst zeroSecond :=
    store16_verifies inside zeroFirst zeroSecond (fwInternetChecksumOn_eq_checksum.mpr right)

/-- On a little-endian host the checksum functions compute the Internet checksum. They do on every
host, with the same bytes in memory, exactly where no odd last byte, or a zero one, is added. -/
theorem checksums_rfc1071_iff (pkt : Packet) (len : UInt16T) :
    Rfc1071 .little pkt len ∧
      ((∀ order, Rfc1071 order pkt len) ∧
          (∀ order other : ByteOrder, order.bytes (fwInternetChecksumOn order pkt len) =
            other.bytes (fwInternetChecksumOn other pkt len)) ↔
        len.toNat % 2 = 0 ∨ pkt (len.toNat - 1) = 0) := by
  have last : oddByte pkt.bytes len.toNat = 0 ↔ len.toNat % 2 = 0 ∨ pkt (len.toNat - 1) = 0 := by
    unfold oddByte Packet.bytes
    split_ifs with odd
    · rw [or_iff_right (by omega), ← BitVec.toNat_inj]
      rfl
    · exact iff_of_true rfl (Or.inl (by omega))
  refine ⟨rfc1071_of (Or.inl rfl), ?_⟩
  rw [← last]
  constructor
  · rintro ⟨every, _⟩
    exact (fwInternetChecksumOn_eq_checksum.mp (every .big).internet).resolve_left (by simp)
  · intro none
    have every : ∀ order, Rfc1071 order pkt len := fun order => rfc1071_of (Or.inr none)
    refine ⟨every, fun order other => bytes_eq_iff.mpr ?_⟩
    rw [(every order).internet, (every other).internet]

/-- A big-endian host takes the single byte one for the word one, not for the word 256. -/
theorem big_endian_odd_byte :
    ¬ ∀ (order : ByteOrder) (pkt : Packet) (len : UInt16T),
      order.inNetworkOrder (fwInternetChecksumOn order pkt len) = checksum pkt.bytes len.toNat := by
  intro claimed
  have differs := fwInternetChecksumOn_eq_checksum.mp (claimed .big (fun _ => 1) 1)
  exact absurd differs (by decide)

end LionsOS.Firewall

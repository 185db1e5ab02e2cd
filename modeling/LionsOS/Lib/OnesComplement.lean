/-
This file is about one's-complement sums of 16-bit words over a byte sequence.
Summing the words as the little-endian or as the big-endian machine reads them
gives values that agree modulo 65535 up to a factor 256, and both are zero only
for zero bytes; so both give the same checksum, but for the order of its bytes.
Storing the checksum in a zeroed word makes the sum all ones. An odd last byte is
the first byte of its word, whichever byte a machine takes it for.
-/

import Mathlib.Data.Nat.ModEq
import Mathlib.Tactic.Ring

namespace OnesComplement

variable {first second n : Nat} {byte : Nat → Nat} {stored : Nat → Nat} {other : Nat → Nat}
  {place : Nat} {value : Nat}

/-! ### Sums of two-byte words -/

/-- The sum of the two-byte words among the first `n` bytes, an odd last byte standing for the
first byte of its word. The weights say which byte of a word is the low one. -/
def wordSum (first second : Nat) (byte : Nat → Nat) : Nat → Nat
  | 0 => 0
  | 1 => first * byte 0
  | n + 2 => first * byte 0 + second * byte 1 + wordSum first second (fun i => byte (i + 2)) n

/-- Words read in network byte order. -/
def bigEndianSum (byte : Nat → Nat) (n : Nat) : Nat :=
  wordSum 256 1 byte n

/-- Words read as a little-endian machine does. -/
def littleEndianSum (byte : Nat → Nat) (n : Nat) : Nat :=
  wordSum 1 256 byte n

theorem wordSum_eq_zero (firstPositive : 0 < first) (secondPositive : 0 < second) (byte : Nat → Nat)
    (n : Nat) : wordSum first second byte n = 0 ↔ ∀ i < n, byte i = 0 := by
  induction byte, n using wordSum.induct with
  | case1 byte => simp [wordSum]
  | case2 byte =>
    rw [wordSum, Nat.mul_eq_zero, or_iff_right (by omega)]
    exact ⟨fun zero i inside => by rw [Nat.lt_one_iff.mp inside, zero], fun all => all 0 (by omega)⟩
  | case3 byte n inductionHypothesis =>
    rw [wordSum, Nat.add_eq_zero_iff, Nat.add_eq_zero_iff, inductionHypothesis, Nat.mul_eq_zero,
      Nat.mul_eq_zero, or_iff_right (by omega), or_iff_right (by omega)]
    constructor
    · rintro ⟨⟨zeroFirst, zeroSecond⟩, rest⟩ i inside
      match i with
      | 0 => exact zeroFirst
      | 1 => exact zeroSecond
      | i + 2 => exact rest i (by omega)
    · intro all
      exact ⟨⟨all 0 (by omega), all 1 (by omega)⟩, fun i inside => all (i + 2) (by omega)⟩

/-- Both byte orders give zero for zero bytes only. -/
theorem bigEndianSum_eq_zero (byte : Nat → Nat) (n : Nat) :
    bigEndianSum byte n = 0 ↔ littleEndianSum byte n = 0 := by
  rw [bigEndianSum, littleEndianSum, wordSum_eq_zero (by decide) (by decide),
    wordSum_eq_zero (by decide) (by decide)]

/-- Changing the byte order multiplies the sum by 256. -/
theorem bigEndianSum_modEq (byte : Nat → Nat) (n : Nat) :
    bigEndianSum byte n ≡ 256 * littleEndianSum byte n [MOD 65535] := by
  unfold bigEndianSum littleEndianSum
  induction byte, n using wordSum.induct with
  | case1 byte => exact Nat.ModEq.refl 0
  | case2 byte => simp only [wordSum, one_mul]; exact Nat.ModEq.refl _
  | case3 byte n inductionHypothesis =>
    have word : 256 * byte 0 + 1 * byte 1 ≡ 256 * (1 * byte 0 + 256 * byte 1) [MOD 65535] := by
      unfold Nat.ModEq
      omega
    rw [wordSum, wordSum, Nat.mul_add]
    exact word.add inductionHypothesis

theorem wordSum_congr (same : ∀ i < n, byte i = other i) :
    wordSum first second byte n = wordSum first second other n := by
  induction byte, n using wordSum.induct generalizing other with
  | case1 byte => rfl
  | case2 byte => rw [wordSum, wordSum, same 0 (by omega)]
  | case3 byte n inductionHypothesis =>
    rw [wordSum, wordSum, same 0 (by omega), same 1 (by omega),
      inductionHypothesis fun i inside => same (i + 2) (by omega)]

/-- A word stored at an even place where zeroes stood adds its value to the sum. -/
theorem wordSum_store (inside : 2 * place + 1 < n) (zeroFirst : byte (2 * place) = 0)
    (zeroSecond : byte (2 * place + 1) = 0)
    (other : ∀ i, i ≠ 2 * place → i ≠ 2 * place + 1 → stored i = byte i) :
    wordSum first second stored n = wordSum first second byte n +
      (first * stored (2 * place) + second * stored (2 * place + 1)) := by
  induction place generalizing byte stored n with
  | zero =>
    obtain ⟨m, rfl⟩ : ∃ m, n = m + 2 := ⟨n - 2, by omega⟩
    simp only [Nat.mul_zero, Nat.zero_add] at zeroFirst zeroSecond ⊢
    have rest : wordSum first second (fun i => stored (i + 2)) m =
        wordSum first second (fun i => byte (i + 2)) m :=
      wordSum_congr fun i _ => other (i + 2) (by omega) (by omega)
    rw [wordSum, wordSum, zeroFirst, zeroSecond]
    omega
  | succ place inductionHypothesis =>
    obtain ⟨m, rfl⟩ : ∃ m, n = m + 2 := ⟨n - 2, by omega⟩
    have rest : wordSum first second (fun i => stored (i + 2)) m =
        wordSum first second (fun i => byte (i + 2)) m +
          (first * stored (2 * place + 2) + second * stored (2 * place + 1 + 2)) :=
      inductionHypothesis (by omega) zeroFirst zeroSecond
        fun i notFirst notSecond => other (i + 2) (by omega) (by omega)
    rw [wordSum, wordSum, other 0 (by omega) (by omega), other 1 (by omega) (by omega)]
    show _ = _ + (first * stored (2 * place + 2) + second * stored (2 * place + 1 + 2))
    omega

/-! ### Odd last bytes -/

/-- The sum as it comes out where an odd last byte is added as it is. -/
def plainSum (first second : Nat) (byte : Nat → Nat) : Nat → Nat
  | 0 => 0
  | 1 => byte 0
  | n + 2 => first * byte 0 + second * byte 1 + plainSum first second (fun i => byte (i + 2)) n

/-- The last of an odd number of bytes. -/
def oddByte (byte : Nat → Nat) (n : Nat) : Nat :=
  if n % 2 = 1 then byte (n - 1) else 0

theorem oddByte_add_two (byte : Nat → Nat) (n : Nat) :
    oddByte byte (n + 2) = oddByte (fun i => byte (i + 2)) n := by
  unfold oddByte
  rw [Nat.add_mod_right]
  by_cases odd : n % 2 = 1
  · have last : n + 2 - 1 = n - 1 + 2 := by omega
    rw [if_pos odd, if_pos odd, last]
  · rw [if_neg odd, if_neg odd]

theorem plainSum_congr (same : ∀ i < n, byte i = other i) :
    plainSum first second byte n = plainSum first second other n := by
  induction byte, n using plainSum.induct generalizing other with
  | case1 byte => rfl
  | case2 byte => rw [plainSum, plainSum, same 0 (by omega)]
  | case3 byte n inductionHypothesis =>
    rw [plainSum, plainSum, same 0 (by omega), same 1 (by omega),
      inductionHypothesis fun i inside => same (i + 2) (by omega)]

theorem plainSum_le (weights : first + second = 257) (small : ∀ i, byte i ≤ 255) (n : Nat) :
    plainSum first second byte n ≤ 65535 * ((n + 1) / 2) := by
  induction byte, n using plainSum.induct with
  | case1 byte => exact Nat.zero_le _
  | case2 byte => exact Nat.le_trans (small 0) (by decide)
  | case3 byte n inductionHypothesis =>
    have low : first * byte 0 ≤ first * 255 := Nat.mul_le_mul_left _ (small 0)
    have high : second * byte 1 ≤ second * 255 := Nat.mul_le_mul_left _ (small 1)
    have rest := inductionHypothesis fun i => small (i + 2)
    rw [plainSum]
    omega

/-- The words of an even number of bytes and those of the bytes after them add up. -/
theorem plainSum_append (first second : Nat) (byte other : Nat → Nat) (half n : Nat) :
    plainSum first second (fun i => if i < 2 * half then byte i else other (i - 2 * half))
        (2 * half + n) =
      plainSum first second byte (2 * half) + plainSum first second other n := by
  induction half generalizing byte with
  | zero =>
    have same : (fun i => if i < 2 * 0 then byte i else other (i - 2 * 0)) = other := by
      funext i
      exact if_neg (Nat.not_lt_zero i)
    rw [same, Nat.zero_add, plainSum, Nat.zero_add]
  | succ half inductionHypothesis =>
    have longer : 2 * (half + 1) + n = 2 * half + n + 2 := by omega
    have even : 2 * (half + 1) = 2 * half + 2 := by omega
    have shifted : (fun i => if i + 2 < 2 * (half + 1) then byte (i + 2)
          else other (i + 2 - 2 * (half + 1))) =
        fun i => if i < 2 * half then byte (i + 2) else other (i - 2 * half) := by
      funext i
      have same : i + 2 - 2 * (half + 1) = i - 2 * half := by omega
      rw [same]
      exact if_congr (by omega) rfl rfl
    rw [longer, plainSum, shifted, inductionHypothesis fun i => byte (i + 2), even, plainSum]
    exact (Nat.add_assoc _ _ _).symm

theorem oddByte_append (byte other : Nat → Nat) (half n : Nat) :
    oddByte (fun i => if i < 2 * half then byte i else other (i - 2 * half)) (2 * half + n) =
      oddByte other n := by
  unfold oddByte
  by_cases odd : n % 2 = 1
  · have last : 2 * half + n - 1 - 2 * half = n - 1 := by omega
    rw [if_pos odd, if_pos (by omega)]
    dsimp only
    rw [if_neg (by omega), last]
  · rw [if_neg odd, if_neg (by omega)]

/-- A little-endian machine adds it as the low byte of a word. -/
theorem plainSum_littleEndian (byte : Nat → Nat) (n : Nat) :
    plainSum 1 256 byte n = littleEndianSum byte n := by
  unfold littleEndianSum
  induction byte, n using plainSum.induct with
  | case1 byte => rfl
  | case2 byte => rw [plainSum, wordSum, Nat.one_mul]
  | case3 byte n inductionHypothesis => rw [plainSum, wordSum, inductionHypothesis]

/-- A big-endian machine adds it as the low byte too, where it should be the high one. -/
theorem plainSum_bigEndian (byte : Nat → Nat) (n : Nat) :
    plainSum 256 1 byte n + 255 * oddByte byte n = bigEndianSum byte n := by
  unfold bigEndianSum
  induction byte, n using plainSum.induct with
  | case1 byte => rfl
  | case2 byte =>
    show byte 0 + 255 * byte 0 = 256 * byte 0
    omega
  | case3 byte n inductionHypothesis =>
    rw [plainSum, wordSum, oddByte_add_two, Nat.add_assoc, inductionHypothesis]

/-! ### Folding the carries -/

/-- Add the carries back in until the sum fits in 16 bits. -/
def fold (sum : Nat) : Nat :=
  if 65536 ≤ sum then fold (sum % 65536 + sum / 65536) else sum
  termination_by sum
  decreasing_by omega

theorem fold_lt (sum : Nat) : fold sum < 65536 := by
  induction sum using fold.induct with
  | case1 sum large inductionHypothesis =>
    rw [fold, if_pos large]
    exact inductionHypothesis
  | case2 sum small =>
    rw [fold, if_neg small]
    omega

theorem fold_modEq (sum : Nat) : fold sum ≡ sum [MOD 65535] := by
  induction sum using fold.induct with
  | case1 sum large inductionHypothesis =>
    rw [fold, if_pos large]
    refine inductionHypothesis.trans ?_
    unfold Nat.ModEq
    omega
  | case2 sum small =>
    rw [fold, if_neg small]

theorem fold_eq_zero {sum : Nat} : fold sum = 0 ↔ sum = 0 := by
  induction sum using fold.induct with
  | case1 sum large inductionHypothesis =>
    rw [fold, if_pos large]
    omega
  | case2 sum small => rw [fold, if_neg small]

/-- The folded sum is all ones exactly for the positive multiples of 65535. -/
theorem fold_eq_ones {sum : Nat} : fold sum = 65535 ↔ sum ≠ 0 ∧ sum % 65535 = 0 := by
  have below := fold_lt sum
  have congruent : fold sum % 65535 = sum % 65535 := fold_modEq sum
  have zero := @fold_eq_zero sum
  constructor
  · intro ones
    rw [ones] at congruent zero
    exact ⟨fun none => absurd (zero.mpr none) (by decide), congruent.symm⟩
  · rintro ⟨positive, multiple⟩
    omega

/-- Sums fold to the same exactly if they agree modulo 65535 and are both zero or neither. -/
theorem fold_eq_fold {sum other : Nat} :
    fold sum = fold other ↔ sum % 65535 = other % 65535 ∧ (sum = 0 ↔ other = 0) := by
  have sumCongruent : fold sum % 65535 = sum % 65535 := fold_modEq sum
  have otherCongruent : fold other % 65535 = other % 65535 := fold_modEq other
  have sumBelow := fold_lt sum
  have otherBelow := fold_lt other
  have sumZero := @fold_eq_zero sum
  have otherZero := @fold_eq_zero other
  constructor
  · intro same
    rw [same] at sumCongruent sumZero
    exact ⟨sumCongruent.symm.trans otherCongruent, sumZero.symm.trans otherZero⟩
  · rintro ⟨congruent, zero⟩
    omega

/-! ### The checksum -/

/-- The complement of the folded sum of the words in network byte order. -/
def checksum (byte : Nat → Nat) (n : Nat) : Nat :=
  65535 - fold (bigEndianSum byte n)

/-- The complement of what a little-endian machine folds has the bytes of the checksum, swapped. -/
theorem swapped_eq_checksum (complement : value = 65535 - fold (littleEndianSum byte n)) :
    256 * (value % 256) + value / 256 = checksum byte n := by
  have littleCongruent : fold (littleEndianSum byte n) % 65535 = littleEndianSum byte n % 65535 :=
    fold_modEq _
  have bigCongruent : fold (bigEndianSum byte n) % 65535 = bigEndianSum byte n % 65535 :=
    fold_modEq _
  have littleBelow := fold_lt (littleEndianSum byte n)
  have bigBelow := fold_lt (bigEndianSum byte n)
  have littleZero := @fold_eq_zero (littleEndianSum byte n)
  have bigZero := @fold_eq_zero (bigEndianSum byte n)
  have zero := bigEndianSum_eq_zero byte n
  have swapped : bigEndianSum byte n % 65535 = 256 * littleEndianSum byte n % 65535 :=
    bigEndianSum_modEq byte n
  unfold checksum
  omega

/-- Where an odd last byte was added as it is, words in network order give the checksum only if that
byte is zero. -/
theorem plain_eq_checksum_iff (small : oddByte byte n < 256)
    (complement : value = 65535 - fold (plainSum 256 1 byte n)) :
    value = checksum byte n ↔ oddByte byte n = 0 := by
  have sum := plainSum_bigEndian byte n
  have plainBelow := fold_lt (plainSum 256 1 byte n)
  have bigBelow := fold_lt (bigEndianSum byte n)
  have same := @fold_eq_fold (plainSum 256 1 byte n) (bigEndianSum byte n)
  rw [complement, checksum]
  constructor
  · omega
  · intro none
    rw [none, Nat.add_zero] at sum
    rw [sum]

/-! ### Verifying a checksum -/

/-- The one's-complement sum of the words is all ones. -/
def Verifies (byte : Nat → Nat) (n : Nat) : Prop :=
  fold (bigEndianSum byte n) = 65535

/-- The checksum, stored in a zeroed word in network order, makes the words verify. -/
theorem verifies_of_checksum (inside : 2 * place + 1 < n) (zeroFirst : byte (2 * place) = 0)
    (zeroSecond : byte (2 * place + 1) = 0)
    (other : ∀ i, i ≠ 2 * place → i ≠ 2 * place + 1 → stored i = byte i)
    (complement : 256 * stored (2 * place) + stored (2 * place + 1) = checksum byte n) :
    Verifies stored n := by
  have below := fold_lt (bigEndianSum byte n)
  have congruent : fold (bigEndianSum byte n) % 65535 = bigEndianSum byte n % 65535 :=
    fold_modEq (bigEndianSum byte n)
  have zero := @fold_eq_zero (bigEndianSum byte n)
  unfold checksum at complement
  rw [Verifies, bigEndianSum, wordSum_store inside zeroFirst zeroSecond other, fold_eq_ones]
  change bigEndianSum byte n + _ ≠ 0 ∧ (bigEndianSum byte n + _) % 65535 = 0
  omega

end OnesComplement

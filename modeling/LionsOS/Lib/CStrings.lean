/-
This file is about texts that end with a zero, in memories with an end, and about
the bounded functions that copy and append them. Reading or writing behind the end
of a memory has no outcome; so where a function has one, it stays inside.
-/

import Mathlib.Data.List.Basic
import Mathlib.Algebra.Notation.Defs

namespace CStrings

open List

variable {Char : Type*}

/-- Characters are written one behind the other. -/
def writeAt (memory : List Char) (offset : Nat) : List Char → Option (List Char)
  | [] => some memory
  | char :: rest =>
    if offset < memory.length then writeAt (memory.set offset char) (offset + 1) rest else none

/-- Inside the memory, what is written replaces what was there. -/
theorem writeAt_of_le {memory chars : List Char} {offset : Nat}
    (inside : offset + chars.length ≤ memory.length) : writeAt memory offset chars =
      some (memory.take offset ++ chars ++ memory.drop (offset + chars.length)) := by
  induction chars generalizing memory offset with
  | nil =>
    rw [append_nil, length_nil, Nat.add_zero, take_append_drop]
    rfl
  | cons char chars inductionHypothesis =>
    rw [length_cons] at inside
    have here : offset < memory.length := by omega
    have first : offset - (memory.take offset).length = 0 := by
      rw [length_take]
      omega
    rw [writeAt, if_pos here, inductionHypothesis (by rw [length_set]; omega), take_set,
      take_succ_eq_append_getElem here, set_append_right _ _ (length_take_le _ _),
      drop_set_of_lt (by omega), first, append_assoc, append_assoc,
      append_assoc, Nat.add_right_comm]
    rfl

variable [Zero Char] [DecidableEq Char]

/-- The characters in front of the first zero. -/
def textOf : List Char → Option (List Char)
  | [] => none
  | char :: rest => if char = 0 then some [] else (textOf rest).map (char :: ·)

/-- The characters in front of the first zero, where no more than `n` characters are read. -/
def textWithin : List Char → Nat → Option (List Char)
  | _, 0 => some []
  | [], _ + 1 => none
  | char :: rest, n + 1 => if char = 0 then some [] else (textWithin rest n).map (char :: ·)

def strlen (memory : List Char) : Option Nat :=
  (textOf memory).map length

/-- Whether `strcmp` finds two texts to be the same. -/
def strcmpSame (first second : List Char) : Option Bool :=
  (textOf first).bind fun text => (textOf second).map fun other => decide (text = other)

/-- Exactly `n` characters are written: zeros behind a text that is shorter. -/
def strncpy (dst src : List Char) (n : Nat) : Option (List Char) :=
  (textWithin src n).bind fun text =>
    writeAt dst 0 (text ++ replicate (n - text.length) 0)

/-- No more than `n` characters are appended, and a zero. -/
def strncat (dst src : List Char) (n : Nat) : Option (List Char) :=
  (textOf dst).bind fun front =>
    (textWithin src n).bind fun text => writeAt dst front.length (text ++ [0])

variable {memory dst src text front : List Char} {n : Nat}

/-! ### Texts -/

theorem textOf_append_zero (noZero : (0 : Char) ∉ text) (rest : List Char) :
    textOf (text ++ 0 :: rest) = some text := by
  induction text with
  | nil => exact if_pos rfl
  | cons char text inductionHypothesis =>
    obtain ⟨notZero, others⟩ := not_or.mp (mt mem_cons.mpr noZero)
    rw [cons_append, textOf, if_neg (Ne.symm notZero), inductionHypothesis others]
    rfl

/-- A memory has a text if it ends with a zero in it. -/
theorem textOf_eq_some_iff :
    textOf memory = some text ↔ (0 : Char) ∉ text ∧ ∃ rest, memory = text ++ 0 :: rest := by
  constructor
  · intro found
    induction memory generalizing text with
    | nil => cases found
    | cons char memory inductionHypothesis =>
      rw [textOf] at found
      split_ifs at found with zero
      · cases found
        exact ⟨not_mem_nil, memory, by rw [zero]; rfl⟩
      · obtain ⟨later, behind, rfl⟩ := Option.map_eq_some_iff.mp found
        obtain ⟨noZero, rest, rfl⟩ := inductionHypothesis behind
        exact ⟨mt mem_cons.mp (not_or.mpr ⟨Ne.symm zero, noZero⟩), rest, rfl⟩
  · rintro ⟨noZero, rest, rfl⟩
    exact textOf_append_zero noZero rest

theorem strlen_of_textOf (found : textOf memory = some text) : strlen memory = some text.length :=
  congrArg (Option.map length) found

/-- Of a text, no more than `n` characters are read. -/
theorem textWithin_of_textOf (found : textOf src = some text) (n : Nat) :
    textWithin src n = some (text.take n) := by
  induction src generalizing text n with
  | nil => cases found
  | cons char src inductionHypothesis =>
    cases n with
    | zero => rfl
    | succ n =>
      rw [textOf] at found
      rw [textWithin]
      split_ifs at found ⊢ with zero
      · cases found
        rfl
      · obtain ⟨later, behind, rfl⟩ := Option.map_eq_some_iff.mp found
        rw [inductionHypothesis behind n]
        rfl

theorem getElem?_of_textOf (found : textOf memory = some text) {i : Nat}
    (inside : i < text.length) : memory[i]? = text[i]? := by
  obtain ⟨_, rest, rfl⟩ := textOf_eq_some_iff.mp found
  exact getElem?_append_left inside

/-! ### Copying -/

theorem strncpy_of_textOf (found : textOf src = some text) (room : n ≤ dst.length) :
    strncpy dst src n = some (text.take n ++ replicate (n - text.length) 0 ++ dst.drop n) := by
  have length : (text.take n ++ replicate (n - (text.take n).length) (0 : Char)).length = n := by
    rw [length_append, length_replicate, length_take]
    omega
  have zeros : n - (text.take n).length = n - text.length := by
    rw [length_take]
    omega
  unfold strncpy
  rw [textWithin_of_textOf found, Option.bind_some, writeAt_of_le (by omega), length, zeros]
  rw [take_zero, nil_append, Nat.zero_add]

/-- A text that is shorter than `n` is copied with its end. -/
theorem strncpy_text (found : textOf src = some text) (short : text.length < n)
    (room : n ≤ dst.length) : ∃ copied, strncpy dst src n = some copied ∧
      textOf copied = some text ∧ copied.length = dst.length := by
  refine ⟨_, strncpy_of_textOf found room, ?_, ?_⟩
  · obtain ⟨zeros, more⟩ := Nat.exists_eq_add_of_lt short
    have some_left : n - text.length = zeros + 1 := by omega
    rw [take_of_length_le (Nat.le_of_lt short), some_left, append_assoc]
    exact textOf_append_zero (textOf_eq_some_iff.mp found).1 _
  · rw [length_append, length_append, length_replicate, length_take, length_drop]
    omega

/-- With a zero written behind them, the `n` characters that are copied hold what fits of the
text. -/
theorem strncpy_ended (found : textOf src = some text) (room : n < dst.length) :
    ∃ ended, ((strncpy dst src n).bind fun copied => writeAt copied n [0]) = some ended ∧
      textOf ended = some (text.take n) ∧ ended.length = dst.length := by
  have front : (text.take n ++ replicate (n - text.length) (0 : Char)).length = n := by
    rw [length_append, length_replicate, length_take]
    omega
  have length : (text.take n ++ replicate (n - text.length) (0 : Char) ++
      dst.drop n).length = dst.length := by
    rw [length_append, length_drop]
    omega
  rw [strncpy_of_textOf found (Nat.le_of_lt room), Option.bind_some,
    writeAt_of_le (by rw [length]; exact room)]
  refine ⟨_, rfl, ?_, ?_⟩
  · rw [take_left' front, append_assoc, append_assoc]
    have noZero : (0 : Char) ∉ text.take n := fun member =>
      (textOf_eq_some_iff.mp found).1 (mem_of_mem_take member)
    cases left : n - text.length with
    | zero | succ zeros => exact textOf_append_zero noZero _
  · rw [length_append, length_append, length_take, length_drop]
    rw [length_singleton]
    omega

/-- What is appended fits with its end. -/
theorem strncat_text (before : textOf dst = some front) (found : textOf src = some text)
    (room : front.length + min n text.length < dst.length) :
    ∃ joined, strncat dst src n = some joined ∧ textOf joined = some (front ++ text.take n) ∧
      joined.length = dst.length := by
  have length : (text.take n ++ [(0 : Char)]).length = min n text.length + 1 := by
    rw [length_append, length_take]
    rfl
  unfold strncat
  rw [before, Option.bind_some, textWithin_of_textOf found, Option.bind_some,
    writeAt_of_le (by omega)]
  obtain ⟨noZero, rest, rfl⟩ := textOf_eq_some_iff.mp before
  refine ⟨_, rfl, ?_, ?_⟩
  · rw [take_left' rfl, append_assoc, append_assoc, ← append_assoc front]
    refine textOf_append_zero (fun member => ?_) _
    rcases mem_append.mp member with inFront | inText
    · exact noZero inFront
    · exact (textOf_eq_some_iff.mp found).1 (mem_of_mem_take inText)
  · rw [length_append, length_append, length_take, length_drop]
    omega

end CStrings

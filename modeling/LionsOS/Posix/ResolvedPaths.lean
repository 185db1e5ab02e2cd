/-
This file embeds `resolve_path` of `file.c` on the memory that it reads and writes: the
text of the path, the table of the paths that descriptors were opened with, and the
output. An access behind one of them has no outcome. What is computed there is what
`resolvePath` computes of the texts.
-/

import LionsOS.Lib.CStrings
import LionsOS.Posix.FileClient
import Mathlib.Data.BitVec

namespace LionsOS.Posix

open CStrings

/-- A text of the program, with its end. -/
def literal (text : List UInt8T) : List UInt8T :=
  text ++ [0]

theorem textOf_literal (text : List UInt8T) (noZero : 0 ∉ text) :
    textOf (literal text) = some text :=
  textOf_append_zero noZero []

section Embedding

variable {maxFds : Nat} (fdPath : Fin maxFds → List UInt8T)

/-- `strncpy` and the zero in the last place. -/
def copyEnded (outPath src : List UInt8T) (outSize : Nat) : Option (List UInt8T) :=
  (strncpy outPath src (outSize - 1)).bind fun copied => writeAt copied (outSize - 1) [0]

/-- The part of `resolve_path` that puts the directory into the output. -/
def basePathInto (dirfd : Int) (outPath : List UInt8T) (outSize : Nat) :
    Option (Except FileErrno (List UInt8T)) :=
  if dirfd = atFdcwd then (strncpy outPath (literal rootPath) 2).map .ok
  else if dirfd = etcFd maxFds then
    (copyEnded outPath (literal (etcPath ++ rootPath)) outSize).map .ok
  else if inside : 0 ≤ dirfd ∧ dirfd.toNat < maxFds then
    let base := fdPath ⟨dirfd.toNat, FdTable.descriptor_lt inside⟩
    (strlen base).bind fun baseLen =>
      if outSize ≤ baseLen + 1 then some (.error .enametoolong)
      else (copyEnded outPath base outSize).bind fun copied =>
        if 0 < baseLen ∧ base[baseLen - 1]? ≠ some 0x2f then
          (strlen copied).bind fun length =>
            (strncat copied (literal rootPath) (outSize - length - 1)).map .ok
        else some (.ok copied)
  else some (.error .ebadf)

/-- `resolve_path`, with `none` for a null pointer. The output is an array of the caller, and not
looked at after an error. -/
def resolvePathInto (dirfd : Int) (path : Option (List UInt8T)) (outPath : List UInt8T)
    (outSize : Nat) : Option (Except FileErrno (List UInt8T)) :=
  if outSize < 2 then none
  else
    match path with
    | none => some (.error .einval)
    | some path =>
      (strlen path).bind fun pathLen =>
        if outSize ≤ pathLen ∨ pathMax < outSize then some (.error .enametoolong)
        else if dirfd ≠ atFdcwd ∧ dirfd ≠ etcFd maxFds ∧
            ¬ (0 ≤ dirfd ∧ dirfd.toNat < maxFds) then some (.error .ebadf)
        else if path.head? = some 0x2f then (copyEnded outPath path outSize).map .ok
        else (basePathInto fdPath dirfd outPath outSize).bind fun
          | .error error => some (.error error)
          | .ok base => (strcmpSame path (literal dotPath)).bind fun same =>
            if same then some (.ok base)
            else (strlen base).bind fun baseLen =>
              if outSize ≤ baseLen + pathLen then some (.error .enametoolong)
              else (strncat base path (outSize - baseLen - 1)).map .ok

end Embedding

/-! ### What is computed -/

/-- The outcome is the error, or the output holds the text. -/
def Outputs (outSize : Nat) (outcome : Option (Except FileErrno (List UInt8T))) :
    Except FileErrno (List UInt8T) → Prop
  | .error error => outcome = some (.error error)
  | .ok text => ∃ out, outcome = some (.ok out) ∧ textOf out = some text ∧ out.length = outSize

section Refinement

variable {maxFds : Nat} {table fdPath : Fin maxFds → List UInt8T} {outPath src text : List UInt8T}
  {outSize : Nat}

theorem copyEnded_text (found : textOf src = some text) (room : 1 < outSize)
    (size : outPath.length = outSize) : ∃ copied, copyEnded outPath src outSize = some copied ∧
      textOf copied = some (text.take (outSize - 1)) ∧ copied.length = outSize := by
  obtain ⟨copied, written, holds, length⟩ :=
    strncpy_ended found (show outSize - 1 < outPath.length by omega)
  exact ⟨copied, written, holds, length.trans size⟩

theorem head?_of_textOf (found : textOf src = some text) :
    src.head? = some 0x2f ↔ text.head? = some 0x2f := by
  obtain ⟨_, rest, rfl⟩ := textOf_eq_some_iff.mp found
  cases text with
  | nil => exact iff_of_false (by rw [List.nil_append, List.head?_cons]; decide) (by decide)
  | cons first text => exact Iff.rfl

theorem getLast?_of_textOf (found : textOf src = some text) :
    0 < text.length ∧ src[text.length - 1]? ≠ some 0x2f ↔
      text ≠ [] ∧ text.getLast? ≠ some 0x2f := by
  rw [List.length_pos_iff]
  refine and_congr_right fun filled => ?_
  have last : text.length - 1 < text.length :=
    Nat.sub_lt (List.length_pos_iff.mpr filled) Nat.one_pos
  rw [getElem?_of_textOf found last, List.getLast?_eq_getElem?]

theorem basePathInto_outputs (stored : ∀ fd, textOf (table fd) = some (fdPath fd))
    (room : 1 < outSize) (size : outPath.length = outSize) (dirfd : Int) :
    Outputs outSize (basePathInto table dirfd outPath outSize) (basePath fdPath dirfd outSize) := by
  unfold basePathInto basePath
  split_ifs with cwd etc inside
  · obtain ⟨copied, written, holds, length⟩ := strncpy_text (textOf_literal rootPath (by decide))
      (show 1 < 2 by decide) (show 2 ≤ outPath.length by omega)
    rw [written]
    exact ⟨copied, rfl, holds, length.trans size⟩
  · obtain ⟨copied, written, holds, length⟩ := copyEnded_text
      (textOf_literal (etcPath ++ rootPath) (by decide)) room size
    rw [written]
    exact ⟨copied, rfl, holds, length⟩
  · have found := stored ⟨dirfd.toNat, FdTable.descriptor_lt inside⟩
    dsimp only
    rw [strlen_of_textOf found, Option.bind_some]
    by_cases long : outSize ≤ (fdPath ⟨dirfd.toNat, FdTable.descriptor_lt inside⟩).length + 1
    · rw [if_pos long, if_pos long]
      exact rfl
    rw [if_neg long, if_neg long]
    obtain ⟨copied, written, holds, length⟩ := copyEnded_text found room size
    rw [List.take_of_length_le (by omega)] at holds
    rw [written, Option.bind_some]
    by_cases open_ : fdPath ⟨dirfd.toNat, FdTable.descriptor_lt inside⟩ ≠ [] ∧
        (fdPath ⟨dirfd.toNat, FdTable.descriptor_lt inside⟩).getLast? ≠ some 0x2f
    · rw [if_pos ((getLast?_of_textOf found).mpr open_), if_pos open_, strlen_of_textOf holds,
        Option.bind_some]
      obtain ⟨joined, appended, holds', length'⟩ := strncat_text holds
        (textOf_literal rootPath (by decide))
        (n := outSize - (fdPath ⟨dirfd.toNat, FdTable.descriptor_lt inside⟩).length - 1)
        (by rw [length]; dsimp only [rootPath]; omega)
      have whole : rootPath.length ≤
          outSize - (fdPath ⟨dirfd.toNat, FdTable.descriptor_lt inside⟩).length - 1 := by
        rw [show rootPath.length = 1 from rfl]
        omega
      rw [List.take_of_length_le whole] at holds'
      rw [appended]
      exact ⟨joined, rfl, holds', length'.trans length⟩
    · rw [if_neg (mt (getLast?_of_textOf found).mp open_), if_neg open_]
      exact ⟨copied, rfl, holds, length⟩
  · exact rfl

/-- `resolve_path` stays inside its memory, and computes what `resolvePath` does. -/
theorem resolvePathInto_outputs (stored : ∀ fd, textOf (table fd) = some (fdPath fd))
    (found : textOf src = some text) (room : 1 < outSize) (size : outPath.length = outSize)
    (dirfd : Int) : Outputs outSize (resolvePathInto table dirfd (some src) outPath outSize)
      (resolvePath fdPath dirfd (some text) outSize) := by
  unfold resolvePathInto resolvePath
  rw [if_neg (Nat.not_lt.mpr room)]
  dsimp only
  rw [strlen_of_textOf found, Option.bind_some]
  by_cases long : outSize ≤ text.length ∨ pathMax < outSize
  · rw [if_pos long, if_pos long]
    exact rfl
  rw [if_neg long, if_neg long]
  by_cases outside : dirfd ≠ atFdcwd ∧ dirfd ≠ etcFd maxFds ∧ ¬ (0 ≤ dirfd ∧ dirfd.toNat < maxFds)
  · rw [if_pos outside, if_pos outside]
    exact rfl
  rw [if_neg outside, if_neg outside]
  by_cases absolute : text.head? = some 0x2f
  · rw [if_pos ((head?_of_textOf found).mpr absolute), if_pos absolute]
    obtain ⟨copied, written, holds, length⟩ := copyEnded_text found room size
    rw [List.take_of_length_le (by omega)] at holds
    rw [written]
    exact ⟨copied, rfl, holds, length⟩
  rw [if_neg (mt (head?_of_textOf found).mp absolute), if_neg absolute]
  have based := basePathInto_outputs stored room size dirfd
  cases resolved : basePath fdPath dirfd outSize with
  | error error =>
    rw [resolved] at based
    rw [show basePathInto table dirfd outPath outSize = _ from based]
    exact rfl
  | ok base =>
    rw [resolved] at based
    obtain ⟨out, written, holds, length⟩ := based
    rw [written, Option.bind_some]
    dsimp only
    unfold strcmpSame
    rw [found, textOf_literal dotPath (by decide), Option.bind_some, Option.map_some,
      Option.bind_some]
    by_cases dot : text = dotPath
    · rw [decide_eq_true dot, if_pos dot]
      exact ⟨out, rfl, holds, length⟩
    · rw [decide_eq_false dot, if_neg dot, strlen_of_textOf holds, Option.bind_some]
      by_cases fits : outSize ≤ base.length + text.length
      · rw [if_pos fits, if_pos fits]
        exact rfl
      · rw [if_neg fits, if_neg fits]
        obtain ⟨joined, appended, holds', length'⟩ :=
          strncat_text holds found (n := outSize - base.length - 1) (by omega)
        rw [List.take_of_length_le (by omega)] at holds'
        rw [appended]
        exact ⟨joined, rfl, holds', length'.trans length⟩

end Refinement

end LionsOS.Posix

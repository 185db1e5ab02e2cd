/-
This file embeds the receive buffer of a socket of `tcp.c`: a ring of bytes that
the receive callback fills and `tcp_socket_recv` empties, each in a loop over
the stretches of the ring that are in one piece. Histories of the bytes that were
put in and taken out are kept beside the ring, and the ring holds those that were
put in and not taken out.
-/

import LionsOS.Lib.Bytes
import LionsOS.Lib.RingBuffer
import LionsOS.Words

namespace LionsOS.Sock

open List

/-! ### The ring -/

def socketBufSize : Nat := 0x200000

/-- The bytes of a socket that are received and not read. -/
structure RxBuffer where
  rxBuf : Nat → UInt8T
  rxHead : Nat
  rxLen : Nat

namespace RxBuffer

def empty : RxBuffer where
  rxBuf _ := 0
  rxHead := 0
  rxLen := 0

/-- Forget what is in the ring. -/
def reset (buffer : RxBuffer) : RxBuffer :=
  { buffer with rxHead := 0, rxLen := 0 }

/-- Copy a segment to the ring, `none` if the loop does not end. -/
def copyIn (buffer : RxBuffer) (p : List UInt8T) : Option RxBuffer :=
  if p = [] then some buffer
  else
    let rxTail := (buffer.rxHead + buffer.rxLen) % socketBufSize
    let toCopy := min p.length (socketBufSize - max buffer.rxLen rxTail)
    if toCopy = 0 then none
    else
      copyIn
        { buffer with
          rxBuf := Bytes.copy buffer.rxBuf ⟨rxTail, toCopy⟩ (fun index => p.getD index 0) 0
          rxLen := buffer.rxLen + toCopy }
        (p.drop toCopy)
termination_by p.length
decreasing_by
  rw [length_drop]
  omega

/-- Copy up to `len` bytes from the ring. -/
def copyOut (buffer : RxBuffer) (len : Nat) : List UInt8T × RxBuffer :=
  let toCopy := min len (min buffer.rxLen (socketBufSize - buffer.rxHead))
  if toCopy = 0 then ([], buffer)
  else
    let copied := (range toCopy).map fun index => buffer.rxBuf (buffer.rxHead + index)
    let rest := copyOut
      { buffer with
        rxHead := (buffer.rxHead + toCopy) % socketBufSize
        rxLen := buffer.rxLen - toCopy }
      (len - toCopy)
    (copied ++ rest.1, rest.2)
termination_by len

theorem copyIn_of_room {buffer : RxBuffer} {p : List UInt8T}
    (room : buffer.rxLen + p.length ≤ socketBufSize) :
    ∃ rx, buffer.copyIn p = some rx ∧ rx.rxLen = buffer.rxLen + p.length := by
  fun_induction copyIn buffer p with
  | case1 => exact ⟨_, rfl, rfl⟩
  | case2 buffer p some rxTail toCopy none =>
    have inside : rxTail < socketBufSize := Nat.mod_lt _ (by decide)
    have positive : 0 < p.length := length_pos_iff.mpr some
    omega
  | case3 buffer p some rxTail toCopy copies inductionHypothesis =>
    rw [length_drop] at inductionHypothesis
    obtain ⟨rx, copied, length⟩ := inductionHypothesis (by show _ + toCopy + _ ≤ _; omega)
    exact ⟨rx, copied, length.trans (by show _ + toCopy + _ = _; omega)⟩

theorem rxLen_copyOut_le (buffer : RxBuffer) (len : Nat) :
    (buffer.copyOut len).2.rxLen ≤ buffer.rxLen := by
  fun_induction copyOut buffer len with
  | case1 => exact le_rfl
  | case2 buffer len toCopy some copied rest inductionHypothesis =>
    exact inductionHypothesis.trans (Nat.sub_le _ _)

/-! ### What the ring holds -/

/-- The slot of a byte in the history of the ring. -/
def slotOfPosition (position : Nat) : Nat :=
  position % socketBufSize

theorem apart_slotOfPosition : RingBuffer.Apart slotOfPosition socketBufSize := by
  intro early late before near same
  refine RingBuffer.apart_mod 0 socketBufSize early late before near ?_
  simp only [Nat.zero_add]
  exact same

/-- The ring holds the bytes that were received and have not been returned. -/
structure Keeps (buffer : RxBuffer) (returned received : List UInt8T) : Prop where
  inOrder : returned <+: received
  head : buffer.rxHead = slotOfPosition returned.length
  length : returned.length + buffer.rxLen = received.length
  room : buffer.rxLen ≤ socketBufSize
  holds : RingBuffer.Holds slotOfPosition buffer.rxBuf returned.length received

variable {buffer : RxBuffer} {returned received : List UInt8T} {p : List UInt8T} {amount : Nat}

theorem slotOfPosition_add {position index : Nat}
    (inside : slotOfPosition position + index < socketBufSize) :
    slotOfPosition (position + index) = slotOfPosition position + index := by
  rw [slotOfPosition, ← Nat.mod_add_mod]
  exact Nat.mod_eq_of_lt inside

section

variable (keeps : buffer.Keeps returned received)
include keeps

theorem Keeps.tail :
    (buffer.rxHead + buffer.rxLen) % socketBufSize = slotOfPosition received.length := by
  rw [keeps.head, slotOfPosition, Nat.mod_add_mod, keeps.length, slotOfPosition]

theorem Keeps.write (enough : amount ≤ p.length) (room : buffer.rxLen + amount ≤ socketBufSize)
    (straight : slotOfPosition received.length + amount ≤ socketBufSize) :
    Keeps
      { buffer with
        rxBuf := Bytes.copy buffer.rxBuf ⟨slotOfPosition received.length, amount⟩
          (fun index => p.getD index 0) 0
        rxLen := buffer.rxLen + amount }
      returned (received ++ p.take amount) := by
  have taken : (p.take amount).length = amount := List.length_take_of_le enough
  refine ⟨keeps.inOrder.trans (List.prefix_append _ _), keeps.head, ?_, room, ?_⟩
  · rw [List.length_append, taken, ← keeps.length, Nat.add_assoc]
  · have older : RingBuffer.Holds slotOfPosition (Bytes.copy buffer.rxBuf
        ⟨slotOfPosition received.length, amount⟩ (fun index => p.getD index 0) 0) returned.length
        received := by
      refine keeps.holds.congr fun position notYet older => Bytes.copy_of_not_mem ?_
      rintro ⟨after, before⟩
      have after : slotOfPosition received.length ≤ slotOfPosition position := after
      have before : slotOfPosition position < slotOfPosition received.length + amount := before
      -- the slot of an older byte would be that of a byte of this piece
      obtain ⟨index, same⟩ := Nat.exists_eq_add_of_le after
      have inside : slotOfPosition received.length + index < socketBufSize := by omega
      have length := keeps.length
      refine apart_slotOfPosition position (received.length + index) (by omega) (by omega) ?_
      rw [slotOfPosition_add inside]
      exact same
    refine older.append ?_
    intro index item found
    obtain ⟨inside, _⟩ := List.getElem?_eq_some_iff.mp found
    rw [taken] at inside
    have slot := @slotOfPosition_add received.length index (by omega)
    rw [slot]
    refine (Bytes.copy_of_mem ⟨Nat.le_add_right _ _, Nat.add_lt_add_left inside _⟩).trans ?_
    rw [List.getElem?_take_of_lt inside] at found
    rw [Nat.zero_add, Nat.add_sub_cancel_left, List.getD_eq_getElem?_getD, found]
    rfl

theorem Keeps.copyIn (fits : buffer.rxLen + p.length ≤ socketBufSize) :
    ∃ next, buffer.copyIn p = some next ∧ next.Keeps returned (received ++ p) := by
  induction size : p.length using Nat.strong_induction_on generalizing buffer received p with
  | _ count inductionHypothesis =>
    rw [RxBuffer.copyIn, keeps.tail]
    by_cases nothing : p = []
    · rw [nothing, append_nil]
      exact ⟨buffer, rfl, keeps⟩
    · have some : 0 < p.length := length_pos_iff.mpr nothing
      have inside : slotOfPosition received.length < socketBufSize := Nat.mod_lt _ (by decide)
      obtain ⟨toCopy, amount⟩ : ∃ toCopy, toCopy =
        min p.length (socketBufSize - max buffer.rxLen (slotOfPosition received.length)) := ⟨_, rfl⟩
      have written := keeps.write (by omega : toCopy ≤ p.length) (by omega) (by omega)
      have rest : (p.drop toCopy).length < count := by
        rw [length_drop]
        omega
      have restFits : buffer.rxLen + toCopy + (p.drop toCopy).length ≤ socketBufSize := by
        rw [length_drop]
        omega
      rw [if_neg nothing]
      dsimp only
      rw [← amount, if_neg (by omega : toCopy ≠ 0)]
      obtain ⟨next, copied, kept⟩ := inductionHypothesis _ rest written restFits rfl
      refine ⟨next, copied, ?_⟩
      rwa [append_assoc, take_append_drop] at kept

theorem Keeps.read (enough : amount ≤ buffer.rxLen)
    (straight : buffer.rxHead + amount ≤ socketBufSize) :
    Keeps
      { buffer with
        rxHead := (buffer.rxHead + amount) % socketBufSize
        rxLen := buffer.rxLen - amount }
      (returned ++ (List.range amount).map fun index => buffer.rxBuf (buffer.rxHead + index))
      received := by
  have taken : ((List.range amount).map fun index =>
      buffer.rxBuf (buffer.rxHead + index)).length = amount := by
    rw [List.length_map, List.length_range]
  have length := keeps.length
  refine ⟨?_, ?_, ?_, (Nat.sub_le _ _).trans keeps.room, ?_⟩
  · refine RingBuffer.prefix_append keeps.inOrder fun index item found => ?_
    obtain ⟨inside, value⟩ := List.getElem?_eq_some_iff.mp found
    rw [List.getElem_map, List.getElem_range] at value
    have older : returned.length + index < received.length := by omega
    have slot : slotOfPosition (returned.length + index) = buffer.rxHead + index := by
      rw [keeps.head] at straight ⊢
      exact slotOfPosition_add (by omega)
    rw [List.getElem?_eq_getElem older, ← value, ← slot, Option.some.injEq]
    exact (keeps.holds _ (Nat.le_add_right _ _) _ (List.getElem?_eq_getElem older)).symm
  · rw [List.length_append, taken, keeps.head, slotOfPosition, Nat.mod_add_mod, slotOfPosition]
  · rw [List.length_append, taken]
    show returned.length + amount + (buffer.rxLen - amount) = received.length
    omega
  · rw [List.length_append]
    exact keeps.holds.forget (Nat.le_add_right _ _)

theorem Keeps.copyOut (len : Nat) :
    (buffer.copyOut len).2.Keeps (returned ++ (buffer.copyOut len).1) received ∧
      (buffer.copyOut len).1.length = min len buffer.rxLen := by
  induction len using Nat.strong_induction_on generalizing buffer returned with
  | _ len inductionHypothesis =>
    have inside : buffer.rxHead < socketBufSize := by
      rw [keeps.head]
      exact Nat.mod_lt _ (by decide)
    obtain ⟨toCopy, amount⟩ : ∃ toCopy,
      toCopy = min len (min buffer.rxLen (socketBufSize - buffer.rxHead)) := ⟨_, rfl⟩
    rw [RxBuffer.copyOut]
    rw [← amount]
    by_cases nothing : toCopy = 0
    · rw [if_pos nothing, append_nil]
      refine ⟨keeps, ?_⟩
      show 0 = _
      omega
    · rw [if_neg nothing]
      have read := keeps.read (by omega : toCopy ≤ buffer.rxLen) (by omega)
      obtain ⟨kept, length⟩ := inductionHypothesis (len - toCopy) (by omega) read
      refine ⟨?_, ?_⟩
      · rwa [append_assoc] at kept
      · rw [length_append, length, length_map, length_range]
        show toCopy + min (len - toCopy) (buffer.rxLen - toCopy) = _
        omega

end

end RxBuffer

end LionsOS.Sock

/-
This file is about rings: histories of items of which the newest are kept in a
bounded number of slots. Positions count the items from the oldest of all, and
positions that are less than a round apart have slots of their own. Counters of
a fixed width that follow two positions differ by what is between these, also
after they have wrapped.
-/

import Mathlib.Data.List.Infix
import Mathlib.Data.Nat.ModEq
import Mathlib.Logic.Function.Basic

namespace RingBuffer

variable {Slot Item : Type*} {slot : Nat → Slot} {store : Slot → Item} {capacity first : Nat}
  {history : List Item} {width : Nat}

/-- Positions that are less than `capacity` apart have different slots. -/
def Apart (slot : Nat → Slot) (capacity : Nat) : Prop :=
  ∀ early late, early < late → late < early + capacity → slot early ≠ slot late

/-- The slots hold the items of a history from position `first` on. -/
def Holds (slot : Nat → Slot) (store : Slot → Item) (first : Nat) (history : List Item) : Prop :=
  ∀ position, first ≤ position → ∀ item, history[position]? = some item →
    store (slot position) = item

/-! ### Slots -/

/-- Positions reduced by the capacity are apart, wherever the first one is put. -/
theorem apart_mod (start capacity : Nat) : Apart (fun position => (start + position) % capacity)
    capacity := by
  intro early late before near same
  have congruent : early ≡ late [MOD capacity] :=
    Nat.ModEq.add_left_cancel' start (show start + early ≡ start + late [MOD capacity] from same)
  have divides : capacity ∣ late - early := (Nat.modEq_iff_dvd' before.le).mp congruent
  exact absurd (Nat.le_of_dvd (Nat.sub_pos_of_lt before) divides)
    (Nat.not_le.mpr (Nat.sub_lt_left_of_lt_add before.le near))

/-- Within a round, different positions have different slots. -/
theorem Apart.ne {position other : Nat} (apart : Apart slot capacity)
    (different : position ≠ other) (inside : first ≤ position)
    (inside' : position < first + capacity) (otherInside : first ≤ other)
    (otherInside' : other < first + capacity) : slot position ≠ slot other := by
  rcases Nat.lt_or_gt_of_ne different with before | after
  · exact apart position other before (otherInside'.trans_le (Nat.add_le_add_right inside capacity))
  · exact (apart other position after
      (inside'.trans_le (Nat.add_le_add_right otherInside capacity))).symm

/-! ### What the slots hold -/

theorem Holds.nil : Holds slot store first [] := by
  intro position _ item found
  cases found

/-- The oldest items may be forgotten. -/
theorem Holds.forget {first' : Nat} (holds : Holds slot store first history)
    (later : first ≤ first') : Holds slot store first' history :=
  fun position notYet item found => holds position (later.trans notYet) item found

/-- Only the slots of the kept positions matter. -/
theorem Holds.congr {store' : Slot → Item} (holds : Holds slot store first history)
    (same : ∀ position, first ≤ position → position < history.length →
      store' (slot position) = store (slot position)) : Holds slot store' first history := by
  intro position notYet item found
  obtain ⟨older, _⟩ := List.getElem?_eq_some_iff.mp found
  rw [same position notYet older]
  exact holds position notYet item found

/-- Writing ahead of the history, less than a round from what is kept, loses nothing. -/
theorem Holds.write [DecidableEq Slot] {free : Nat} (apart : Apart slot capacity)
    (holds : Holds slot store first history) (later : history.length ≤ free)
    (room : free < first + capacity) (item : Item) :
    Holds slot (Function.update store (slot free) item) first history :=
  holds.congr fun _ notYet older =>
    Function.update_of_ne (apart.ne (Nat.ne_of_lt (older.trans_le later)) notYet
      (older.trans_le (later.trans room.le)) (notYet.trans (older.le.trans later)) room) item store

/-- Items written ahead of a history become part of it. -/
theorem Holds.append {added : List Item} (holds : Holds slot store first history)
    (written : ∀ index item, added[index]? = some item →
      store (slot (history.length + index)) = item) :
    Holds slot store first (history ++ added) := by
  intro position notYet item found
  rcases Nat.lt_or_ge position history.length with older | newer
  · rw [List.getElem?_append_left older] at found
    exact holds position notYet item found
  · rw [List.getElem?_append_right newer] at found
    have result := written _ item found
    rwa [Nat.add_sub_cancel' newer] at result

/-! ### What has been taken out -/

/-- A history that continues a prefix with what comes next is a longer prefix. -/
theorem prefix_append {taken items : List Item} (before : taken <+: history)
    (next : ∀ index item, items[index]? = some item →
      history[taken.length + index]? = some item) : taken ++ items <+: history := by
  obtain ⟨rest, rfl⟩ := before
  refine (List.prefix_append_right_inj taken).mpr (List.prefix_iff_getElem?.mpr ?_)
  intro index inside
  have found := next index _ (List.getElem?_eq_getElem inside)
  rwa [List.getElem?_append_right (Nat.le_add_right _ _), Nat.add_sub_cancel_left] at found

/-! ### Counters -/

/-- Counters that started together differ by what the later one is ahead. -/
theorem toNat_counter_sub (start : BitVec width) {behind ahead : Nat} (ordered : behind ≤ ahead)
    (near : ahead - behind < 2 ^ width) :
    (start + BitVec.ofNat width ahead - (start + BitVec.ofNat width behind)).toNat =
      ahead - behind := by
  have split : BitVec.ofNat width ahead =
      BitVec.ofNat width behind + BitVec.ofNat width (ahead - behind) := by
    rw [← BitVec.ofNat_add, Nat.add_sub_cancel' ordered]
  have difference : start + BitVec.ofNat width ahead - (start + BitVec.ofNat width behind) =
      BitVec.ofNat width (ahead - behind) := by
    rw [split, ← BitVec.add_assoc, BitVec.add_comm (start + _), BitVec.add_sub_cancel]
  rw [difference, BitVec.toNat_ofNat, Nat.mod_eq_of_lt near]

theorem counter_add (start : BitVec width) (position advance : Nat) :
    start + BitVec.ofNat width position + BitVec.ofNat width advance =
      start + BitVec.ofNat width (position + advance) := by
  rw [BitVec.ofNat_add, BitVec.add_assoc]

end RingBuffer

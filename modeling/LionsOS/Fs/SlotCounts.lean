/-
This file is about the operations that are begun on the slots of the table and not
ended. A slot is busy as long as there are any, and its busy count is their number.
So an operation that is ended right after it was begun leaves the table as it was,
and the end of an operation that was begun never fails. A slot that is taken out of
use for a close keeps its generation, so its descriptor can set it again.
-/

import LionsOS.Fs.FdTable

open Function

namespace LionsOS.Fs

variable {handle : UInt64T} {kind : OfKind} {fd : UInt64T} {table : OfTable}

/-! ### One slot -/

/-- A slot on which this many operations are begun and not ended. -/
structure OftableSlot.Counted (slot : OftableSlot) (operations : Nat) : Prop where
  count : slot.busyCount.toNat = operations
  busy : (∃ kind, slot.state = .busy kind) ↔ 0 < operations

open OftableSlot

namespace OftableSlot

variable {slot after : OftableSlot} {operations : Nat}

theorem Counted.eq_zero (counted : slot.Counted operations)
    (idle : ∀ kind, slot.state ≠ .busy kind) : operations = 0 := by
  refine Nat.eq_zero_of_not_pos fun some => ?_
  obtain ⟨kind, busy⟩ := counted.busy.mpr some
  exact idle kind busy

theorem Counted.of_idle (counted : slot.Counted operations)
    (idle : ∀ kind, slot.state ≠ .busy kind) (idleAfter : ∀ kind, after.state ≠ .busy kind)
    (same : after.busyCount = slot.busyCount) : after.Counted operations where
  count := same ▸ counted.count
  busy := by
    rw [counted.eq_zero idle]
    refine iff_of_false ?_ (Nat.lt_irrefl 0)
    rintro ⟨kind, busy⟩
    exact idleAfter kind busy

theorem Counted.beginOp (counted : slot.Counted operations) (room : operations + 1 < 2 ^ 64)
    (begun : slot.ofBeginOp kind = some (handle, after)) : after.Counted (operations + 1) := by
  obtain ⟨_, _, _, busy, ⟨opened, one⟩ | ⟨_, more⟩⟩ := FdUse.ofBeginOp_cases begun
  · have none := counted.eq_zero fun kind busy => by
      rw [opened] at busy
      cases busy
    subst none
    refine ⟨?_, iff_of_true ⟨kind, busy⟩ Nat.one_pos⟩
    rw [one]
    rfl
  · refine ⟨?_, iff_of_true ⟨kind, busy⟩ (Nat.succ_pos _)⟩
    rw [more, BitVec.toNat_add, counted.count]
    exact Nat.mod_eq_of_lt room

theorem toNat_sub_one {count : UInt64T} (counted : count.toNat = operations + 1) :
    (count - 1).toNat = operations := by
  have one : (1 : UInt64T).toNat = 1 := rfl
  have least : (1 : UInt64T) ≤ count := by
    rw [BitVec.le_def, counted]
    exact Nat.le_add_left 1 operations
  rw [BitVec.toNat_sub_of_le least, counted, one, Nat.add_sub_cancel]

theorem Counted.endOp (counted : slot.Counted (operations + 1))
    (ended : slot.ofEndOp = some after) : after.Counted operations := by
  obtain ⟨kind, _, _, _, less, state⟩ := FdUse.ofEndOp_cases ended
  have count : after.busyCount.toNat = operations := less ▸ toNat_sub_one counted.count
  refine ⟨count, ?_⟩
  rw [state, ← less]
  split
  · rename_i last
    rw [last] at count
    refine iff_of_false ?_ count.symm.not_gt
    rintro ⟨_, ⟨⟩⟩
  · rename_i more
    refine iff_of_true ⟨kind, rfl⟩ (Nat.pos_of_ne_zero fun none => more ?_)
    exact BitVec.eq_of_toNat_eq (count.trans none)

theorem Counted.endOp_isSome (counted : slot.Counted (operations + 1)) :
    ∃ after, slot.ofEndOp = some after := by
  obtain ⟨kind, busy⟩ := counted.busy.mpr (Nat.succ_pos operations)
  rw [ofEndOp, busy]
  exact ⟨_, rfl⟩

theorem Counted.endOp_of_beginOp (counted : slot.Counted operations)
    (room : operations + 1 < 2 ^ 64) (begun : slot.ofBeginOp kind = some (handle, after)) :
    after.ofEndOp = some slot := by
  obtain ⟨state, slotHandle, busyCount, generation⟩ := slot
  obtain ⟨afterState, afterHandle, afterCount, afterGeneration⟩ := after
  obtain ⟨_, sameHandle, sameGeneration, busy, counts⟩ := FdUse.ofBeginOp_cases begun
  dsimp only at sameHandle sameGeneration busy counts
  subst sameHandle sameGeneration busy
  rcases counts with ⟨rfl, rfl⟩ | ⟨rfl, rfl⟩
  · have none := counted.eq_zero fun kind busy => by cases busy
    subst none
    have zero : busyCount = 0 := BitVec.eq_of_toNat_eq counted.count
    have gone : (1 : UInt64T) - 1 = 0 := by decide
    subst zero
    simp only [ofEndOp, gone, if_pos]
  · have some := counted.busy.mp ⟨kind, rfl⟩
    have same : busyCount + 1 - 1 = busyCount := BitVec.add_sub_cancel _ _
    have more : busyCount ≠ 0 := by
      rintro rfl
      exact some.ne counted.count
    simp only [ofEndOp, same, if_neg more]

end OftableSlot

/-! ### The table -/

/-- A table on whose slots so many operations are begun and not ended. -/
def OfTable.Counted (table : OfTable) (operations : Fin maxOpenFiles → Nat) : Prop :=
  ∀ slot, (table slot).Counted (operations slot)

/-- One more operation, on the slot of a descriptor. -/
def oneMore (operations : Fin maxOpenFiles → Nat) (fd : UInt64T) : Fin maxOpenFiles → Nat :=
  update operations (slotOf fd) (operations (slotOf fd) + 1)

/-- The operation of somebody, if there is one, counts as well. -/
def withOperation (operations : Fin maxOpenFiles → Nat) :
    Option UInt64T → Fin maxOpenFiles → Nat
  | none => operations
  | some fd => oneMore operations fd

namespace OfTable

variable {next : OfTable} {operations : Fin maxOpenFiles → Nat}

theorem Counted.update (counted : table.Counted operations) {slot : Fin maxOpenFiles}
    {after : OftableSlot} (here : after.Counted (operations slot)) :
    OfTable.Counted (update table slot after) operations := by
  intro other
  rcases eq_or_ne other slot with rfl | different
  · rw [update_self]
    exact here
  · rw [update_of_ne different]
    exact counted other

theorem Counted.beginOp (counted : table.Counted operations)
    (room : ∀ slot, operations slot + 1 < 2 ^ 64)
    (begun : fdBeginOp kind table fd = some (handle, next)) :
    next.Counted (oneMore operations fd) := by
  obtain ⟨_, after, begins, rfl⟩ := fdBeginOp_eq_some begun
  intro slot
  rw [oneMore]
  rcases eq_or_ne slot (slotOf fd) with rfl | different
  · rw [update_self, update_self]
    exact (counted _).beginOp (room _) begins
  · rw [update_of_ne different, update_of_ne different]
    exact counted slot

theorem Counted.endOp (counted : table.Counted (oneMore operations fd))
    (ended : fdEndOp table fd = some next) : next.Counted operations := by
  obtain ⟨_, after, ends, rfl⟩ := onSlot_eq_some ended
  intro slot
  have here := counted slot
  rw [oneMore] at here
  rcases eq_or_ne slot (slotOf fd) with rfl | different
  · rw [update_self] at here ⊢
    exact here.endOp ends
  · rw [update_of_ne different] at here ⊢
    exact here

theorem Counted.endOp_of_beginOp (counted : table.Counted operations)
    (room : ∀ slot, operations slot + 1 < 2 ^ 64)
    (begun : fdBeginOp kind table fd = some (handle, next)) : fdEndOp next fd = some table := by
  obtain ⟨notPassed, after, begins, rfl⟩ := fdBeginOp_eq_some begun
  obtain ⟨_, _, sameGeneration, _⟩ := FdUse.ofBeginOp_cases begins
  rw [fdEndOp, onSlot, fdToOf_eq, update_self, sameGeneration,
    if_neg (BitVec.not_lt.mpr notPassed), Option.bind_some, update_self,
    (counted _).endOp_of_beginOp (room _) begins, Option.map_some, update_idem,
    update_eq_self]

theorem Counted.alloc (counted : table.Counted operations)
    (allocated : fdAlloc table = some (fd, next)) : next.Counted operations := by
  obtain ⟨slot, free, rfl, _⟩ := fdAlloc_eq_some allocated
  refine counted.update ((counted slot).of_idle (fun kind busy => ?_) (fun kind busy => ?_) rfl)
  · rw [free] at busy
    cases busy
  · cases busy

theorem Counted.set (counted : table.Counted operations) {kind : OfKind} {handle : UInt64T}
    (done : onSlot (ofSet kind handle) table fd = some next) :
    next.Counted operations := by
  obtain ⟨_, after, set, rfl⟩ := onSlot_eq_some done
  unfold ofSet at set
  split at set
  · rename_i allocated
    cases set
    refine counted.update ((counted _).of_idle (fun kind busy => ?_) (fun kind busy => ?_) rfl)
    · rw [allocated] at busy
      cases busy
    · cases busy
  · cases set

theorem Counted.free (counted : table.Counted operations)
    (done : fdFree table fd = some next) : next.Counted operations := by
  obtain ⟨_, after, free, rfl⟩ := onSlot_eq_some done
  unfold ofFree at free
  split at free
  · rename_i allocated
    cases free
    refine counted.update ((counted _).of_idle (fun kind busy => ?_) (fun kind busy => ?_) rfl)
    · rw [allocated] at busy
      cases busy
    · cases busy
  · cases free

theorem Counted.getD (counted : table.Counted operations) {done : Option OfTable}
    (kept : ∀ next, done = some next → next.Counted operations) :
    (done.getD table).Counted operations := by
  cases done with
  | none => exact counted
  | some next => exact kept next rfl

theorem counted_of_free
    (free : table = fun _ => { state := .free, handle := 0, busyCount := 0, generation := 0 }) :
    table.Counted fun _ => 0 := by
  intro slot
  rw [free]
  refine ⟨rfl, iff_of_false ?_ (Nat.lt_irrefl 0)⟩
  rintro ⟨_, ⟨⟩⟩

end OfTable

/-! ### Allocated slots -/

/-- What a slot is after its descriptor has been unset. -/
def OftableSlot.unset (slot : OftableSlot) : OftableSlot :=
  { slot with state := .allocated, handle := 0 }

def OfTable.unsetAt (table : OfTable) (fd : UInt64T) : OfTable :=
  update table (slotOf fd) (table (slotOf fd)).unset

theorem fdUnset_eq_some_iff {begun next : OfTable}
    (begins : fdBeginOp kind table fd = some (handle, begun)) :
    fdUnset table fd = some next ↔
      (table (slotOf fd)).state = .opened kind ∧ next = table.unsetAt fd := by
  obtain ⟨notPassed, _, beginsSlot, _⟩ := fdBeginOp_eq_some begins
  obtain ⟨_, _, _, _, ⟨opened, _⟩ | ⟨busy, _⟩⟩ := FdUse.ofBeginOp_cases beginsSlot
  · rw [fdUnset, onSlot, fdToOf_eq, if_neg (BitVec.not_lt.mpr notPassed), Option.bind_some,
      ofUnset, opened, Option.map_some, Option.some.injEq]
    exact ⟨fun same => ⟨rfl, same.symm⟩, fun same => same.2.symm⟩
  · rw [fdUnset, onSlot, fdToOf_eq, if_neg (BitVec.not_lt.mpr notPassed), Option.bind_some,
      ofUnset, busy]
    refine iff_of_false (by rintro ⟨⟩) ?_
    rintro ⟨⟨⟩, _⟩

theorem handle_of_fdBeginOp {begun : OfTable}
    (begins : fdBeginOp kind table fd = some (handle, begun)) :
    handle = (table (slotOf fd)).handle := by
  obtain ⟨_, _, beginsSlot, _⟩ := fdBeginOp_eq_some begins
  exact (FdUse.ofBeginOp_cases beginsSlot).1

section

variable (allocated : (table (slotOf fd)).state = .allocated)
  (notPassed : (table (slotOf fd)).generation ≤ fdGeneration fd)
include allocated notPassed

theorem fdSet_of_allocated :
    onSlot (ofSet kind handle) table fd = some (update table (slotOf fd)
      { table (slotOf fd) with state := .opened kind, handle }) := by
  rw [onSlot, fdToOf_eq, if_neg (BitVec.not_lt.mpr notPassed), Option.bind_some, ofSet, allocated]
  rfl

theorem fdFree_of_allocated :
    fdFree table fd = some (update table (slotOf fd)
      { table (slotOf fd) with
        state := .free
        generation := (table (slotOf fd)).generation + 1 }) := by
  rw [fdFree, onSlot, fdToOf_eq, if_neg (BitVec.not_lt.mpr notPassed), Option.bind_some,
    ofFree, allocated]
  rfl

end

/-- A new descriptor, whose generation it can name. -/
theorem fdAlloc_current {next : OfTable} (allocated : fdAlloc table = some (fd, next))
    (few : (next (slotOf fd)).generation.toNat < 2 ^ 64 / maxOpenFiles) :
    (table (slotOf fd)).state = .free ∧
      next = update table (slotOf fd) { table (slotOf fd) with state := .allocated } ∧
      fdGeneration fd = (table (slotOf fd)).generation := by
  obtain ⟨slot, free, update, rfl⟩ := fdAlloc_eq_some allocated
  rw [slotOf_ofToFd] at few ⊢
  refine ⟨free, update, (fdGeneration_ofToFd few).trans ?_⟩
  rw [update, update_self]

/-- A slot as it was, but for its generation. -/
structure OftableSlot.SameUse (before after : OftableSlot) : Prop where
  state : after.state = before.state
  handle : after.handle = before.handle
  busyCount : after.busyCount = before.busyCount

/-- The descriptor of a slot that was unset can set it again. -/
theorem fdSet_of_unset {kind : OfKind} {table : OfTable} {fd : UInt64T} {slot : OftableSlot}
    (left : table (slotOf fd) = slot.unset) (notPassed : slot.unset.generation ≤ fdGeneration fd)
    (handle : UInt64T) :
    onSlot (ofSet kind handle) table fd =
      some (update table (slotOf fd) { slot with state := .opened kind, handle }) := by
  have allocated : (table (slotOf fd)).state = .allocated := by
    rw [left]
    rfl
  rw [fdSet_of_allocated allocated (by rw [left]; exact notPassed), left]
  rfl

theorem fdSet_unsetAt (notPassed : (table (slotOf fd)).generation ≤ fdGeneration fd)
    (opened : (table (slotOf fd)).state = .opened kind) :
    onSlot (ofSet kind (table (slotOf fd)).handle) (table.unsetAt fd) fd = some table := by
  have left : table.unsetAt fd (slotOf fd) = (table (slotOf fd)).unset := update_self _ _ _
  rw [fdSet_of_unset left notPassed, ← opened]
  exact congrArg some ((update_idem _ _ _).trans (update_eq_self _ _))

end LionsOS.Fs

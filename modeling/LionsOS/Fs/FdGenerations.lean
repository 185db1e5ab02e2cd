/-
This file is about which descriptors the table of open files accepts. The
generation in a descriptor is compared with the one its slot is in: a descriptor
whose generation has passed is rejected, but one whose generation is still to
come is not.
-/

import LionsOS.Fs.Fd

open Function

namespace LionsOS.Fs

open OftableSlot

/-! ### Operations -/

/-- The operations that are given a descriptor. -/
inductive FdOperation where
  | free
  | set (kind : OfKind) (handle : UInt64T)
  | unset
  | beginOp (kind : OfKind)

variable {operation : FdOperation}

namespace FdOperation

/-- `none` when the descriptor is rejected. -/
def perform (table : OfTable) (fd : UInt64T) : FdOperation → Option OfTable
  | .free => fdFree table fd
  | .set .file file => fdSetFile table fd file
  | .set .dir dir => fdSetDir table fd dir
  | .unset => fdUnset table fd
  | .beginOp .file => (fdBeginOpFile table fd).map Prod.snd
  | .beginOp .dir => (fdBeginOpDir table fd).map Prod.snd

/-- What the operation does to a slot. -/
def onOf (slot : OftableSlot) : FdOperation → Option OftableSlot
  | .free => slot.ofFree
  | .set kind handle => slot.ofSet kind handle
  | .unset => slot.ofUnset
  | .beginOp kind => (slot.ofBeginOp kind).map Prod.snd

/-- The states of a slot in which the operation is allowed. -/
def Allows (state : OfState) : FdOperation → Prop
  | .free | .set _ _ => state = .allocated
  | .unset => ∃ kind, state = .opened kind
  | .beginOp kind => state = .opened kind ∨ state = .busy kind

variable {table next : OfTable} {fd : UInt64T}

theorem perform_eq (table : OfTable) (fd : UInt64T) (operation : FdOperation) :
    operation.perform table fd = onSlot (fun slot => operation.onOf slot) table fd := by
  cases operation with
  | free => rfl
  | set kind handle => cases kind <;> rfl
  | unset => rfl
  | beginOp kind =>
    have begins : (fdBeginOp kind table fd).map Prod.snd =
        onSlot (fun slot => (slot.ofBeginOp kind).map Prod.snd) table fd := by
      rw [fdBeginOp, onSlot]
      cases fdToOf table fd with
      | none => rfl
      | some slot =>
        show ((_ : Option _).map _).map _ = ((_ : Option _).map _).map _
        rw [Option.map_map, Option.map_map]
        rfl
    cases kind <;> exact begins

theorem onOf_eq_none {slot : OftableSlot} :
    operation.onOf slot = none ↔ ¬ operation.Allows slot.state := by
  cases operation with
  | free => cases state : slot.state <;> simp [onOf, Allows, ofFree, state]
  | set kind handle => cases state : slot.state <;> simp [onOf, Allows, ofSet, state]
  | unset => cases state : slot.state <;> simp [onOf, Allows, ofUnset, state]
  | beginOp kind =>
    cases state : slot.state with
    | free | allocated => simp [onOf, Allows, ofBeginOp, state]
    | opened other | busy other =>
      by_cases same : other = kind <;> simp [onOf, Allows, ofBeginOp, state, same]

theorem perform_ne_none :
    operation.perform table fd ≠ none ↔ (table (slotOf fd)).generation ≤ fdGeneration fd ∧
        operation.Allows (table (slotOf fd)).state := by
  rw [perform_eq, onSlot, fdToOf_eq]
  split_ifs with passed
  · exact iff_of_false (not_not_intro rfl) fun both => absurd both.1 (BitVec.not_le.mpr passed)
  · rw [Option.bind_some, ne_eq, Option.map_eq_none_iff, onOf_eq_none, not_not]
    exact (and_iff_right (BitVec.not_lt.mp passed)).symm

theorem onOf_cases {slot after : OftableSlot} (done : operation.onOf slot = some after) :
    slot.state ≠ .free ∧ (after.state = .free ∨
      after.state ≠ .free ∧ after.generation = slot.generation) := by
  cases operation with
  | free =>
    simp only [onOf, ofFree] at done
    split at done <;> cases done
    rename_i state
    exact ⟨by simp [state], Or.inl rfl⟩
  | set kind handle =>
    simp only [onOf, ofSet] at done
    split at done <;> cases done
    rename_i state
    exact ⟨by simp [state], Or.inr ⟨by simp, rfl⟩⟩
  | unset =>
    simp only [onOf, ofUnset] at done
    split at done <;> cases done
    rename_i state
    exact ⟨by simp [state], Or.inr ⟨by simp, rfl⟩⟩
  | beginOp kind =>
    simp only [onOf, ofBeginOp] at done
    split at done
    case h_1 other state =>
      split_ifs at done
      case neg => simp at done
      cases done
      exact ⟨by simp [state], Or.inr ⟨by simp, rfl⟩⟩
    case h_2 other state =>
      split_ifs at done
      case neg => simp at done
      cases done
      exact ⟨by simp [state], Or.inr ⟨by simp [state], rfl⟩⟩
    case h_3 => cases done

end FdOperation

/-! ### The descriptor of an allocation -/

variable {table next : OfTable} {fd : UInt64T}

/-- The descriptor of what a slot is allocated to, if it is allocated. -/
def currentFd (table : OfTable) (slot : Fin maxOpenFiles) : Option UInt64T :=
  if (table slot).state = .free then none else some (ofToFd table slot)

theorem currentFd_congr {slot : Fin maxOpenFiles}
    (sameState : (next slot).state = .free ↔ (table slot).state = .free)
    (sameGeneration : (next slot).generation = (table slot).generation) :
    currentFd next slot = currentFd table slot := by
  unfold currentFd ofToFd
  rw [sameGeneration]
  exact if_congr sameState rfl rfl

theorem fdAlloc_currentFd (allocated : fdAlloc table = some (fd, next)) :
    currentFd table (slotOf fd) = none ∧ currentFd next (slotOf fd) = some fd ∧
      ∀ slot ≠ slotOf fd, currentFd next slot = currentFd table slot := by
  obtain ⟨slot, free, changed, same⟩ := fdAlloc_eq_some allocated
  have here : slotOf fd = slot := same ▸ slotOf_ofToFd next slot
  rw [here]
  refine ⟨if_pos free, ?_, fun other different => ?_⟩
  · have inUse : (next slot).state ≠ .free := by
      rw [changed]
      simp
    rw [currentFd, if_neg inUse, same]
  · refine currentFd_congr ?_ ?_ <;> rw [changed, update_of_ne different]

theorem perform_currentFd (done : operation.perform table fd = some next) (slot : Fin maxOpenFiles) :
    currentFd next slot = currentFd table slot ∨ slot = slotOf fd ∧ currentFd next slot = none := by
  rw [FdOperation.perform_eq] at done
  obtain ⟨_, after, acted, changed⟩ := onSlot_eq_some done
  by_cases here : slot = slotOf fd
  · rw [← here] at acted changed
    obtain ⟨inUse, freed | ⟨stays, generation⟩⟩ := FdOperation.onOf_cases acted
    · refine Or.inr ⟨here, ?_⟩
      rw [currentFd, changed, update_self, if_pos freed]
    · refine Or.inl (currentFd_congr ?_ ?_)
      · rw [changed, update_self]
        exact iff_of_false stays inUse
      · rw [changed, update_self, generation]
  · refine Or.inl (currentFd_congr ?_ ?_) <;> rw [changed, update_of_ne here]

theorem fd_eq_ofToFd (same : fdGeneration fd = (table (slotOf fd)).generation) :
    ofToFd table (slotOf fd) = fd := by
  have small : (table (slotOf fd)).generation.toNat < 2 ^ 64 / maxOpenFiles := by
    have bound : fd.toNat < 2 ^ 64 := fd.isLt
    rw [← same, fdGeneration_toNat]
    exact Nat.div_lt_div_of_lt_of_dvd (by decide) bound
  exact fd_eq (slotOf_ofToFd table _) ((fdGeneration_ofToFd small).trans same.symm)

theorem ne_ofToFd (future : (table (slotOf fd)).generation < fdGeneration fd) :
    ofToFd table (slotOf fd) ≠ fd := by
  intro same
  have bound : (fdGeneration fd).toNat < 2 ^ 64 / maxOpenFiles := by
    have bound : fd.toNat < 2 ^ 64 := fd.isLt
    rw [fdGeneration_toNat]
    exact Nat.div_lt_div_of_lt_of_dvd (by decide) bound
  have small := Nat.lt_trans (BitVec.lt_def.mp future) bound
  have generation := fdGeneration_ofToFd small
  rw [same] at generation
  rw [generation] at future
  exact BitVec.lt_irrefl _ future

/-- What a descriptor is of is settled when it is allocated and until it is freed. Given any
descriptor, an operation acts only if the descriptor is that of the slot's allocation, exactly
where the generation of the descriptor is not one that the slot has yet to come to, or the
operation is not allowed in the state of the slot. -/
theorem acts_on_current_iff (table : OfTable) :
    (∀ fd next, fdAlloc table = some (fd, next) → currentFd table (slotOf fd) = none ∧
        currentFd next (slotOf fd) = some fd ∧
        ∀ slot ≠ slotOf fd, currentFd next slot = currentFd table slot) ∧
      (∀ (operation : FdOperation) fd next, operation.perform table fd = some next →
        ∀ slot, currentFd next slot = currentFd table slot ∨
          slot = slotOf fd ∧ currentFd next slot = none) ∧
      ∀ (operation : FdOperation) fd,
        (operation.perform table fd ≠ none → currentFd table (slotOf fd) = some fd) ↔
          ¬ ((table (slotOf fd)).generation < fdGeneration fd ∧
            operation.Allows (table (slotOf fd)).state) := by
  refine ⟨fun _ _ => fdAlloc_currentFd, fun _ _ _ => perform_currentFd, fun operation fd => ?_⟩
  rw [FdOperation.perform_ne_none]
  constructor
  · rintro current ⟨future, allowed⟩
    have accepted := current ⟨BitVec.le_of_lt future, allowed⟩
    rw [currentFd] at accepted
    split_ifs at accepted
    exact ne_ofToFd future (Option.some.inj accepted)
  · rintro notFuture ⟨reached, allowed⟩
    have same : fdGeneration fd = (table (slotOf fd)).generation := by
      refine BitVec.le_antisymm (BitVec.not_lt.mp fun future => ?_) reached
      exact notFuture ⟨future, allowed⟩
    have inUse : (table (slotOf fd)).state ≠ .free := by
      intro free
      rw [free] at allowed
      cases operation <;> simp [FdOperation.Allows] at allowed
    rw [currentFd, if_neg inUse, fd_eq_ofToFd same]

/-- A table in which the first slot has a file open. -/
def oneFileOpen : OfTable :=
  update (fun _ => ⟨.free, 0, 0, 0⟩) (slotOf 0) ⟨.opened .file, 7, 0, 0⟩

/-- Descriptor 256 was never returned, yet an operation begins on the file of descriptor 0. -/
theorem future_descriptor_accepted :
    ¬ ∀ (table : OfTable) (operation : FdOperation) (fd : UInt64T),
      operation.perform table fd ≠ none → currentFd table (slotOf fd) = some fd := by
  intro claimed
  have current := claimed oneFileOpen (.beginOp .file) 256 (by decide)
  exact absurd current (by decide)

end LionsOS.Fs

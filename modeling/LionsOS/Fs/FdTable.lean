/-
This file is about the workers and callbacks that share the table of open files.
Each of them has at most one operation begun and not ended. As long as the
generations do not go round, the busy count of a slot is the number of operations
begun on it, so an open file is only closed when nobody is working on it, and a
descriptor that was freed stays dead.
-/

import LionsOS.Fs.Fd
import LionsOS.Lib.Runs
import Mathlib.Data.Fintype.Card

open Function

namespace LionsOS.Fs

open StepRun OftableSlot

variable {Caller : Type} {fd : UInt64T} {kind : OfKind} {handle : UInt64T} {caller : Caller}

/-! ### The users of the table -/

/-- The table, with the descriptors that were returned and freed, the handle that was last set for
each of them, and for each caller the descriptor of the operation it has begun and the handle it was
given. -/
structure FdUse (Caller : Type) where
  table : OfTable
  issued : List UInt64T
  freed : List UInt64T
  lastSet : UInt64T → Option UInt64T
  holding : Caller → Option (UInt64T × UInt64T)

inductive FdEvent (Caller : Type) where
  | alloc
  | setFile (fd file : UInt64T)
  | setDir (fd dir : UInt64T)
  | unset (fd : UInt64T)
  | free (fd : UInt64T)
  | beginOp (caller : Caller) (kind : OfKind) (fd : UInt64T)
  | endOp (caller : Caller)

namespace FdUse

variable {slot : Fin maxOpenFiles} {after : OftableSlot} {table : OfTable}

section Calls

variable [DecidableEq Caller]

/-- A descriptor is set to a handle, or not when that fails. -/
def set (use : FdUse Caller) (fd handle : UInt64T) : Option OfTable → FdUse Caller
  | none => use
  | some table =>
    { use with table, lastSet := update use.lastSet fd (some handle) }

/-- What a call does, `none` when it does not happen: with a descriptor that was never returned, or
against the order of begin and end. A call that fails changes nothing. -/
def perform (use : FdUse Caller) : FdEvent Caller → Option (FdUse Caller)
  | .alloc =>
    match fdAlloc use.table with
    | none => some use
    | some (fd, table) => some { use with table, issued := fd :: use.issued }
  | .setFile fd file =>
    if fd ∈ use.issued then some (use.set fd file (fdSetFile use.table fd file)) else none
  | .setDir fd dir =>
    if fd ∈ use.issued then some (use.set fd dir (fdSetDir use.table fd dir)) else none
  | .unset fd =>
    if fd ∈ use.issued then
      match fdUnset use.table fd with
      | none => some use
      | some table => some { use with table }
    else none
  | .free fd =>
    if fd ∈ use.issued then
      match fdFree use.table fd with
      | none => some use
      | some table => some { use with table, freed := fd :: use.freed }
    else none
  | .beginOp caller kind fd =>
    if fd ∈ use.issued ∧ (use.holding caller).isNone then
      match fdBeginOp kind use.table fd with
      | none => some use
      | some (handle, table) =>
        some { use with table, holding := update use.holding caller (some (fd, handle)) }
    else none
  | .endOp caller =>
    (use.holding caller).bind fun (fd, _) =>
      (fdEndOp use.table fd).map fun table =>
        { use with table, holding := update use.holding caller none }

end Calls

/-- The static table, before any call. -/
structure Initial (use : FdUse Caller) : Prop where
  table : use.table = fun _ => { state := .free, handle := 0, busyCount := 0, generation := 0 }
  issued : use.issued = []
  freed : use.freed = []
  holding : ∀ caller, use.holding caller = none

variable [Fintype Caller]

/-- The callers that have begun an operation on a slot and not ended it. -/
def holders (use : FdUse Caller) (slot : Fin maxOpenFiles) : Finset Caller :=
  Finset.univ.filter fun caller => (use.holding caller).map (fun held => slotOf held.1) = some slot

/-! ### The invariant of a slot -/

structure SlotSound (use : FdUse Caller) (slot : Fin maxOpenFiles) : Prop where
  generation : (use.table slot).generation.toNat ≤ use.freed.length
  reached : ∀ fd ∈ use.issued, slotOf fd = slot → fdGeneration fd ≤ (use.table slot).generation
  current : ∀ fd ∈ use.issued, slotOf fd = slot →
    fdGeneration fd = (use.table slot).generation → (use.table slot).state ≠ .free
  live : ∀ fd ∈ use.issued, slotOf fd = slot → fd ∉ use.freed →
    fdGeneration fd = (use.table slot).generation
  passed : ∀ fd ∈ use.freed, slotOf fd = slot → fdGeneration fd < (use.table slot).generation
  handle : ∀ fd ∈ use.issued, slotOf fd = slot → fdGeneration fd = (use.table slot).generation →
    ∀ kind, (use.table slot).state = .opened kind ∨ (use.table slot).state = .busy kind →
      use.lastSet fd = some (use.table slot).handle
  count : (use.table slot).busyCount.toNat = (use.holders slot).card
  busy : (∃ kind, (use.table slot).state = .busy kind) ↔ (use.holders slot).Nonempty
  holds : ∀ caller fd handle, use.holding caller = some (fd, handle) → slotOf fd = slot →
    fd ∈ use.issued ∧ fdGeneration fd = (use.table slot).generation ∧
      handle = (use.table slot).handle

def Sound (use : FdUse Caller) : Prop :=
  ∀ slot, use.SlotSound slot

variable {use next : FdUse Caller}

theorem mem_holders :
    caller ∈ use.holders slot ↔
      ∃ fd handle, use.holding caller = some (fd, handle) ∧ slotOf fd = slot := by
  rw [holders, Finset.mem_filter, Option.map_eq_some_iff]
  constructor
  · rintro ⟨_, ⟨fd, handle⟩, held, same⟩
    exact ⟨fd, handle, held, same⟩
  · rintro ⟨fd, handle, held, same⟩
    exact ⟨Finset.mem_univ _, ⟨fd, handle⟩, held, same⟩

theorem Initial.sound (initial : use.Initial) : use.Sound := by
  intro slot
  have nobody : use.holders slot = ∅ := by
    refine Finset.eq_empty_of_forall_notMem fun caller member => ?_
    obtain ⟨fd, handle, held, _⟩ := mem_holders.mp member
    rw [initial.holding caller] at held
    cases held
  have noIssued : ∀ fd, fd ∉ use.issued := fun fd => by rw [initial.issued]; exact List.not_mem_nil
  have noFreed : ∀ fd, fd ∉ use.freed := fun fd => by rw [initial.freed]; exact List.not_mem_nil
  refine
    { generation := ?_
      reached := fun fd member => absurd member (noIssued fd)
      current := fun fd member => absurd member (noIssued fd)
      live := fun fd member => absurd member (noIssued fd)
      passed := fun fd member => absurd member (noFreed fd)
      handle := fun fd member => absurd member (noIssued fd)
      count := ?_
      busy := ?_
      holds := fun caller fd handle held => ?_ }
  · rw [initial.table]
    exact Nat.zero_le _
  · rw [initial.table, nobody]
    rfl
  · rw [initial.table, nobody]
    refine ⟨?_, fun some => absurd some Finset.not_nonempty_empty⟩
    rintro ⟨kind, impossible⟩
    cases impossible
  · rw [initial.holding caller] at held
    cases held

/-- What is known of a slot stays true while neither it nor anything about its descriptors
changes. -/
theorem SlotSound.congr (sound : use.SlotSound slot) (sameSlot : next.table slot = use.table slot)
    (grown : use.freed.length ≤ next.freed.length)
    (issued : ∀ fd, slotOf fd = slot → (fd ∈ next.issued ↔ fd ∈ use.issued))
    (freed : ∀ fd, slotOf fd = slot → (fd ∈ next.freed ↔ fd ∈ use.freed))
    (lastSet : ∀ fd, slotOf fd = slot → next.lastSet fd = use.lastSet fd)
    (holding : ∀ caller fd handle, slotOf fd = slot →
      (next.holding caller = some (fd, handle) ↔ use.holding caller = some (fd, handle))) :
    next.SlotSound slot := by
  have holders : next.holders slot = use.holders slot := by
    ext caller
    rw [mem_holders, mem_holders]
    exact exists₂_congr fun fd handle => and_congr_left fun here => holding caller fd handle here
  refine
    { generation := ?_, reached := ?_, current := ?_, live := ?_, passed := ?_, handle := ?_
      count := ?_, busy := ?_, holds := ?_ }
  · rw [sameSlot]
    exact Nat.le_trans sound.generation grown
  · rw [sameSlot]
    exact fun fd member here => sound.reached fd ((issued fd here).mp member) here
  · rw [sameSlot]
    exact fun fd member here => sound.current fd ((issued fd here).mp member) here
  · rw [sameSlot]
    exact fun fd member here alive =>
      sound.live fd ((issued fd here).mp member) here (mt (freed fd here).mpr alive)
  · rw [sameSlot]
    exact fun fd member here => sound.passed fd ((freed fd here).mp member) here
  · rw [sameSlot]
    intro fd member here
    rw [lastSet fd here]
    exact sound.handle fd ((issued fd here).mp member) here
  · rw [sameSlot, holders]
    exact sound.count
  · rw [sameSlot, holders]
    exact sound.busy
  · intro caller fd handle held here
    rw [sameSlot, issued fd here]
    exact sound.holds caller fd handle ((holding caller fd handle here).mp held) here

/-- A call that only concerns one slot and its descriptors. -/
theorem Sound.change (sound : use.Sound) (table : next.table = update use.table slot after)
    (grown : use.freed.length ≤ next.freed.length)
    (issued : ∀ fd, slotOf fd ≠ slot → (fd ∈ next.issued ↔ fd ∈ use.issued))
    (freed : ∀ fd, slotOf fd ≠ slot → (fd ∈ next.freed ↔ fd ∈ use.freed))
    (lastSet : ∀ fd, slotOf fd ≠ slot → next.lastSet fd = use.lastSet fd)
    (holding : ∀ caller fd handle, slotOf fd ≠ slot →
      (next.holding caller = some (fd, handle) ↔ use.holding caller = some (fd, handle)))
    (own : next.SlotSound slot) : next.Sound := by
  intro other
  by_cases here : other = slot
  · rw [here]
    exact own
  · have away : ∀ {fd}, slotOf fd = other → slotOf fd ≠ slot := fun same => same ▸ here
    refine (sound other).congr ?_ grown (fun fd same => issued fd (away same))
      (fun fd same => freed fd (away same)) (fun fd same => lastSet fd (away same))
      fun caller fd handle same => holding caller fd handle (away same)
    rw [table, update_of_ne here]

theorem Sound.generation_eq (sound : use.Sound) (member : fd ∈ use.issued)
    (notPassed : (use.table (slotOf fd)).generation ≤ fdGeneration fd) :
    fdGeneration fd = (use.table (slotOf fd)).generation :=
  BitVec.le_antisymm ((sound _).reached fd member rfl) notPassed

theorem SlotSound.nobody (sound : use.SlotSound slot)
    (idle : ∀ kind, (use.table slot).state ≠ .busy kind) : use.holders slot = ∅ := by
  refine Finset.not_nonempty_iff_eq_empty.mp fun some => ?_
  obtain ⟨kind, busy⟩ := sound.busy.mpr some
  exact idle kind busy

theorem holders_congr (same : next.holding = use.holding) :
    next.holders slot = use.holders slot := by
  rw [holders, holders, same]

theorem not_holding_of_nobody (nobody : use.holders slot = ∅)
    (held : use.holding caller = some (fd, handle)) : slotOf fd ≠ slot := by
  intro here
  have member : caller ∈ use.holders slot := mem_holders.mpr ⟨fd, handle, held, here⟩
  rw [nobody] at member
  exact absurd member (Finset.notMem_empty caller)

/-! ### What each call keeps -/

/-- The slot of a call that acts on a slot nobody works on, and leaves it so. -/
theorem slotSound_of_idle (sound : use.SlotSound slot) (table : next.table slot = after)
    (idle : ∀ kind, (use.table slot).state ≠ .busy kind)
    (idleAfter : ∀ kind, after.state ≠ .busy kind) (sameHolding : next.holding = use.holding)
    (sameCount : after.busyCount = (use.table slot).busyCount)
    (generation : after.generation.toNat ≤ next.freed.length)
    (reached : ∀ fd ∈ next.issued, slotOf fd = slot → fdGeneration fd ≤ after.generation)
    (current : ∀ fd ∈ next.issued, slotOf fd = slot → fdGeneration fd = after.generation →
      after.state ≠ .free)
    (live : ∀ fd ∈ next.issued, slotOf fd = slot → fd ∉ next.freed →
      fdGeneration fd = after.generation)
    (passed : ∀ fd ∈ next.freed, slotOf fd = slot → fdGeneration fd < after.generation)
    (handle : ∀ fd ∈ next.issued, slotOf fd = slot → fdGeneration fd = after.generation →
      ∀ kind, after.state = .opened kind → next.lastSet fd = some after.handle) :
    next.SlotSound slot := by
  have nobody := sound.nobody idle
  have nobodyAfter : next.holders slot = ∅ := (holders_congr sameHolding).trans nobody
  subst table
  refine
    { generation := generation, reached := reached, current := current, live := live
      passed := passed, handle := ?_, count := ?_, busy := ?_, holds := ?_ }
  · rintro fd member here same kind (opened | busy)
    · exact handle fd member here same kind opened
    · exact absurd busy (idleAfter kind)
  · rw [sameCount, sound.count, nobody, nobodyAfter]
  · rw [nobodyAfter]
    exact ⟨fun ⟨kind, busy⟩ => absurd busy (idleAfter kind),
      fun some => absurd some Finset.not_nonempty_empty⟩
  · intro caller fd handle held here
    rw [sameHolding] at held
    exact absurd here (not_holding_of_nobody nobody held)

theorem Sound.alloc (sound : use.Sound) (few : use.freed.length < 2 ^ 64 / maxOpenFiles)
    (allocated : fdAlloc use.table = some (fd, table)) :
    Sound { use with table, issued := fd :: use.issued } := by
  obtain ⟨slot, free, rfl, rfl⟩ := fdAlloc_eq_some allocated
  have slotSound := sound slot
  generalize afterEq : { use.table slot with state := .allocated } = after
  have generation : after.generation = (use.table slot).generation := by rw [← afterEq]
  have fewHere : (update use.table slot after slot).generation.toNat < 2 ^ 64 / maxOpenFiles := by
    rw [update_self, generation]
    exact Nat.lt_of_le_of_lt slotSound.generation few
  have isSlot := slotOf_ofToFd (update use.table slot after) slot
  have isGeneration := fdGeneration_ofToFd fewHere
  rw [update_self, generation] at isGeneration
  generalize ofToFd (update use.table slot after) slot = fd at isSlot isGeneration
  have cons : ∀ other, other ∈ fd :: use.issued → other = fd ∨ other ∈ use.issued := fun _ =>
    List.mem_cons.mp
  refine sound.change rfl le_rfl (fun other away => ?_) (fun _ _ => Iff.rfl) (fun _ _ => rfl)
    (fun _ _ _ _ => Iff.rfl) ?_
  · rw [List.mem_cons]
    exact or_iff_right fun same => away (same ▸ isSlot)
  · refine slotSound_of_idle slotSound (update_self _ _ _) ?_ ?_ rfl (by rw [← afterEq])
      ?_ (fun other member here => ?_) (fun _ _ _ _ => ?_) (fun other member here alive => ?_)
      (fun other member here => ?_) fun other _ _ _ kind opened => ?_
    · rw [free]
      exact fun kind same => by cases same
    · rw [← afterEq]
      exact fun kind same => by cases same
    · rw [generation]
      exact slotSound.generation
    · rw [generation]
      rcases cons other member with rfl | old
      · rw [isGeneration]
        exact BitVec.le_refl _
      · exact slotSound.reached other old here
    · rw [← afterEq]
      exact fun same => by cases same
    · rw [generation]
      rcases cons other member with rfl | old
      · exact isGeneration
      · exact slotSound.live other old here alive
    · rw [generation]
      exact slotSound.passed other member here
    · rw [← afterEq] at opened
      cases opened

theorem Sound.set [DecidableEq Caller] (sound : use.Sound) (member : fd ∈ use.issued) :
    (use.set fd handle (onSlot (ofSet kind handle) use.table fd)).Sound := by
  cases outcome : onSlot (ofSet kind handle) use.table fd with
  | none => exact sound
  | some table =>
    obtain ⟨notPassed, after, operated, rfl⟩ := onSlot_eq_some outcome
    have sameGeneration := sound.generation_eq member notPassed
    have slotSound := sound (slotOf fd)
    unfold ofSet at operated
    split at operated
    · rename_i allocated
      cases operated
      refine sound.change rfl le_rfl (fun _ _ => Iff.rfl) (fun _ _ => Iff.rfl)
        (fun other away => ?_) (fun _ _ _ _ => Iff.rfl) ?_
      · exact update_of_ne (fun same => away (congrArg slotOf same)) _ _
      · refine slotSound_of_idle slotSound (update_self _ _ _) ?_ ?_ rfl rfl
          slotSound.generation slotSound.reached (fun _ _ _ _ => ?_) slotSound.live
          slotSound.passed fun other _ here same _ _ => ?_
        · rw [allocated]
          exact fun kind same => by cases same
        · exact fun kind same => by cases same
        · exact fun same => by cases same
        · have sameFd : other = fd := fd_eq here (same.trans sameGeneration.symm)
          rw [sameFd]
          exact update_self _ _ _
    · cases operated

theorem Sound.unset (sound : use.Sound) (unset : fdUnset use.table fd = some table) :
    Sound { use with table } := by
  obtain ⟨notPassed, after, operated, rfl⟩ := onSlot_eq_some unset
  have slotSound := sound (slotOf fd)
  unfold ofUnset at operated
  split at operated
  · rename_i kind opened
    cases operated
    refine sound.change rfl le_rfl (fun _ _ => Iff.rfl) (fun _ _ => Iff.rfl) (fun _ _ => rfl)
      (fun _ _ _ _ => Iff.rfl) ?_
    refine slotSound_of_idle slotSound (update_self _ _ _) ?_ ?_ rfl rfl
      slotSound.generation slotSound.reached (fun _ _ _ _ => ?_) slotSound.live slotSound.passed
      fun _ _ _ _ _ opened => ?_
    · rw [opened]
      exact fun kind same => by cases same
    · exact fun kind same => by cases same
    · exact fun same => by cases same
    · cases opened
  · cases operated

theorem Sound.free (sound : use.Sound) (few : use.freed.length < 2 ^ 64 / maxOpenFiles)
    (member : fd ∈ use.issued) (freed : fdFree use.table fd = some table) :
    Sound { use with table, freed := fd :: use.freed } := by
  obtain ⟨notPassed, after, operated, rfl⟩ := onSlot_eq_some freed
  have sameGeneration := sound.generation_eq member notPassed
  have slotSound := sound (slotOf fd)
  have next : ((use.table (slotOf fd)).generation + 1).toNat =
      (use.table (slotOf fd)).generation.toNat + 1 := by
    have within := Nat.lt_of_le_of_lt slotSound.generation few
    have one : (1 : UInt64T).toNat = 1 := rfl
    simp only [maxOpenFiles] at within
    rw [BitVec.toNat_add]
    omega
  unfold ofFree at operated
  split at operated
  · rename_i allocated
    cases operated
    refine sound.change rfl (Nat.le_succ _) (fun _ _ => Iff.rfl) (fun other away => ?_)
      (fun _ _ => rfl) (fun _ _ _ _ => Iff.rfl) ?_
    · rw [List.mem_cons]
      exact or_iff_right fun same => away (same ▸ rfl)
    · refine slotSound_of_idle slotSound (update_self _ _ _) ?_ ?_ rfl rfl ?_
        (fun other old here => ?_) (fun other old here same => ?_) (fun other old here alive => ?_)
        (fun other dead here => ?_) fun _ _ _ _ _ opened => ?_
      · rw [allocated]
        exact fun kind same => by cases same
      · exact fun kind same => by cases same
      · rw [next]
        exact Nat.succ_le_succ slotSound.generation
      · have least := slotSound.reached other old here
        rw [BitVec.le_def] at least ⊢
        rw [next]
        exact Nat.le_succ_of_le least
      · have least := slotSound.reached other old here
        rw [same, BitVec.le_def, next] at least
        exact absurd least (Nat.not_succ_le_self _)
      · have sameOther := slotSound.live other old here fun dead =>
          alive (List.mem_cons_of_mem _ dead)
        have sameFd : other = fd := fd_eq here (sameOther.trans sameGeneration.symm)
        exact absurd (sameFd ▸ List.mem_cons_self) alive
      · rw [BitVec.lt_def, next]
        rcases List.mem_cons.mp dead with rfl | dead
        · rw [sameGeneration]
          exact Nat.lt_succ_self _
        · exact Nat.lt_succ_of_lt (BitVec.lt_def.mp (slotSound.passed other dead here))
      · cases opened
  · cases operated

/-- Beginning an operation makes the slot busy, or counts one more operation. -/
theorem ofBeginOp_cases {slot : OftableSlot} (begun : slot.ofBeginOp kind = some (handle, after)) :
    handle = slot.handle ∧ after.handle = slot.handle ∧ after.generation = slot.generation ∧
      after.state = .busy kind ∧
      (slot.state = .opened kind ∧ after.busyCount = 1 ∨
        slot.state = .busy kind ∧ after.busyCount = slot.busyCount + 1) := by
  unfold ofBeginOp at begun
  split at begun
  · rename_i other opened
    split_ifs at begun with same
    cases begun
    exact ⟨rfl, rfl, rfl, rfl, Or.inl ⟨same ▸ opened, rfl⟩⟩
  · rename_i other busy
    split_ifs at begun with same
    cases begun
    exact ⟨rfl, rfl, rfl, same ▸ busy, Or.inr ⟨same ▸ busy, rfl⟩⟩
  · cases begun

/-- Ending an operation counts one less, and the last one leaves the slot open. -/
theorem ofEndOp_cases {slot : OftableSlot} (ended : slot.ofEndOp = some after) :
    ∃ kind, slot.state = .busy kind ∧ after.handle = slot.handle ∧
      after.generation = slot.generation ∧ after.busyCount = slot.busyCount - 1 ∧
      after.state = if slot.busyCount - 1 = 0 then .opened kind else .busy kind := by
  unfold ofEndOp at ended
  split at ended
  · rename_i kind busy
    cases ended
    exact ⟨kind, busy, rfl, rfl, rfl, rfl⟩
  · cases ended

section Callers

variable [DecidableEq Caller]

theorem holders_insert (holding : next.holding = update use.holding caller (some (fd, handle))) :
    next.holders (slotOf fd) = insert caller (use.holders (slotOf fd)) := by
  ext other
  rw [Finset.mem_insert, mem_holders, mem_holders, holding]
  by_cases here : other = caller
  · rw [here, update_self]
    exact ⟨fun _ => Or.inl rfl, fun _ => ⟨fd, handle, rfl, rfl⟩⟩
  · rw [update_of_ne here]
    exact ⟨Or.inr, fun member => member.resolve_left here⟩

theorem holders_erase (fd : UInt64T) (holding : next.holding = update use.holding caller none) :
    next.holders (slotOf fd) = (use.holders (slotOf fd)).erase caller := by
  ext other
  rw [Finset.mem_erase, mem_holders, mem_holders, holding]
  by_cases here : other = caller
  · rw [here, update_self]
    exact ⟨fun ⟨_, _, impossible, _⟩ => (nomatch impossible), fun ⟨same, _⟩ => absurd rfl same⟩
  · rw [update_of_ne here]
    exact ⟨fun member => ⟨here, member⟩, And.right⟩

theorem Sound.beginOp (sound : use.Sound) (few : Fintype.card Caller < 2 ^ 64)
    (member : fd ∈ use.issued) (outside : use.holding caller = none)
    (begun : fdBeginOp kind use.table fd = some (handle, table)) :
    Sound { use with
      table, holding := update use.holding caller (some (fd, handle)) } := by
  obtain ⟨notPassed, after, operated, rfl⟩ := fdBeginOp_eq_some begun
  have sameGeneration := sound.generation_eq member notPassed
  have slotSound := sound (slotOf fd)
  obtain ⟨rfl, sameHandle, generation, state, counted⟩ := ofBeginOp_cases operated
  generalize nextEq : ({ use with
    table := update use.table (slotOf fd) after
    holding := update use.holding caller
      (some (fd, (use.table (slotOf fd)).handle)) } : FdUse Caller) = next
  have table : next.table = update use.table (slotOf fd) after := nextEq ▸ rfl
  have holding : next.holding = update use.holding caller
      (some (fd, (use.table (slotOf fd)).handle)) := nextEq ▸ rfl
  have issued : next.issued = use.issued := nextEq ▸ rfl
  have freed : next.freed = use.freed := nextEq ▸ rfl
  have lastSet : next.lastSet = use.lastSet := nextEq ▸ rfl
  have here : next.table (slotOf fd) = after := by rw [table, update_self]
  have holders := holders_insert holding
  have notMember : caller ∉ use.holders (slotOf fd) := fun within => by
    obtain ⟨_, _, held, _⟩ := mem_holders.mp within
    rw [outside] at held
    cases held
  refine sound.change table (freed ▸ le_rfl) (fun _ _ => by rw [issued]) (fun _ _ => by rw [freed])
    (fun _ _ => by rw [lastSet]) (fun other fd' handle' away => ?_) ?_
  · rw [holding]
    by_cases same : other = caller
    · rw [same, update_self, outside]
      refine ⟨fun given => ?_, fun impossible => nomatch impossible⟩
      cases given
      exact absurd rfl away
    · rw [update_of_ne same]
  · refine
      { generation := ?_, reached := ?_, current := ?_, live := ?_, passed := ?_, handle := ?_
        count := ?_, busy := ?_, holds := ?_ }
    · rw [here, generation, freed]
      exact slotSound.generation
    · rw [here, generation, issued]
      exact slotSound.reached
    · rw [here, state]
      exact fun _ _ _ _ same => by cases same
    · rw [here, generation, issued, freed]
      exact slotSound.live
    · rw [here, generation, freed]
      exact slotSound.passed
    · rw [here, generation, sameHandle, issued, lastSet]
      intro other old sameSlot same _ _
      refine slotSound.handle other old sameSlot same kind ?_
      exact counted.imp And.left And.left
    · rw [here, holders, Finset.card_insert_of_notMem notMember, ← slotSound.count]
      rcases counted with ⟨opened, one⟩ | ⟨_, more⟩
      · have nobody := slotSound.nobody fun other busy => by
          rw [opened] at busy
          cases busy
        rw [one, slotSound.count, nobody]
        rfl
      · have bound : (use.holders (slotOf fd)).card + 1 ≤ Fintype.card Caller := by
          rw [← Finset.card_insert_of_notMem notMember]
          exact Finset.card_le_univ _
        rw [← slotSound.count] at bound
        have oneNat : (1 : UInt64T).toNat = 1 := rfl
        rw [more, BitVec.toNat_add, oneNat, Nat.mod_eq_of_lt (Nat.lt_of_le_of_lt bound few)]
    · rw [here, state, holders]
      exact ⟨fun _ => Finset.insert_nonempty _ _, fun _ => ⟨kind, rfl⟩⟩
    · rw [here, generation, sameHandle, issued, holding]
      intro other fd' handle' held sameSlot
      by_cases same : other = caller
      · rw [same, update_self] at held
        cases held
        exact ⟨member, sameGeneration, rfl⟩
      · rw [update_of_ne same] at held
        exact slotSound.holds other fd' handle' held sameSlot

theorem Sound.endOp (sound : use.Sound) (held : use.holding caller = some (fd, handle))
    (ended : fdEndOp use.table fd = some table) :
    Sound { use with table, holding := update use.holding caller none } := by
  obtain ⟨notPassed, after, operated, rfl⟩ := onSlot_eq_some ended
  have slotSound := sound (slotOf fd)
  obtain ⟨kind, busy, sameHandle, generation, fewer, state⟩ := ofEndOp_cases operated
  generalize nextEq : ({ use with
    table := update use.table (slotOf fd) after
    holding := update use.holding caller none } : FdUse Caller) = next
  have table : next.table = update use.table (slotOf fd) after := nextEq ▸ rfl
  have holding : next.holding = update use.holding caller none := nextEq ▸ rfl
  have issued : next.issued = use.issued := nextEq ▸ rfl
  have freed : next.freed = use.freed := nextEq ▸ rfl
  have lastSet : next.lastSet = use.lastSet := nextEq ▸ rfl
  have here : next.table (slotOf fd) = after := by rw [table, update_self]
  have holders := holders_erase fd holding
  have member : caller ∈ use.holders (slotOf fd) := mem_holders.mpr ⟨fd, handle, held, rfl⟩
  have count : after.busyCount.toNat = (next.holders (slotOf fd)).card := by
    have positive := Finset.card_pos.mpr ⟨caller, member⟩
    rw [← slotSound.count] at positive
    have least : (1 : UInt64T) ≤ (use.table (slotOf fd)).busyCount := positive
    rw [fewer, BitVec.toNat_sub_of_le least, holders, Finset.card_erase_of_mem member,
      slotSound.count]
    rfl
  refine sound.change table (freed ▸ le_rfl) (fun _ _ => by rw [issued]) (fun _ _ => by rw [freed])
    (fun _ _ => by rw [lastSet]) (fun other fd' handle' away => ?_) ?_
  · rw [holding]
    by_cases same : other = caller
    · rw [same, update_self, held]
      refine ⟨fun impossible => (nomatch impossible), fun given => ?_⟩
      cases given
      exact absurd rfl away
    · rw [update_of_ne same]
  · refine
      { generation := ?_, reached := ?_, current := ?_, live := ?_, passed := ?_, handle := ?_
        count := ?_, busy := ?_, holds := ?_ }
    · rw [here, generation, freed]
      exact slotSound.generation
    · rw [here, generation, issued]
      exact slotSound.reached
    · rw [here, state]
      intro _ _ _ _ same
      split_ifs at same
    · rw [here, generation, issued, freed]
      exact slotSound.live
    · rw [here, generation, freed]
      exact slotSound.passed
    · rw [here, generation, sameHandle, issued, lastSet]
      intro other old sameSlot same _ _
      exact slotSound.handle other old sameSlot same kind (Or.inr busy)
    · rw [here]
      exact count
    · rw [here, ← Finset.card_pos, ← count, state, fewer]
      split_ifs with last
      · rw [last]
        exact ⟨fun ⟨_, same⟩ => (nomatch same), fun positive => absurd positive (Nat.lt_irrefl 0)⟩
      · refine ⟨fun _ => Nat.pos_of_ne_zero fun zero => last (BitVec.eq_of_toNat_eq zero), fun _ =>
          ⟨kind, rfl⟩⟩
    · rw [here, generation, sameHandle, issued, holding]
      intro other fd' handle' heldOther sameSlot
      by_cases same : other = caller
      · rw [same, update_self] at heldOther
        cases heldOther
      · rw [update_of_ne same] at heldOther
        exact slotSound.holds other fd' handle' heldOther sameSlot

end Callers

/-! ### What is relied on -/

/-- What the users of the table rely on. -/
structure Safe (use : FdUse Caller) : Prop where
  /-- The busy count is the number of operations begun and not ended. -/
  busyCount : ∀ slot, (use.table slot).busyCount.toNat = (use.holders slot).card
  /-- An open file or directory is only closed when no operation on it is outstanding. -/
  unset : ∀ fd ∈ use.issued, ∀ table, fdUnset use.table fd = some table →
    use.holders (slotOf fd) = ∅
  /-- An operation is begun on the handle that was last set. -/
  begun : ∀ kind, ∀ fd ∈ use.issued, ∀ handle table,
    fdBeginOp kind use.table fd = some (handle, table) → use.lastSet fd = some handle
  /-- It stays the handle of the slot until the operation is ended. -/
  kept : ∀ caller fd handle, use.holding caller = some (fd, handle) →
    (use.table (slotOf fd)).handle = handle
  /-- Ending an operation that was begun breaks no assertion. -/
  ended : ∀ caller fd handle, use.holding caller = some (fd, handle) →
    ∃ table, fdEndOp use.table fd = some table
  /-- No two descriptors that are not freed share a slot. -/
  apart : ∀ fd ∈ use.issued, ∀ other ∈ use.issued, fd ∉ use.freed → other ∉ use.freed →
    slotOf fd = slotOf other → fd = other
  /-- Nothing can be done with a descriptor that was freed. -/
  dead : ∀ fd ∈ use.freed, fdFree use.table fd = none ∧ fdUnset use.table fd = none ∧
    fdEndOp use.table fd = none ∧ (∀ kind, fdBeginOp kind use.table fd = none) ∧
    ∀ handle, fdSetFile use.table fd handle = none ∧ fdSetDir use.table fd handle = none

theorem Sound.safe (sound : use.Sound) : use.Safe where
  busyCount slot := (sound slot).count
  unset fd _ table unset := by
    obtain ⟨_, after, operated, _⟩ := onSlot_eq_some unset
    refine (sound _).nobody fun kind busy => ?_
    rw [ofUnset, busy] at operated
    cases operated
  begun kind fd member handle table begun := by
    obtain ⟨notPassed, after, operated, _⟩ := fdBeginOp_eq_some begun
    obtain ⟨rfl, _, _, _, counted⟩ := ofBeginOp_cases operated
    exact (sound _).handle fd member rfl (sound.generation_eq member notPassed) kind
      (counted.imp And.left And.left)
  kept caller fd handle held := ((sound _).holds caller fd handle held rfl).2.2.symm
  ended caller fd handle held := by
    obtain ⟨_, sameGeneration, _⟩ := (sound _).holds caller fd handle held rfl
    obtain ⟨kind, busy⟩ :=
      (sound (slotOf fd)).busy.mpr ⟨caller, mem_holders.mpr ⟨fd, handle, held, rfl⟩⟩
    have notPassed : ¬ fdGeneration fd < (use.table (slotOf fd)).generation := by
      rw [sameGeneration]
      exact BitVec.lt_irrefl _
    rw [fdEndOp, onSlot, fdToOf_eq, if_neg notPassed, Option.bind_some, ofEndOp, busy]
    exact ⟨_, rfl⟩
  apart fd member other member' alive alive' same := by
    have generation := (sound (slotOf fd)).live fd member rfl alive
    have generation' := (sound (slotOf fd)).live other member' same.symm alive'
    exact fd_eq same (generation.trans generation'.symm)
  dead fd freed := by
    have passed := (sound (slotOf fd)).passed fd freed rfl
    exact ⟨onSlot_of_passed passed, onSlot_of_passed passed, onSlot_of_passed passed,
      fun _ => fdBeginOp_of_passed passed,
      fun _ => ⟨onSlot_of_passed passed, onSlot_of_passed passed⟩⟩

end FdUse

/-! ### Runs -/

variable [DecidableEq Caller]

def FdStep (use : FdUse Caller) (event : FdEvent Caller) (next : FdUse Caller) : Prop :=
  use.perform event = some next

namespace FdUse

variable {use next : FdUse Caller} {event : FdEvent Caller}

/-- What a call can do: nothing, or what its operation does when it succeeds. -/
inductive Changes (use : FdUse Caller) : FdUse Caller → Prop
  | nothing : Changes use use
  | alloc {fd : UInt64T} {table : OfTable} (allocated : fdAlloc use.table = some (fd, table)) :
    Changes use { use with table, issued := fd :: use.issued }
  | set {kind : OfKind} {fd handle : UInt64T} (member : fd ∈ use.issued) :
    Changes use (use.set fd handle (onSlot (ofSet kind handle) use.table fd))
  | unset {fd : UInt64T} {table : OfTable} (unset : fdUnset use.table fd = some table) :
    Changes use { use with table }
  | free {fd : UInt64T} {table : OfTable} (member : fd ∈ use.issued)
    (freed : fdFree use.table fd = some table) :
    Changes use { use with table, freed := fd :: use.freed }
  | beginOp {caller : Caller} {kind : OfKind} {fd handle : UInt64T} {table : OfTable}
    (member : fd ∈ use.issued) (outside : use.holding caller = none)
    (begun : fdBeginOp kind use.table fd = some (handle, table)) :
    Changes use { use with
      table, holding := update use.holding caller (some (fd, handle)) }
  | endOp {caller : Caller} {fd handle : UInt64T} {table : OfTable}
    (held : use.holding caller = some (fd, handle)) (ended : fdEndOp use.table fd = some table) :
    Changes use { use with table, holding := update use.holding caller none }

theorem step_changes (step : FdStep use event next) : Changes use next := by
  unfold FdStep at step
  cases event with
  | alloc =>
    simp only [perform] at step
    split at step
    · cases step
      exact .nothing
    · rename_i fd table allocated
      cases step
      exact .alloc allocated
  | setFile fd file | setDir fd dir =>
    simp only [perform] at step
    split_ifs at step with member
    cases step
    exact .set member
  | unset fd =>
    simp only [perform] at step
    split_ifs at step with member
    split at step
    · cases step
      exact .nothing
    · rename_i table unset
      cases step
      exact .unset unset
  | free fd =>
    simp only [perform] at step
    split_ifs at step with member
    split at step
    · cases step
      exact .nothing
    · rename_i table freed
      cases step
      exact .free member freed
  | beginOp caller kind fd =>
    simp only [perform] at step
    split_ifs at step with may
    split at step
    · cases step
      exact .nothing
    · rename_i handle table begun
      cases step
      exact .beginOp may.1 (Option.isNone_iff_eq_none.mp may.2) begun
  | endOp caller =>
    obtain ⟨⟨fd, handle⟩, held, ends⟩ := Option.bind_eq_some_iff.mp step
    obtain ⟨table, ended, rfl⟩ := Option.map_eq_some_iff.mp ends
    exact .endOp held ended

theorem freed_le (step : FdStep use event next) : use.freed.length ≤ next.freed.length := by
  cases step_changes step with
  | free => exact Nat.le_succ _
  | @set kind fd handle member =>
    cases onSlot (ofSet kind handle) use.table fd with
    | none | some table => exact le_rfl
  | _ => exact le_rfl

variable [Fintype Caller]

theorem step_sound (few : Fintype.card Caller < 2 ^ 64)
    (notRound : use.freed.length < 2 ^ 64 / maxOpenFiles) (sound : use.Sound)
    (step : FdStep use event next) : next.Sound := by
  cases step_changes step with
  | nothing => exact sound
  | alloc allocated => exact sound.alloc notRound allocated
  | set member => exact sound.set member
  | unset unset => exact sound.unset unset
  | free member freed => exact sound.free notRound member freed
  | beginOp member outside begun => exact sound.beginOp few member outside begun
  | endOp held ended => exact sound.endOp held ended

end FdUse

/-- However workers and callbacks use the table, as long as fewer descriptors were freed than a slot
has generations. -/
theorem fd_table_safe [Fintype Caller] (few : Fintype.card Caller < 2 ^ 64)
    {start use : FdUse Caller} {events : List (FdEvent Caller)} (initial : start.Initial)
    (run : Run FdStep start events use) (notRound : use.freed.length < 2 ^ 64 / maxOpenFiles) :
    use.Safe := by
  have sound : use.freed.length < 2 ^ 64 / maxOpenFiles → use.Sound := by
    refine run.invariant (fun use => use.freed.length < 2 ^ 64 / maxOpenFiles → use.Sound)
      (fun _ => initial.sound) fun _ _ _ soundBefore step notRoundAfter => ?_
    have notRoundBefore := Nat.lt_of_le_of_lt (FdUse.freed_le step) notRoundAfter
    exact FdUse.step_sound few notRoundBefore (soundBefore notRoundBefore) step
  exact (sound notRound).safe

/-- The table as two workers find it at first. -/
def FdUse.unused : FdUse (Fin 2) where
  table _ := { state := .free, handle := 0, busyCount := 0, generation := 0 }
  issued := []
  freed := []
  lastSet _ := none
  holding _ := none

/-- A file that is opened, used by two workers at once and closed. -/
theorem fd_table_safe_of_one_file : ∃ use : FdUse (Fin 2), Run FdStep FdUse.unused
      [.alloc, .setFile 0 77, .beginOp 0 .file 0, .unset 0, .beginOp 1 .file 0, .endOp 0, .endOp 1,
        .unset 0, .free 0, .alloc] use ∧
      use.issued = [256, 0] ∧ use.freed = [0] ∧ use.Safe := by
  obtain ⟨use, run, issued, freed⟩ : ∃ use : FdUse (Fin 2), Run FdStep FdUse.unused
      [.alloc, .setFile 0 77, .beginOp 0 .file 0, .unset 0, .beginOp 1 .file 0, .endOp 0, .endOp 1,
        .unset 0, .free 0, .alloc] use ∧ use.issued = [256, 0] ∧ use.freed = [0] :=
    ⟨_, Run.of_foldlM (fun _ _ _ performed => performed) rfl, rfl, rfl⟩
  refine ⟨use, run, issued, freed, fd_table_safe (by decide) ⟨rfl, rfl, rfl, fun _ => rfl⟩ run ?_⟩
  rw [freed]
  decide

end LionsOS.Fs

/-
This file is about what the workers and the slots of the table hold between them.
The operations that workers have begun are what the busy counts count, and each
object of the pools is held at most once, by the slot that refers to it or by the
worker that opens or closes it. A worker that closes something finds its slot and
its object as it left them, whatever the other workers do meanwhile.
-/

import LionsOS.Fat.OpenObjects
import LionsOS.Fat.TableEffects
import LionsOS.Lib.Owners

open Function

namespace LionsOS.Fat

open LionsOS.Fs StepRun Counting Owners OftableSlot

variable {fatfs : FatFs} {Worker : Type} {after : OftableSlot}

variable {slot : Fin maxOpenFiles}

/-! ### Who holds what -/

/-- The object that a slot refers to. -/
def slotObject (slot : OftableSlot) : Option (OfKind × Fin maxOpenFiles) :=
  match slot.state with
  | .opened kind | .busy kind => some (kind, objectOf slot.handle)
  | _ => none

/-- The descriptor of the operation that a worker has begun. -/
def operatesOn (operation : Option Operation) : Option UInt64T :=
  operation.bind fun operation => operation.stage.operates

/-- The object that a worker opens or closes. -/
def worksOn (operation : Option Operation) : Option (OfKind × Fin maxOpenFiles) :=
  operation.bind fun operation => operation.stage.object

/-! ### The objects of slots -/

section Slots

variable {table next : OfTable} {fd handle : UInt64T} {kind : OfKind}

/-- All slots refer to what they referred to, by the same handles. -/
def SameObjects (table next : OfTable) : Prop :=
  ∀ slot, slotObject (next slot) = slotObject (table slot) ∧
    (next slot).handle = (table slot).handle

theorem SameObjects.of_eq (same : next = table) : SameObjects table next := by
  rw [same]
  exact fun _ => ⟨rfl, rfl⟩

theorem SameObjects.update (object : slotObject after = slotObject (table slot))
    (handle : after.handle = (table slot).handle) :
    SameObjects table (update table slot after) := by
  intro other
  rcases eq_or_ne other slot with rfl | different
  · rw [update_self]
    exact ⟨object, handle⟩
  · rw [update_of_ne different]
    exact ⟨rfl, rfl⟩

theorem sameObjects_beginOp (begun : fdBeginOp kind table fd = some (handle, next)) :
    SameObjects table next := by
  obtain ⟨_, after, begins, rfl⟩ := fdBeginOp_eq_some begun
  obtain ⟨_, sameHandle, _, busy, ⟨opened, _⟩ | ⟨before, _⟩⟩ := FdUse.ofBeginOp_cases begins
  · refine SameObjects.update ?_ sameHandle
    simp only [slotObject, busy, opened, sameHandle]
  · refine SameObjects.update ?_ sameHandle
    simp only [slotObject, busy, before, sameHandle]

theorem sameObjects_endOp (ended : fdEndOp table fd = some next) : SameObjects table next := by
  obtain ⟨_, after, ends, rfl⟩ := onSlot_eq_some ended
  obtain ⟨kind, busy, sameHandle, _, _, state⟩ := FdUse.ofEndOp_cases ends
  refine SameObjects.update ?_ sameHandle
  by_cases last : (table (slotOf fd)).busyCount - 1 = 0
  · rw [if_pos last] at state
    simp only [slotObject, busy, state, sameHandle]
  · rw [if_neg last] at state
    simp only [slotObject, busy, state, sameHandle]

theorem sameObjects_alloc (allocated : fdAlloc table = some (fd, next)) :
    SameObjects table next := by
  obtain ⟨slot, free, rfl, _⟩ := fdAlloc_eq_some allocated
  refine SameObjects.update ?_ rfl
  simp only [slotObject, free]

theorem sameObjects_free (freed : fdFree table fd = some next) : SameObjects table next := by
  obtain ⟨_, after, frees, rfl⟩ := onSlot_eq_some freed
  unfold ofFree at frees
  split at frees
  · rename_i allocated
    cases frees
    refine SameObjects.update ?_ rfl
    simp only [slotObject, allocated]
  · cases frees

theorem slotObject_of_set (set : onSlot (ofSet kind handle) table fd = some next) :
    slotObject (table (slotOf fd)) = none ∧
      next = update table (slotOf fd) { table (slotOf fd) with state := .opened kind, handle } := by
  obtain ⟨_, after, sets, rfl⟩ := onSlot_eq_some set
  unfold ofSet at sets
  split at sets
  · rename_i allocated
    cases sets
    simp only [slotObject, allocated, and_self]
  · cases sets

/-- All handles are those of objects. -/
def SmallHandles (table : OfTable) : Prop :=
  ∀ slot, (table slot).handle.toNat < maxOpenFiles

theorem SmallHandles.congr (small : SmallHandles table) (same : SameObjects table next) :
    SmallHandles next := by
  intro slot
  rw [(same slot).2]
  exact small slot

theorem SmallHandles.update (small : SmallHandles table) (here : after.handle.toNat < maxOpenFiles) :
    SmallHandles (update table slot after) := by
  intro other
  rcases eq_or_ne other slot with rfl | different
  · rw [update_self]
    exact here
  · rw [update_of_ne different]
    exact small other

theorem sameObjects_getD {done : Option OfTable}
    (kept : ∀ next, done = some next → SameObjects table next) :
    SameObjects table (done.getD table) := by
  cases done with
  | none => exact .of_eq rfl
  | some next => exact kept next rfl

theorem toNat_handleOf (object : Fin maxOpenFiles) : (handleOf object).toNat = object.val := by
  have small : object.val < 2 ^ 64 := object.isLt.trans (by decide)
  rw [handleOf, BitVec.toNat_ofNat, Nat.mod_eq_of_lt small]

theorem SmallHandles.set (small : SmallHandles table) {object : Fin maxOpenFiles} :
    SmallHandles ((onSlot (ofSet kind (handleOf object)) table fd).getD table) := by
  cases sets : onSlot (ofSet kind (handleOf object)) table fd with
  | none => exact small
  | some next =>
    obtain ⟨_, rfl⟩ := slotObject_of_set sets
    refine small.update ?_
    rw [toNat_handleOf]
    exact object.isLt

theorem handleOf_objectOf (small : handle.toNat < maxOpenFiles) :
    handleOf (objectOf handle) = handle :=
  BitVec.eq_of_toNat_eq ((toNat_handleOf _).trans (Nat.mod_eq_of_lt small))

end Slots

/-! ### The table after a segment -/

section Segments

variable {before after : FatFiles fatfs} {reply : FatFsReply} {stage : HandlerStage}
  {progress : Progress} {operations : Fin maxOpenFiles → Nat}

theorem FirstTableEffect.counted (effect : FirstTableEffect before after progress)
    (counted : before.table.Counted operations) (room : ∀ slot, operations slot + 1 < 2 ^ 64) :
    after.table.Counted (withOperation operations progress.operates) := by
  cases effect with
  | nothing table _ operates =>
    rw [operates, table]
    exact counted
  | begins begun _ operates =>
    rw [operates]
    exact counted.beginOp room begun
  | takes table _ _ operates =>
    rw [Progress.operates, operates, table]
    exact counted
  | unsets _ opened table _ operates =>
    rw [Progress.operates, operates, table]
    refine counted.update ((counted _).of_idle (fun kind busy => ?_) (fun kind busy => ?_) rfl)
    · rw [opened] at busy
      cases busy
    · cases busy

theorem FirstTableEffect.smallHandles (effect : FirstTableEffect before after progress)
    (small : SmallHandles before.table) : SmallHandles after.table := by
  cases effect with
  | nothing table | takes table =>
    rw [table]
    exact small
  | begins begun => exact small.congr (sameObjects_beginOp begun)
  | unsets _ _ table =>
    rw [table]
    exact small.update (Nat.zero_lt_succ _)

section

variable (effect : ResumeTableEffect before after reply stage progress)
  (survives : progress ≠ .failedAssertion)
include effect survives

theorem ResumeTableEffect.counted
    (counted : before.table.Counted (withOperation operations stage.operates)) :
    after.table.Counted (withOperation operations progress.operates) := by
  cases effect with
  | nothing table _ operates =>
    rw [operates, table]
    exact counted
  | ends operates ended =>
    rw [operates] at counted
    exact counted.endOp ended
  | opened operates _ _ allocated set =>
    rw [operates] at counted
    rw [set]
    have allocatedCounted := counted.alloc allocated
    exact allocatedCounted.getD fun next set => allocatedCounted.set set
  | refused operates _ _ table =>
    rw [operates] at counted
    rw [table]
    exact counted
  | closed operates _ _ _ table =>
    rw [operates] at counted
    rw [table]
    exact counted.getD fun next freed => counted.free freed
  | restored closes _ table =>
    rw [closes] at counted
    rw [table]
    exact counted.getD fun next set => counted.set set
  | kept closes _ table =>
    rw [closes] at counted
    rw [table]
    exact counted
  | failed => exact absurd rfl survives

theorem ResumeTableEffect.smallHandles (small : SmallHandles before.table) :
    SmallHandles after.table := by
  cases effect with
  | nothing table | kept _ _ table | refused _ _ _ table =>
    rw [table]
    exact small
  | ends _ ended => exact small.congr (sameObjects_endOp ended)
  | opened _ _ _ allocated set =>
    rw [set]
    exact (small.congr (sameObjects_alloc allocated)).set
  | closed _ _ _ _ table =>
    rw [table]
    exact small.congr (sameObjects_getD fun next freed => sameObjects_free freed)
  | restored _ _ table =>
    rw [table]
    exact small.set
  | failed => exact absurd rfl survives

end

end Segments

/-! ### The pools -/

section Pools

variable {used : OfKind → Fin maxOpenFiles → Bool} {kind : OfKind} {object : Fin maxOpenFiles}
  {value : Bool}

theorem setUsed_self : setUsed used kind object value kind object = value := by
  rw [setUsed, update_self, update_self]

theorem setUsed_of_ne {other : OfKind × Fin maxOpenFiles} (different : other ≠ (kind, object)) :
    setUsed used kind object value other.1 other.2 = used other.1 other.2 := by
  obtain ⟨otherKind, other⟩ := other
  rw [setUsed]
  by_cases sameKind : otherKind = kind
  · subst sameKind
    rw [update_self, update_of_ne]
    rintro rfl
    exact different rfl
  · rw [update_of_ne sameKind]

end Pools

namespace FatWorkers

/-- What the slots and the workers hold. -/
def holds (workers : FatWorkers fatfs Worker) :
    Fin maxOpenFiles ⊕ Worker → Option (OfKind × Fin maxOpenFiles)
  | .inl slot => slotObject (workers.files.table slot)
  | .inr worker => worksOn (workers.working worker)

/-- An object of the pools is in use. -/
def InUse (workers : FatWorkers fatfs Worker) (object : OfKind × Fin maxOpenFiles) : Prop :=
  workers.files.used object.1 object.2 = true

variable [Fintype Worker]

/-- How many workers have begun an operation on each slot. -/
def operations (working : Worker → Option Operation) (slot : Fin maxOpenFiles) : Nat :=
  count (fun operation => (operatesOn operation).map slotOf = some slot) working

variable [DecidableEq Worker]

theorem operations_update (working : Worker → Option Operation) (worker : Worker)
    (operation : Option Operation) :
    operations (update working worker operation) =
      withOperation (operations (update working worker none)) (operatesOn operation) := by
  have idem : update working worker operation =
      update (update working worker none) worker operation :=
    (update_idem _ _ _).symm
  rw [idem]
  funext slot
  cases begun : operatesOn operation with
  | none =>
    refine count_update_of_same ?_
    rw [begun, update_self]
    rfl
  | some fd =>
    rw [withOperation, oneMore]
    rcases eq_or_ne slot (slotOf fd) with rfl | different
    · rw [update_self]
      refine count_update_of_comes ?_ ?_
      · rw [update_self]
        rintro ⟨⟩
      · rw [begun]
        rfl
    · rw [update_of_ne different]
      refine count_update_of_same (iff_of_false ?_ ?_)
      · rw [begun]
        exact fun same => different (Option.some.inj same).symm
      · rw [update_self]
        rintro ⟨⟩

omit [DecidableEq Worker] in
theorem operations_lt (few : Fintype.card Worker < 2 ^ 64) {working : Worker → Option Operation}
    {worker : Worker} (idle : operatesOn (working worker) = none) (slot : Fin maxOpenFiles) :
    operations working slot + 1 < 2 ^ 64 := by
  refine Nat.lt_of_le_of_lt ?_ few
  refine count_lt_card_iff.mpr ⟨worker, ?_⟩
  rw [idle]
  rintro ⟨⟩

/-- The busy counts are right, every object is held once, and every worker that closes something
has its slot to itself. -/
structure Sound (workers : FatWorkers fatfs Worker) : Prop where
  counted : workers.files.table.Counted (operations workers.working)
  owned : Exclusive workers.InUse workers.holds
  handles : SmallHandles workers.files.table
  accounted : workers.Accounted

variable {workers next : FatWorkers fatfs Worker}

omit [DecidableEq Worker] in
theorem sound_of_initial (initial : workers.Initial) : workers.Sound where
  counted := by
    have none : operations workers.working = fun _ => 0 := by
      funext slot
      refine count_eq_zero fun worker => ?_
      rw [initial.working]
      rintro ⟨⟩
    rw [none]
    exact OfTable.counted_of_free initial.table
  owned := by
    have nothing : ∀ owner object, workers.holds owner ≠ some object := by
      rintro (slot | worker) object
      · unfold holds
        rw [initial.table]
        rintro ⟨⟩
      · unfold holds
        rw [initial.working]
        rintro ⟨⟩
    exact ⟨fun owner object held => absurd held (nothing owner object),
      fun owner other object held => absurd held (nothing owner object)⟩
  handles := by
    intro slot
    rw [initial.table]
    exact Nat.zero_lt_succ _
  accounted := accounted_of_initial initial

/-! ### Steps -/

section Advance

variable {worker : Worker} {type : CmdType} {params : CmdParams} {segment : Segment fatfs}

variable {kind : OfKind} {object : Fin maxOpenFiles}

/-- What everybody but one worker has begun. -/
def operationsBut (workers : FatWorkers fatfs Worker) (worker : Worker) : Fin maxOpenFiles → Nat :=
  operations (update workers.working worker none)

theorem operations_eq (workers : FatWorkers fatfs Worker) (worker : Worker) :
    operations workers.working =
      withOperation (workers.operationsBut worker) (operatesOn (workers.working worker)) := by
  have changed := operations_update workers.working worker (workers.working worker)
  rwa [update_eq_self] at changed

theorem operatesOn_afterSegment (type : CmdType) (params : CmdParams) (progress : Progress) :
    operatesOn (afterSegment type params progress) = progress.operates := by
  cases progress <;> rfl

theorem operations_advance :
    operations (workers.advance worker type params segment).working =
      withOperation (workers.operationsBut worker) segment.progress.operates := by
  rw [← operatesOn_afterSegment type params]
  exact operations_update _ _ _

theorem worksOn_afterSegment (type : CmdType) (params : CmdParams) (progress : Progress) :
    worksOn (afterSegment type params progress) = progress.object := by
  cases progress <;> rfl

omit [Fintype Worker] in
theorem holds_advance_self :
    (workers.advance worker type params segment).holds (.inr worker) = segment.progress.object := by
  rw [← worksOn_afterSegment type params]
  exact congrArg worksOn working_advance_self

omit [Fintype Worker] in
theorem holds_advance_of_ne {other : Worker} (different : other ≠ worker) :
    (workers.advance worker type params segment).holds (.inr other) = workers.holds (.inr other) :=
  congrArg worksOn (working_advance_of_ne different)

omit [Fintype Worker] in
theorem inUse_advance (used : segment.files.used = workers.files.used) :
    (workers.advance worker type params segment).InUse = workers.InUse := by
  funext object
  exact congrArg (fun used => used object.1 object.2 = true) used

omit [Fintype Worker] in
/-- What anybody but the worker and some slots holds is what he held. -/
theorem holds_advance {owner : Fin maxOpenFiles ⊕ Worker} (notWorker : owner ≠ .inr worker)
    (slots : ∀ slot, owner = .inl slot →
      slotObject (segment.files.table slot) = slotObject (workers.files.table slot)) :
    (workers.advance worker type params segment).holds owner = workers.holds owner := by
  rcases owner with slot | other
  · exact slots slot rfl
  · exact holds_advance_of_ne fun same => notWorker (congrArg Sum.inr same)

variable (owned : Exclusive workers.InUse workers.holds)
include owned

omit [Fintype Worker] in
/-- The worker forgets what it holds, or holds nothing. -/
theorem owned_of_forget (used : segment.files.used = workers.files.used)
    (slots : SameObjects workers.files.table segment.files.table)
    (object : segment.progress.object = none) :
    Exclusive (workers.advance worker type params segment).InUse
      (workers.advance worker type params segment).holds := by
  rw [inUse_advance used]
  refine owned.forget fun owner item held => ?_
  by_cases own : owner = .inr worker
  · rw [own, holds_advance_self, object] at held
    cases held
  · rwa [holds_advance own fun slot _ => (slots slot).1] at held

omit [Fintype Worker] in
/-- The worker takes an object that nobody has. -/
theorem owned_of_take (unused : workers.files.used kind object = false)
    (used : segment.files.used = setUsed workers.files.used kind object true)
    (slots : segment.files.table = workers.files.table)
    (takes : segment.progress.object = some (kind, object)) :
    Exclusive (workers.advance worker type params segment).InUse
      (workers.advance worker type params segment).holds := by
  have notInUse : ¬ workers.InUse (kind, object) := by
    unfold InUse
    rw [unused]
    exact Bool.false_ne_true
  refine owned.take notInUse (fun other inUse => ?_) (holds_advance_self.trans takes)
    fun owner notWorker => holds_advance notWorker fun slot _ => ?_
  · show segment.files.used other.1 other.2 = true
    rw [used]
    by_cases same : other = (kind, object)
    · rw [same]
      exact setUsed_self
    · rw [setUsed_of_ne same]
      exact inUse.resolve_right same
  · rw [slots]

omit [Fintype Worker] in
/-- The worker gives back what it holds. -/
theorem owned_of_giveBack (held : workers.holds (.inr worker) = some (kind, object))
    (used : segment.files.used = setUsed workers.files.used kind object false)
    (slots : SameObjects workers.files.table segment.files.table)
    (gone : segment.progress.object = none) :
    Exclusive (workers.advance worker type params segment).InUse
      (workers.advance worker type params segment).holds := by
  refine owned.giveBack held (holds_advance_self.trans gone)
    (fun owner notWorker => holds_advance notWorker fun slot _ => (slots slot).1)
    fun other different inUse => ?_
  show segment.files.used other.1 other.2 = true
  rw [used, setUsed_of_ne different]
  exact inUse

omit [Fintype Worker] in
/-- The worker takes over what a slot refers to. -/
theorem owned_of_unset {object : OfKind × Fin maxOpenFiles}
    (held : slotObject (workers.files.table slot) = some object) (gone : slotObject after = none)
    (table : segment.files.table = update workers.files.table slot after)
    (used : segment.files.used = workers.files.used) (takes : segment.progress.object = some object) :
    Exclusive (workers.advance worker type params segment).InUse
      (workers.advance worker type params segment).holds := by
  rw [inUse_advance used]
  have held : workers.holds (.inl slot) = some object := held
  have goneNow : (workers.advance worker type params segment).holds (.inl slot) = none := by
    show slotObject (segment.files.table slot) = none
    rw [table, update_self, gone]
  refine owned.pass held goneNow (holds_advance_self.trans takes) fun owner notSlot notWorker => ?_
  refine holds_advance notWorker fun other same => ?_
  rw [table, update_of_ne]
  rintro rfl
  exact notSlot same

omit [Fintype Worker] in
/-- A slot comes to refer to what the worker holds, or the worker forgets it. -/
theorem owned_of_set {fd : UInt64T} {table : OfTable}
    (held : workers.holds (.inr worker) = some (kind, object))
    (slots : SameObjects workers.files.table table)
    (set : segment.files.table = (onSlot (ofSet kind (handleOf object)) table fd).getD table)
    (used : segment.files.used = workers.files.used) (gone : segment.progress.object = none) :
    Exclusive (workers.advance worker type params segment).InUse
      (workers.advance worker type params segment).holds := by
  cases sets : onSlot (ofSet kind (handleOf object)) table fd with
  | none =>
    rw [sets] at set
    exact owned_of_forget owned used (by rw [set]; exact slots) gone
  | some next =>
    obtain ⟨noObject, same⟩ := slotObject_of_set sets
    rw [sets, Option.getD_some, same] at set
    rw [inUse_advance used]
    have takes : (workers.advance worker type params segment).holds (.inl (slotOf fd)) =
        some (kind, object) := by
      show slotObject (segment.files.table (slotOf fd)) = _
      rw [set, update_self]
      exact congrArg (fun object => some (kind, object)) (objectOf_handleOf object)
    refine owned.pass held (holds_advance_self.trans gone) takes
      fun owner notWorker notSlot => holds_advance notWorker fun other same => ?_
    rw [set, update_of_ne]
    · exact (slots other).1
    · rintro rfl
      exact notSlot same

end Advance

section Steps

variable {worker : Worker} {type : CmdType} {params : CmdParams} {segment : Segment fatfs}

omit [DecidableEq Worker] in
/-- What the first segment of a handler does to a server that is sound. -/
theorem Sound.firstEffect (sound : workers.Sound) (few : Fintype.card Worker < 2 ^ 64)
    (idle : workers.working worker = none) (type : CmdType) (params : CmdParams) :
    HasFirstTableEffect workers.files (operationFunctions type params workers.files) := by
  have begunNone : operatesOn (workers.working worker) = none := by
    rw [idle]
    rfl
  exact hasFirstTableEffect_operationFunctions sound.counted (operations_lt few begunNone) type
    params

theorem Sound.spawn (sound : workers.Sound) (few : Fintype.card Worker < 2 ^ 64)
    (idle : workers.working worker = none)
    (effect : HasFirstTableEffect workers.files segment)
    (accounted : (workers.advance worker type params segment).Accounted) :
    (workers.advance worker type params segment).Sound := by
  have begunNone : operatesOn (workers.working worker) = none := by
    rw [idle]
    rfl
  have counted := sound.counted
  have room := operations_lt few begunNone
  rw [operations_eq workers worker, begunNone] at counted room
  refine ⟨?_, ?_, effect.smallHandles sound.handles, accounted⟩
  · rw [operations_advance]
    exact effect.counted counted room
  · obtain ⟨accesses, pathWrites, files, progress⟩ := segment
    cases effect with
    | nothing table used _ object => exact owned_of_forget sound.owned used (.of_eq table) object
    | begins begun used _ object =>
      exact owned_of_forget sound.owned used (sameObjects_beginOp begun) object
    | takes table unused used _ _ takes => exact owned_of_take sound.owned unused used table takes
    | unsets _ opened table used _ _ object =>
      refine owned_of_unset sound.owned ?_ ?_ table used object
      · rw [slotObject, opened]
      · rfl

theorem Sound.resume (sound : workers.Sound) {operation : Operation} {reply : FatFsReply}
    (working : workers.working worker = some operation)
    (effect : HasResumeTableEffect workers.files reply operation.stage segment)
    (survives : segment.progress ≠ .failedAssertion)
    (accounted : (workers.advance worker type params segment).Accounted) :
    (workers.advance worker type params segment).Sound := by
  have begun : operatesOn (workers.working worker) = operation.stage.operates := by
    rw [working]
    rfl
  have held : workers.holds (.inr worker) = operation.stage.object := by
    show worksOn (workers.working worker) = _
    rw [working]
    rfl
  have counted := sound.counted
  rw [operations_eq workers worker, begun] at counted
  refine ⟨?_, ?_, effect.smallHandles survives sound.handles, accounted⟩
  · rw [operations_advance]
    exact effect.counted survives counted
  · obtain ⟨accesses, pathWrites, files, progress⟩ := segment
    cases effect with
    | nothing table used _ _ object => exact owned_of_forget sound.owned used (.of_eq table) object
    | ends _ ended used => exact owned_of_forget sound.owned used (sameObjects_endOp ended) rfl
    | opened _ _ opens allocated set used =>
      exact owned_of_set sound.owned (held.trans opens) (sameObjects_alloc allocated) set used rfl
    | refused _ _ opens table used =>
      exact owned_of_giveBack sound.owned (held.trans opens) used (.of_eq table) rfl
    | closed _ _ holds _ table used =>
      refine owned_of_giveBack sound.owned (held.trans holds) used ?_ rfl
      rw [table]
      exact sameObjects_getD fun next freed => sameObjects_free freed
    | restored closes _ table used =>
      rw [closes] at held
      exact owned_of_set sound.owned held (.of_eq rfl) table used rfl
    | kept _ _ table used => exact owned_of_forget sound.owned used (.of_eq table) rfl
    | failed => exact absurd rfl survives

theorem Sound.step {event : WorkerEvent fatfs Worker} (sound : workers.Sound)
    (few : Fintype.card Worker < 2 ^ 64) (step : Step workers event next)
    (alive : next.assertionFailed = false) : next.Sound := by
  have accounted := sound.accounted.step step alive
  cases step with
  | spawn _ idle => exact sound.spawn few idle (sound.firstEffect few idle _ _) accounted
  | resume _ working =>
    exact sound.resume working (hasResumeTableEffect_resume _ _ _) (survives_of_advance alive)
      accounted
  | act live working waiting acts =>
    rename_i worker operation reply volume share
    refine ⟨?_, ?_, sound.handles, accounted⟩
    · have counted := sound.counted
      rw [operations_eq workers worker, working] at counted
      rw [operations_update]
      exact counted
    · refine sound.owned.forget fun owner object held => ?_
      rcases owner with slot | other
      · exact held
      · show worksOn (workers.working other) = some object
        rcases eq_or_ne other worker with rfl | different
        · rw [working]
          have held : worksOn (update workers.working other _ other) = some object := held
          rwa [update_self] at held
        · have held : worksOn (update workers.working worker _ other) = some object := held
          rwa [update_of_ne different] at held
  | writeShare => exact ⟨sound.counted, sound.owned, sound.handles, accounted⟩

theorem sound_of_run {start : FatWorkers fatfs Worker} {events : List (WorkerEvent fatfs Worker)}
    (few : Fintype.card Worker < 2 ^ 64) (initial : start.Initial)
    (run : Run Step start events workers) : workers.assertionFailed = false → workers.Sound := by
  refine run.invariant (fun workers => workers.assertionFailed = false → workers.Sound)
    (fun _ => sound_of_initial initial) fun _ _ _ sound taken alive => ?_
  exact (sound (alive_of_step taken)).step few taken alive

end Steps

end FatWorkers

end LionsOS.Fat

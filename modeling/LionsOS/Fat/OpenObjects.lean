/-
This file is about the three places that an open file or directory takes: an
object of its pool, a slot of the table, and, while it is being opened, a worker.
The pools are of the size of the table each, so the table can be full when a pool
is not, and FatFs does not know of the objects that were open before the last
mount. So a descriptor can be had for an accepted open exactly when the files and
directories in use are few enough.
-/

import LionsOS.Fat.Effects
import LionsOS.Fat.FatFsModel
import LionsOS.Fs.SlotCounts
import LionsOS.Lib.Counting
import Mathlib.Data.Fintype.Prod

open Function

namespace LionsOS.Fat

open LionsOS.Fs StepRun Counting PlainVolume

variable {fatfs : FatFs} {Worker : Type} {params : CmdParams} {type : CmdType}
  {operation : Operation} {volume : PlainVolume} {worker : Worker} {next : OfTable} {fd : UInt64T}

variable {table : OfTable} {after files : FatFiles fatfs} {kind : OfKind}
  {object : Fin maxOpenFiles} {stage : HandlerStage} {call : FatFsCall} {reply : FatFsReply}
  {share : Nat → UInt8T} {event : WorkerEvent fatfs Worker}

/-! ### What is in use -/

/-- The files and directories of the pools that are in use. -/
def FatFiles.objectsInUse (files : FatFiles fatfs) : Nat :=
  count (fun used => used = true) fun object : OfKind × Fin maxOpenFiles =>
    files.used object.1 object.2

/-- The slots of the table that are not free. -/
def slotsTaken (table : OfTable) : Nat :=
  count (fun slot : OftableSlot => slot.state ≠ .free) table

/-- Whether a worker is opening an object. -/
def Opens (operation : Option Operation) : Bool :=
  operation.any fun operation => operation.stage.opens

theorem fdAlloc_isSome_iff : fdAlloc table ≠ none ↔ slotsTaken table < maxOpenFiles := by
  have fewer : slotsTaken table < Fintype.card (Fin maxOpenFiles) ↔
      ∃ slot, ¬ (table slot).state ≠ .free := count_lt_card_iff
  rw [Fintype.card_fin] at fewer
  rw [Ne, fdAlloc_eq_none_iff, not_forall, fewer]

theorem slotsTaken_congr (same : ∀ slot, (next slot).state = .free ↔ (table slot).state = .free) :
    slotsTaken next = slotsTaken table :=
  count_congr fun slot => not_congr (same slot)

theorem slotsTaken_of_opened {slot : Fin maxOpenFiles} (free : (table slot).state = .free)
    (taken : (next slot).state ≠ .free)
    (others : ∀ other, other ≠ slot → SameUse (table other) (next other)) :
    slotsTaken next = slotsTaken table + 1 := by
  have changed : slotsTaken next = slotsTaken (update table slot (next slot)) := by
    refine slotsTaken_congr fun other => ?_
    rcases eq_or_ne other slot with rfl | different
    · rw [update_self]
    · rw [update_of_ne different]
      exact (others other different).free
  rw [changed]
  exact count_update_of_comes (not_not_intro free) taken

/-- The pools, as one family. -/
theorem objectsInUse_eq {value : Bool} (used : after.used = setUsed files.used kind object value) :
    after.objectsInUse = count (fun used => used = true)
      (update (fun object : OfKind × Fin maxOpenFiles => files.used object.1 object.2)
        (kind, object) value) := by
  unfold FatFiles.objectsInUse
  congr 1
  funext ⟨otherKind, other⟩
  rw [used, setUsed]
  by_cases sameKind : otherKind = kind
  · subst sameKind
    rw [update_self]
    by_cases same : other = object
    · rw [same, update_self, update_self]
    · rw [update_of_ne same, update_of_ne fun equal => same (Prod.ext_iff.mp equal).2]
  · rw [update_of_ne sameKind, update_of_ne fun equal => sameKind (Prod.ext_iff.mp equal).1]

theorem objectsInUse_of_takes (unused : files.used kind object = false)
    (used : after.used = setUsed files.used kind object true) :
    after.objectsInUse = files.objectsInUse + 1 := by
  rw [objectsInUse_eq used]
  exact count_update_of_comes (by rw [unused]; exact Bool.false_ne_true) rfl

theorem objectsInUse_of_frees (inUse : files.used kind object = true)
    (used : after.used = setUsed files.used kind object false) :
    after.objectsInUse + 1 = files.objectsInUse := by
  rw [objectsInUse_eq used]
  exact count_update_of_goes inUse Bool.false_ne_true

theorem objectsInUse_congr (same : after.used = files.used) :
    after.objectsInUse = files.objectsInUse := by
  unfold FatFiles.objectsInUse
  rw [same]

theorem opens_of_closes (closes : stage.closes = some fd) : stage.opens = false := by
  cases stage with
  | closing | closingDir => rfl
  | _ => cases closes

theorem opens_afterSegment_of_plain {progress : Progress} (plain : progress.Plain) :
    Opens (FatWorkers.afterSegment type params progress) = false := by
  cases progress with
  | inCall call stage => exact plain.1
  | finished | failedAssertion => rfl

namespace FatWorkers

/-- A worker is closing what a descriptor referred to. -/
def Closes (workers : FatWorkers fatfs Worker) (worker : Worker) (fd : UInt64T) : Prop :=
  ∃ operation, workers.working worker = some operation ∧ operation.stage.closes = some fd

variable [Fintype Worker]

/-- The opens in progress. -/
def opensInProgress (workers : FatWorkers fatfs Worker) : Nat :=
  count (fun operation => Opens operation = true) workers.working

/-! ### The invariant -/

/-- Every object in use has a slot or is being opened, and every worker that closes something has its
own slot, which nobody else uses. -/
structure Accounted (workers : FatWorkers fatfs Worker) : Prop where
  objects : workers.files.objectsInUse =
    slotsTaken workers.files.table + workers.opensInProgress
  closing : ∀ worker fd, workers.Closes worker fd →
    (workers.files.table (slotOf fd)).state = .allocated ∧
      (workers.files.table (slotOf fd)).generation ≤ fdGeneration fd
  apart : ∀ worker fd other fd', workers.Closes worker fd → workers.Closes other fd' →
    slotOf fd = slotOf fd' → worker = other

variable {workers next : FatWorkers fatfs Worker}

omit [Fintype Worker] in
theorem not_closes_of_initial (initial : workers.Initial) (worker : Worker) (fd : UInt64T) :
    ¬ workers.Closes worker fd := by
  rintro ⟨operation, working, _⟩
  rw [initial.working] at working
  cases working

theorem accounted_of_initial (initial : workers.Initial) : workers.Accounted where
  objects := by
    have noObject : workers.files.objectsInUse = 0 := by
      refine count_eq_zero fun object => ?_
      obtain ⟨kind, object⟩ := object
      cases kind with
      | file => exact Bool.not_eq_true _ ▸ congrFun initial.fileUsed object
      | dir => exact Bool.not_eq_true _ ▸ congrFun initial.dirUsed object
    have noSlot : slotsTaken workers.files.table = 0 := by
      rw [initial.table]
      exact count_eq_zero fun slot => not_not_intro rfl
    have noOpen : workers.opensInProgress = 0 := by
      rw [opensInProgress, initial.working]
      exact count_eq_zero fun worker => Bool.false_ne_true
    rw [noObject, noSlot, noOpen]
  closing := fun worker fd closes => absurd closes (not_closes_of_initial initial worker fd)
  apart := fun worker fd _ _ closes => absurd closes (not_closes_of_initial initial worker fd)

/-! ### Steps -/

variable [DecidableEq Worker]

section Advance

variable {segment : Segment fatfs}

omit [Fintype Worker] in
theorem closes_advance {other : Worker}
    (closes : (workers.advance worker type params segment).Closes other fd) :
    (other ≠ worker ∧ workers.Closes other fd) ∨ (other = worker ∧
      ∃ call stage, segment.progress = .inCall call stage ∧ stage.closes = some fd) := by
  obtain ⟨operation, working, closes⟩ := closes
  rcases eq_or_ne other worker with rfl | different
  · rw [working_advance_self] at working
    obtain ⟨call, stage, ended, rfl⟩ := afterSegment_eq_some working
    exact .inr ⟨rfl, call, stage, ended, closes⟩
  · rw [working_advance_of_ne different] at working
    exact .inl ⟨different, operation, working, closes⟩

/-- A segment that keeps the account, does not touch the slots that other workers close, and itself
closes only a slot of its own. -/
theorem Accounted.advance (accounted : workers.Accounted)
    (objects : segment.files.objectsInUse = slotsTaken segment.files.table +
      (workers.advance worker type params segment).opensInProgress)
    (others : ∀ other fd, other ≠ worker → workers.Closes other fd →
      SameUse (workers.files.table (slotOf fd)) (segment.files.table (slotOf fd)))
    (own : ∀ call stage fd, segment.progress = .inCall call stage → stage.closes = some fd →
      ((segment.files.table (slotOf fd)).state = .allocated ∧
        (segment.files.table (slotOf fd)).generation ≤ fdGeneration fd) ∧
      (workers.files.table (slotOf fd)).state ≠ .allocated) :
    (workers.advance worker type params segment).Accounted where
  objects := objects
  closing := by
    intro other fd closes
    rcases closes_advance closes with ⟨different, before⟩ | ⟨rfl, call, stage, ended, closes⟩
    · obtain ⟨allocated, notPassed⟩ := accounted.closing other fd before
      have same := others other fd different before
      exact ⟨same.allocated.mpr allocated, same.generation ▸ notPassed⟩
    · exact (own call stage fd ended closes).1
  apart := by
    intro first fd second fd' closes closes' sameSlot
    rcases closes_advance closes with ⟨different, before⟩ | ⟨rfl, call, stage, ended, closes⟩ <;>
      rcases closes_advance closes' with ⟨different', before'⟩ | ⟨rfl, call', stage', ended', closes'⟩
    · exact accounted.apart first fd second fd' before before' sameSlot
    · refine absurd (accounted.closing first fd before).1 ?_
      rw [sameSlot]
      exact (own call' stage' fd' ended' closes').2
    · refine absurd (accounted.closing second fd' before').1 ?_
      rw [← sameSlot]
      exact (own call stage fd ended closes).2
    · rfl

theorem opensInProgress_advance_of_same
    (same : Opens (afterSegment type params segment.progress) = Opens (workers.working worker)) :
    (workers.advance worker type params segment).opensInProgress = workers.opensInProgress :=
  count_update_of_same (by rw [same])

theorem opensInProgress_advance_of_plain (idle : Opens (workers.working worker) = false)
    (plain : segment.progress.Plain) :
    (workers.advance worker type params segment).opensInProgress = workers.opensInProgress :=
  opensInProgress_advance_of_same (by rw [idle, opens_afterSegment_of_plain plain])

/-- An open begins. -/
theorem opensInProgress_advance_of_begins (idle : Opens (workers.working worker) = false)
    (ended : segment.progress = .inCall call stage) (opens : stage.opens = true) :
    (workers.advance worker type params segment).opensInProgress = workers.opensInProgress + 1 := by
  refine count_update_of_comes (by rw [idle]; exact Bool.false_ne_true) ?_
  rw [ended]
  exact opens

theorem opensInProgress_advance_of_ends (opens : Opens (workers.working worker) = true)
    (plain : segment.progress.Plain) :
    (workers.advance worker type params segment).opensInProgress + 1 = workers.opensInProgress := by
  refine count_update_of_goes opens ?_
  rw [opens_afterSegment_of_plain plain]
  exact Bool.false_ne_true

theorem Accounted.spawn (accounted : workers.Accounted) (idle : workers.working worker = none)
    (effect : HasFirstEffect workers.files segment) :
    (workers.advance worker type params segment).Accounted := by
  have notOpening : Opens (workers.working worker) = false := by
    rw [idle]
    rfl
  obtain ⟨accesses, pathWrites, files, progress⟩ := segment
  cases effect with
  | quiet quiet plain =>
    refine accounted.advance ?_ (fun _ fd _ _ => quiet.table (slotOf fd)) ?_
    · rw [opensInProgress_advance_of_plain notOpening plain, objectsInUse_congr quiet.used,
        slotsTaken_congr fun slot => (quiet.table slot).free]
      exact accounted.objects
    · rintro call stage fd rfl closes
      rw [plain.2] at closes
      cases closes
  | takes volume table unused used opens closes =>
    refine accounted.advance ?_ (fun _ fd _ _ => ?_) ?_
    · rw [opensInProgress_advance_of_begins notOpening rfl opens,
        objectsInUse_of_takes unused used, accounted.objects]
      rw [table, Nat.add_assoc]
    · rw [table]
      exact SameUse.refl _
    · rintro _ _ fd ⟨⟩ some
      rw [closes] at some
      cases some
  | unsets volume used others opened allocated notPassed opens closes =>
    rename_i unset call stage
    have kept : (files.table (slotOf unset)).state ≠ .free := by
      rw [allocated]
      simp
    refine accounted.advance ?_ (fun other fd _ before => others _ fun same => ?_) ?_
    · have same : Opens (afterSegment type params (.inCall call stage)) =
          Opens (workers.working worker) := opens.trans notOpening.symm
      rw [opensInProgress_advance_of_same same, objectsInUse_congr used, accounted.objects]
      refine congrArg (· + _) (slotsTaken_congr fun slot => ?_).symm
      rcases eq_or_ne slot (slotOf unset) with rfl | different
      · exact iff_of_false kept opened.1
      · exact (others slot different).free
    · exact opened.2 (same ▸ (accounted.closing other fd before).1)
    · rintro _ _ fd ⟨⟩ some
      rw [closes] at some
      cases some
      exact ⟨⟨allocated, notPassed⟩, opened.2⟩

/-- What follows a call of FatFs keeps the account, unless an assertion fails. -/
theorem Accounted.resume (accounted : workers.Accounted) {operation : Operation}
    {reply : FatFsReply} (working : workers.working worker = some operation)
    (effect : HasResumeEffect workers.files reply operation.stage segment)
    (survives : segment.progress ≠ .failedAssertion) :
    (workers.advance worker type params segment).Accounted := by
  have opening : Opens (workers.working worker) = operation.stage.opens := by
    rw [working]
    rfl
  have closingNow : ∀ {fd}, operation.stage.closes = some fd → workers.Closes worker fd :=
    fun closes => ⟨operation, working, closes⟩
  obtain ⟨accesses, pathWrites, files, progress⟩ := segment
  cases effect with
  | quiet quiet stagePlain plain =>
    refine accounted.advance ?_ (fun _ fd _ _ => quiet.table (slotOf fd)) ?_
    · rw [opensInProgress_advance_of_plain (opening.trans stagePlain.1) plain,
        objectsInUse_congr quiet.used, slotsTaken_congr fun slot => (quiet.table slot).free]
      exact accounted.objects
    · rintro call stage fd rfl closes
      rw [plain.2] at closes
      cases closes
  | noSlot | unusedObject => exact absurd rfl survives
  | opened opens accepted volume used free taken others =>
    rename_i slot status result
    refine accounted.advance ?_ (fun other fd _ before => others _ fun same => ?_) (by simp)
    · have ends : (workers.advance worker type params
          ⟨accesses, pathWrites, files, .finished status result⟩).opensInProgress + 1 =
            workers.opensInProgress :=
        opensInProgress_advance_of_ends (opening.trans opens) trivial
      rw [objectsInUse_congr used, slotsTaken_of_opened free taken others, accounted.objects,
        ← ends, ← Nat.add_assoc]
      exact Nat.add_right_comm _ _ _
    · have allocated := (accounted.closing other fd before).1
      rw [same, free] at allocated
      cases allocated
  | refused opens refused volume table inUse used =>
    rename_i kind object status result
    refine accounted.advance ?_ (fun _ fd _ _ => ?_) (by simp)
    · have ends : (workers.advance worker type params
          ⟨accesses, pathWrites, files, .finished status result⟩).opensInProgress + 1 =
            workers.opensInProgress :=
        opensInProgress_advance_of_ends (opening.trans opens) trivial
      have objects := accounted.objects
      rw [← objectsInUse_of_frees inUse used, ← ends] at objects
      rw [table]
      exact Nat.add_right_cancel objects
    · rw [table]
      exact SameUse.refl _
  | closed closes volume table inUse used =>
    rename_i kind object fd status result
    obtain ⟨allocated, notPassed⟩ := accounted.closing worker fd (closingNow closes)
    rw [fdFree_of_allocated allocated notPassed, Option.getD_some] at table
    have freed : slotsTaken files.table + 1 = slotsTaken workers.files.table := by
      rw [table]
      refine count_update_of_goes ?_ (not_not_intro rfl)
      rw [allocated]
      simp
    refine accounted.advance ?_ (fun other fd' different before => ?_) (by simp)
    · have objects := accounted.objects
      rw [← objectsInUse_of_frees inUse used, ← freed, Nat.add_right_comm] at objects
      have plain : Progress.Plain (.finished status result) := trivial
      rw [opensInProgress_advance_of_plain (opening.trans (opens_of_closes closes)) plain]
      exact Nat.add_right_cancel objects
    · have apart : slotOf fd' ≠ slotOf fd := fun same =>
        different (accounted.apart other fd' worker fd before (closingNow closes) same)
      rw [table, update_of_ne apart]
      exact SameUse.refl _
  | stays closes volume used others kept =>
    rename_i fd status result
    have taken : (workers.files.table (slotOf fd)).state ≠ .free := by
      rw [(accounted.closing worker fd (closingNow closes)).1]
      simp
    refine accounted.advance ?_ (fun other fd' different before => others _ fun same => ?_)
      (by simp)
    · have plain : Progress.Plain (.finished status result) := trivial
      rw [opensInProgress_advance_of_plain (opening.trans (opens_of_closes closes)) plain,
        objectsInUse_congr used, accounted.objects]
      refine congrArg (· + _) (slotsTaken_congr fun slot => ?_).symm
      rcases eq_or_ne slot (slotOf fd) with rfl | away
      · exact iff_of_false (fun free => taken (kept free)) taken
      · exact (others slot away).free
    · exact different (accounted.apart other fd' worker fd before (closingNow closes) same)

end Advance

theorem Accounted.act (accounted : workers.Accounted) {volume : fatfs.Volume}
    (working : workers.working worker = some operation) :
    Accounted
      { workers with
        files := { workers.files with volume, share }
        working := update workers.working worker
          (some { operation with reply := some reply }) } := by
  have closes : ∀ other fd,
      (∃ after, update workers.working worker
          (some { operation with reply := some reply }) other = some after ∧
        after.stage.closes = some fd) → workers.Closes other fd := by
    rintro other fd ⟨after, found, closes⟩
    rcases eq_or_ne other worker with rfl | different
    · rw [update_self] at found
      cases found
      exact ⟨operation, working, closes⟩
    · rw [update_of_ne different] at found
      exact ⟨after, found, closes⟩
  refine
    { objects := ?_
      closing := fun other fd now => accounted.closing other fd (closes other fd now)
      apart := fun other fd other' fd' now now' =>
        accounted.apart other fd other' fd' (closes other fd now) (closes other' fd' now') }
  have same : Opens (some { operation with reply := some reply }) = Opens (workers.working worker) := by
    rw [working]
    rfl
  have opens : count (fun operation => Opens operation = true)
      (update workers.working worker (some { operation with reply := some reply })) =
        workers.opensInProgress := count_update_of_same (by rw [same])
  exact accounted.objects.trans (congrArg (_ + ·) opens.symm)

omit [Fintype Worker] in
theorem survives_of_advance {segment : Segment fatfs}
    (alive : (workers.advance worker type params segment).assertionFailed = false) :
    segment.progress ≠ .failedAssertion := by
  intro failed
  unfold FatWorkers.advance at alive
  rw [failed] at alive
  cases alive

theorem Accounted.step (accounted : workers.Accounted) (step : Step workers event next)
    (alive : next.assertionFailed = false) : next.Accounted := by
  cases step with
  | spawn _ idle => exact accounted.spawn idle (hasFirstEffect_operationFunctions _ _ _)
  | act _ working => exact accounted.act working
  | resume _ working =>
    exact accounted.resume working (hasResumeEffect_resume _ _ _) (survives_of_advance alive)
  | writeShare => exact ⟨accounted.objects, accounted.closing, accounted.apart⟩

/-! ### Descriptors for accepted opens -/

/-- A worker goes on after an open that FatFs has accepted, and its assertion fails. -/
def FdAllocFails (workers : FatWorkers fatfs Worker) : WorkerEvent fatfs Worker → Prop
  | .resume worker => ∃ operation reply, workers.working worker = some operation ∧
    operation.reply = some reply ∧ operation.stage.opens = true ∧ reply.result = .ok ∧
    (Fat.resume workers.files reply operation.stage).progress = .failedAssertion
  | _ => False

/-- Where a worker goes on after an accepted open, the files and directories in use, other than those
that are being opened, are fewer than the slots of the table. -/
def RoomForOpens (workers : FatWorkers fatfs Worker) : WorkerEvent fatfs Worker → Prop
  | .resume worker => ∀ operation reply, workers.working worker = some operation →
    operation.reply = some reply → operation.stage.opens = true → reply.result = .ok →
    workers.files.objectsInUse < maxOpenFiles + workers.opensInProgress
  | _ => True

end FatWorkers

theorem resume_fails_iff (opens : stage.opens = true) (accepted : reply.result = .ok) :
    (resume files reply stage).progress = .failedAssertion ↔ fdAlloc files.table = none := by
  cases stage with
  | opening | openingDir =>
    simp only [resume, if_pos accepted, setNewFd]
    split
    · rename_i full
      exact iff_of_true rfl full
    · rename_i allocates
      rw [allocates]
      exact iff_of_false (by rintro ⟨⟩) (by rintro ⟨⟩)
  | _ => cases opens

namespace FatWorkers

variable [Fintype Worker] [DecidableEq Worker] {workers : FatWorkers fatfs Worker}

omit [DecidableEq Worker] in
theorem not_fdAllocFails_iff (accounted : workers.Accounted) (event : WorkerEvent fatfs Worker) :
    ¬ workers.FdAllocFails event ↔ workers.RoomForOpens event := by
  have room : fdAlloc workers.files.table ≠ none ↔
      workers.files.objectsInUse < maxOpenFiles + workers.opensInProgress := by
    rw [fdAlloc_isSome_iff, accounted.objects, Nat.add_lt_add_iff_right]
  cases event with
  | resume worker =>
    constructor
    · intro succeeds operation reply working replied opens accepted
      refine room.mp fun full => succeeds ⟨operation, reply, working, replied, opens, accepted, ?_⟩
      exact (resume_fails_iff opens accepted).mpr full
    · rintro roomy ⟨operation, reply, working, replied, opens, accepted, failed⟩
      exact room.mpr (roomy operation reply working replied opens accepted)
        ((resume_fails_iff opens accepted).mp failed)
  | spawn | act | writeShare => exact iff_of_true id trivial

/-- The runs in which there is a descriptor for every accepted open are those in which the files and
directories in use, other than those being opened, are always fewer than the slots when one is
needed. -/
theorem fd_alloc_succeeds_iff {start : FatWorkers fatfs Worker}
    {events : List (WorkerEvent fatfs Worker)} (initial : start.Initial) :
    Run (Guarded (fun workers event => ¬ workers.FdAllocFails event) Step) start events workers ↔
      Run (Guarded RoomForOpens Step) start events workers := by
  refine run_guarded_congr (fun workers => workers.assertionFailed = false → workers.Accounted)
    (fun _ => accounted_of_initial initial) ?_ ?_
  · intro state event next accounted step alive
    exact (accounted (alive_of_step step)).step step alive
  · intro state event next accounted step
    exact not_fdAllocFails_iff (accounted (alive_of_step step)) event

omit [Fintype Worker] in
theorem not_fdAllocFails_of_alive {next : FatWorkers fatfs Worker} (step : Step workers event next)
    (alive : next.assertionFailed = false) : ¬ workers.FdAllocFails event := by
  cases step with
  | spawn | act | writeShare => exact id
  | resume _ working replied =>
    rintro ⟨operation, reply, found, replies, _, _, failed⟩
    rw [working] at found
    cases found
    rw [replied] at replies
    cases replies
    exact survives_of_advance alive failed

end FatWorkers

/-! ### A table filled over several mounts -/

section Plain

open FatWorkers

variable {segment : Segment plainFatFs} {workers : FatWorkers plainFatFs Unit} {number : Nat}

theorem fileAlloc_of_lt (few : count (fun used => used = true) files.fileUsed < maxOpenFiles) :
    ∃ file, files.fileUsed file = false ∧ fileAlloc files =
      some (file, { files with fileUsed := update files.fileUsed file true }) := by
  cases allocates : fileAlloc files with
  | some allocated =>
    obtain ⟨file, after⟩ := allocated
    obtain ⟨unused, rfl⟩ := fileAlloc_eq_some allocates
    exact ⟨file, unused, rfl⟩
  | none =>
    have size : count (fun used => used = true) files.fileUsed <
        Fintype.card (Fin maxOpenFiles) := by
      rw [Fintype.card_fin]
      exact few
    obtain ⟨file, unused⟩ := count_lt_card_iff.mp size
    have allUsed := List.find?_eq_none.mp (Option.map_eq_none_iff.mp allocates)
    exact absurd (Bool.not_eq_true _ ▸ unused) (by simpa using allUsed file (List.mem_finRange file))

/-- There is a descriptor as long as not all slots are taken. -/
theorem setNewFd_of_lt (few : slotsTaken files.table < maxOpenFiles) (kind : OfKind)
    (handle : UInt64T) :
    ∃ fd table, setNewFd files (fun table fd => onSlot (OftableSlot.ofSet kind handle) table fd) =
        finish { files with table } fsStatusSuccess (some fd) ∧
      slotsTaken table = slotsTaken files.table + 1 := by
  obtain ⟨⟨fd, table⟩, allocates⟩ := Option.ne_none_iff_exists'.mp (fdAlloc_isSome_iff.mpr few)
  have effect := @hasResumeEffect_setNewFd _ files (.opening ⟨0, by decide⟩)
    (succeeded 0) rfl rfl kind handle
  unfold setNewFd at effect ⊢
  rw [allocates] at effect ⊢
  refine ⟨fd, _, rfl, ?_⟩
  cases effect with
  | opened opens accepted volume used free taken others =>
    exact slotsTaken_of_opened free taken others
  | quiet quiet plain => cases plain.1
  | refused opens refused => exact absurd rfl refused
  | closed closes | stays closes => cases closes

/-- The worker waits for what FatFs has answered. -/
theorem run_until_reply (alive : workers.assertionFailed = false) (idle : workers.working () = none)
    (first : operationFunctions type params workers.files = segment)
    (calls : segment.progress = .inCall call stage)
    (acts : plainFatFs.Acts call segment.files.volume segment.files.share reply volume share) :
    ∃ next, Run Step workers [.spawn () type params, .act () reply] next ∧
      next.files = { segment.files with volume, share } ∧
      next.working () = some { type, params, call, stage, reply := some reply } ∧
      next.assertionFailed = false := by
  subst first
  have working : (workers.advance () type params (operationFunctions type params workers.files)).working
      () = some { type, params, call, stage, reply := none } := by
    rw [working_advance_self, calls]
    rfl
  have still : (workers.advance () type params
      (operationFunctions type params workers.files)).assertionFailed = false := by
    unfold FatWorkers.advance
    rw [calls]
    exact alive
  refine ⟨_, (Run.single (.spawn alive idle)).snoc (.act still working rfl acts), rfl, ?_, still⟩
  dsimp only
  exact update_self _ _ _

/-- A command whose handler calls FatFs once. -/
theorem run_command {files : FatFiles plainFatFs} {status : UInt64T} {result : Option UInt64T}
    (alive : workers.assertionFailed = false) (idle : workers.working () = none)
    (first : operationFunctions type params workers.files = segment)
    (calls : segment.progress = .inCall call stage)
    (acts : plainFatFs.Acts call segment.files.volume segment.files.share reply volume share)
    (goesOn : Fat.resume { segment.files with volume, share } reply stage =
      finish files status result) :
    ∃ next, Run Step workers [.spawn () type params, .act () reply, .resume ()] next ∧
      next.files = files ∧ next.working () = none ∧ next.assertionFailed = false := by
  obtain ⟨waiting, run, filesAre, working, still⟩ := run_until_reply alive idle first calls acts
  rw [← filesAre] at goesOn
  refine ⟨_, run.snoc (.resume still working rfl), ?_⟩
  rw [goesOn]
  exact ⟨rfl, working_advance_self, still⟩

/-- The first files of the pool are open, and the volume has just been mounted or not. -/
structure Filled (workers : FatWorkers plainFatFs Unit) (number : Nat) : Prop where
  alive : workers.assertionFailed = false
  idle : workers.working () = none
  initialised : workers.files.fsInitialised = true
  share : workers.files.share = plainShare
  noDirs : workers.files.dirUsed = fun _ => false
  files : count (fun used => used = true) workers.files.fileUsed = number
  slots : slotsTaken workers.files.table = number

/-- The commands that mount the volume. -/
def mount : List (WorkerEvent plainFatFs Unit) :=
  [.spawn () .initialise openParams, .act () (succeeded 0), .resume ()]

/-- The commands that unmount and mount the volume. -/
def remount : List (WorkerEvent plainFatFs Unit) :=
  [.spawn () .deinitialise openParams, .act () (succeeded 0), .resume ()] ++ mount

theorem Filled.remount (filled : Filled workers number) :
    ∃ next, Run Step workers Fat.remount next ∧ Filled next number ∧
      locks next.files.volume = 0 := by
  have unmounts : operationFunctions .deinitialise openParams workers.files =
      inCall workers.files .fUnmount .unmounting := if_pos filled.initialised
  obtain ⟨unmounted, run, filesAre, idle, alive⟩ :=
    run_command filled.alive filled.idle unmounts rfl rfl rfl
  have mounts : operationFunctions .initialise openParams unmounted.files =
      inCall { unmounted.files with fsInitialised := true } .fMount .mounting := by
    rw [filesAre]
    rfl
  obtain ⟨mounted, run', filesAre', idle', alive'⟩ := run_command alive idle mounts rfl rfl rfl
  refine ⟨mounted, run.trans run', ?_, ?_⟩
  · rw [filesAre] at filesAre'
    refine ⟨alive', idle', ?_, ?_, ?_, ?_, ?_⟩
    · rw [filesAre']
      rfl
    · rw [filesAre']
      exact filled.share
    · rw [filesAre']
      exact filled.noDirs
    · rw [filesAre']
      exact filled.files
    · rw [filesAre']
      exact filled.slots
  · rw [filesAre']

/-- One more file is opened after a mount. -/
theorem Filled.openFile (filled : Filled workers number)
    (unlocked : PlainVolume.locks workers.files.volume = 0) (few : number < maxOpenFiles) :
    ∃ next, Run Step workers [.spawn () .fileOpen openParams, .act () (PlainVolume.succeeded 0),
      .resume ()] next ∧ Filled next (number + 1) := by
  obtain ⟨file, unused, allocates⟩ := fileAlloc_of_lt (filled.files.trans_lt few)
  have opens : operationFunctions .fileOpen openParams workers.files =
      { accesses := [(paramBuffer openParams 0).range]
        pathWrites := [{ declared := fsMaxNameLength + 1, written := 2 }]
        files := { workers.files with
          fileUsed := update workers.files.fileUsed file true }
        progress := .inCall (.fOpen file [97, 0] (mapFsFlagsToFatFlags 6)) (.opening file) } := by
    simp only [operationFunctions, handleFileOpen, withPath, filled.share, allocates]
    rfl
  have locked : PlainVolume.locks workers.files.volume < ffFsLock := by
    rw [unlocked]
    decide
  obtain ⟨fd, table, finishes, slots⟩ :=
    @setNewFd_of_lt plainFatFs ({ workers.files with
      fileUsed := update workers.files.fileUsed file true
      volume := PlainVolume.openFile workers.files.volume file [97, 0] })
      (filled.slots.trans_lt few) .file (handleOf file)
  obtain ⟨next, run, filesAre, idle, alive⟩ :=
    run_command filled.alive filled.idle opens rfl (if_pos locked) finishes
  refine ⟨next, run, alive, idle, ?_, ?_, ?_, ?_, ?_⟩
  · rw [filesAre]
    exact filled.initialised
  · rw [filesAre]
    exact filled.share
  · rw [filesAre]
    exact filled.noDirs
  · rw [filesAre, ← filled.files]
    exact count_update_of_comes (by rw [unused]; exact Bool.false_ne_true) rfl
  · rw [filesAre, ← filled.slots]
    exact slots

theorem filled_of_mount :
    ∃ workers, Run Step (plainWorkers Unit) mount workers ∧ Filled workers 0 := by
  have mounts : operationFunctions .initialise openParams (plainWorkers Unit).files =
      inCall { (plainWorkers Unit).files with fsInitialised := true } .fMount .mounting := rfl
  obtain ⟨mounted, run, filesAre, idle, alive⟩ := run_command rfl rfl mounts rfl rfl rfl
  refine ⟨mounted, run, alive, idle, ?_, ?_, ?_, ?_, ?_⟩
  · rw [filesAre]
    rfl
  · rw [filesAre]
    rfl
  · rw [filesAre]
    rfl
  · rw [filesAre]
    exact count_eq_zero fun file => Bool.false_ne_true
  · rw [filesAre]
    exact count_eq_zero fun slot => not_not_intro rfl

theorem filled_of_le (few : number ≤ maxOpenFiles) :
    ∃ events workers, Run Step (plainWorkers Unit) events workers ∧ Filled workers number := by
  induction number with
  | zero =>
    obtain ⟨workers, run, filled⟩ := filled_of_mount
    exact ⟨mount, workers, run, filled⟩
  | succ number inductionHypothesis =>
    obtain ⟨events, workers, run, filled⟩ := inductionHypothesis (Nat.le_of_succ_le few)
    obtain ⟨mounted, remounts, filled, unlocked⟩ := filled.remount
    obtain ⟨next, opens, filled⟩ := filled.openFile unlocked few
    exact ⟨_, next, (run.trans remounts).trans opens, filled⟩

/-- The events of a run in which no assertion ever fails. -/
theorem run_of_surviving {start finish : FatWorkers plainFatFs Unit}
    {events : List (WorkerEvent plainFatFs Unit)}
    (performed : events.foldlM (fun (workers : FatWorkers plainFatFs Unit) event =>
      (workers.perform event).filter fun next => !next.assertionFailed) start = some finish) :
    Run (Guarded (fun workers event => ¬ workers.FdAllocFails event) Step) start events finish := by
  refine Run.of_foldlM (fun workers event next survived => ?_) performed
  obtain ⟨performed, alive⟩ := Option.filter_eq_some_iff.mp survived
  have step := step_of_perform performed
  exact ⟨not_fdAllocFails_of_alive step (Bool.not_eq_true' _ ▸ alive), step⟩

/-- A server that mounts the volume and opens a file has room for it. -/
theorem fd_alloc_succeeds_iff_of_one_file :
    ∃ workers, Run (Guarded RoomForOpens Step) (plainWorkers Unit)
        (mount ++ [.spawn () .fileOpen openParams, .act () (succeeded 0), .resume ()])
        workers ∧
      (workers.files.table ⟨0, by decide⟩).state = .opened .file := by
  have run : ∃ workers, Run (Guarded (fun workers event => ¬ workers.FdAllocFails event) Step)
        (plainWorkers Unit)
        (mount ++ [.spawn () .fileOpen openParams, .act () (succeeded 0), .resume ()])
        workers ∧
      (workers.files.table ⟨0, by decide⟩).state = .opened .file := by
    exact ⟨_, run_of_surviving rfl, rfl⟩
  obtain ⟨workers, run, opened⟩ := run
  exact ⟨workers, (fd_alloc_succeeds_iff (plainWorkers_initial Unit)).mp run, opened⟩

/-- After as many files as there are slots have been opened, over several mounts, FatFs accepts a
directory for which there is no slot. -/
theorem no_slot_for_directory :
    (plainWorkers Unit).Initial ∧ ∃ events workers, Run Step (plainWorkers Unit) events workers ∧
      workers.FdAllocFails (.resume ()) := by
  obtain ⟨events, workers, run, filled⟩ := filled_of_le le_rfl
  obtain ⟨mounted, remounts, filled, unlocked⟩ := filled.remount
  have opens : operationFunctions .dirOpen openParams mounted.files =
      { accesses := [(paramBuffer openParams 0).range]
        pathWrites := [{ declared := fsMaxPathLength + 1, written := 2 }]
        files := { mounted.files with
          dirUsed := update mounted.files.dirUsed ⟨0, by decide⟩ true }
        progress := .inCall (.fOpendir ⟨0, by decide⟩ [97, 0]) (.openingDir ⟨0, by decide⟩) } := by
    have allocates : dirAlloc mounted.files = some (⟨0, by decide⟩, { mounted.files with
        dirUsed := update mounted.files.dirUsed ⟨0, by decide⟩ true }) := by
      rw [dirAlloc, filled.noDirs]
      rfl
    simp only [operationFunctions, handleDirOpen, withPath, filled.share, allocates]
    rfl
  have locked : locks mounted.files.volume < ffFsLock := by
    rw [unlocked]
    decide
  obtain ⟨waiting, answered, filesAre, working, alive⟩ :=
    run_until_reply filled.alive filled.idle opens rfl (if_pos locked)
  refine ⟨plainWorkers_initial _, _, waiting, (run.trans remounts).trans answered, ?_⟩
  refine ⟨_, _, working, rfl, rfl, rfl, (resume_fails_iff rfl rfl).mpr ?_⟩
  rw [filesAre]
  refine not_not.mp fun some => ?_
  exact absurd (fdAlloc_isSome_iff.mp some) (Nat.not_lt.mpr filled.slots.ge)

end Plain

end LionsOS.Fat

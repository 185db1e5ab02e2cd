/-
This file is about the allocator of buffers of `helpers.c`. There are four times as
many buffers in the share as the array of their metadata has entries, so a call that
finds the first quarter of them in use looks at the memory behind the array. As long
as one of these is not in use at each allocation, the array is never left, and the
buffers in use are apart from each other.
-/

import LionsOS.Fs.RequestAllocator
import LionsOS.Lib.Bytes

open Function

namespace LionsOS.Fs

open Bytes LinearSearch StepRun List

/-! ### Buffers of the share -/

def fsBufferSize : Nat := 0x8000

/-- The size of the share, as the servers check it. -/
def fsShareSize : Nat := 0x4000000

structure ShareBuffers where
  /-- What is read as the `used` flag of an index, also where the array has no entry. -/
  used : Nat → Bool
  share : Nat → UInt8T

namespace ShareBuffers

/-- The offset of the buffer that is taken, `none` where the call fails. -/
def fsBufferAllocate (buffers : ShareBuffers) : Option (Nat × ShareBuffers) :=
  (search buffers.used (range numBuffers)).found.map fun i =>
    (i * fsBufferSize, { buffers with used := update buffers.used i true })

/-- `none` when an assertion fires. -/
def fsBufferFree (buffers : ShareBuffers) (buffer : Nat) : Option ShareBuffers :=
  let i := buffer / fsBufferSize
  if i < numBuffers ∧ buffers.used i then
    some { used := update buffers.used i false
           share := copy buffers.share ⟨buffer, fsBufferSize⟩ (fun _ => 0) 0 }
  else none

end ShareBuffers

/-! ### State and calls -/

/-- A call of `fs_buffer_allocate`: the buffers that were in use, and the one it took, `none` where
it failed. -/
structure BufferAllocation where
  inUse : List Nat
  buffer : Option Nat

structure BufferPool where
  buffers : ShareBuffers
  /-- The buffers that were allocated and not freed since. -/
  inUse : List Nat
  /-- The calls of `fs_buffer_allocate` so far. -/
  allocations : List BufferAllocation
  /-- The indices at which `buffer_metadata` was looked up so far. -/
  inspected : List Nat

inductive BufferCall where
  | fsBufferAllocate
  | fsBufferFree (buffer : Nat)
  /-- Others write to the share, or to the memory behind the array. -/
  | others (memory : Nat → Bool) (share : Nat → UInt8T)

namespace BufferPool

def fsBufferAllocate (pool : BufferPool) : BufferPool :=
  let inspected := pool.inspected ++ (search pool.buffers.used (range numBuffers)).inspected
  match pool.buffers.fsBufferAllocate with
  | some (buffer, buffers) =>
    { buffers
      inUse := buffer :: pool.inUse
      allocations := pool.allocations ++ [⟨pool.inUse, some buffer⟩]
      inspected }
  | none =>
    { pool with
      allocations := pool.allocations ++ [⟨pool.inUse, none⟩]
      inspected }

/-- `none` when an assertion fires. -/
def fsBufferFree (pool : BufferPool) (buffer : Nat) : Option BufferPool :=
  (pool.buffers.fsBufferFree buffer).map fun buffers =>
    { pool with
      buffers
      inUse := pool.inUse.erase buffer
      inspected := pool.inspected ++ [buffer / fsBufferSize] }

def perform (pool : BufferPool) : BufferCall → Option BufferPool
  | .fsBufferAllocate => some pool.fsBufferAllocate
  | .fsBufferFree buffer => pool.fsBufferFree buffer
  | .others memory share =>
    let used := fun i => if i < fsQueueCapacity then pool.buffers.used i else memory i
    some { pool with buffers := { used, share } }

/-- Only buffers in use are freed. -/
def Enabled (pool : BufferPool) : BufferCall → Prop
  | .fsBufferFree buffer => buffer ∈ pool.inUse
  | _ => True

/-- Before the first call no buffer is used, whatever is behind the array. -/
structure Initial (pool : BufferPool) : Prop where
  used : ∀ i < fsQueueCapacity, pool.buffers.used i = false
  inUse : pool.inUse = []
  allocations : pool.allocations = []
  inspected : pool.inspected = []

/-- The bytes of a buffer. -/
def rangeOf (buffer : Nat) : Range where
  start := buffer
  length := fsBufferSize

/-- The first so many buffers are in use. -/
def AllInUse (count : Nat) (inUse : List Nat) : Prop :=
  ∀ i < count, i * fsBufferSize ∈ inUse

/-- The buffers in use are parts of the share that do not meet, an allocation has failed exactly if
all buffers were in use, and the array was only looked up where it has entries. -/
structure Sound (pool : BufferPool) : Prop where
  disjoint : pool.inUse.Pairwise fun buffer other => (rangeOf buffer).Disjoint (rangeOf other)
  inShare : ∀ buffer ∈ pool.inUse, buffer + fsBufferSize ≤ fsShareSize
  failed : ∀ allocation ∈ pool.allocations,
    (allocation.buffer = none ↔ AllInUse numBuffers allocation.inUse)
  inside : ∀ i ∈ pool.inspected, i < fsQueueCapacity

/-- The entries of the array tell which buffers are in use. -/
structure Flagged (pool : BufferPool) : Prop where
  flags : ∀ i < fsQueueCapacity, (pool.buffers.used i = true ↔ i * fsBufferSize ∈ pool.inUse)
  entries : ∀ buffer ∈ pool.inUse, ∃ i < fsQueueCapacity, buffer = i * fsBufferSize
  distinct : pool.inUse.Nodup

end BufferPool

def BufferStep (pool : BufferPool) (call : BufferCall) (next : BufferPool) : Prop :=
  pool.Enabled call ∧ pool.perform call = some next

/-- No buffer is allocated while all those are in use whose metadata are in the array. -/
def LeavesBuffer (pool : BufferPool) (call : BufferCall) : Prop :=
  call = .fsBufferAllocate → ¬ BufferPool.AllInUse fsQueueCapacity pool.inUse

namespace BufferPool

variable {pool next : BufferPool} {call : BufferCall} {buffer : Nat}

/-! ### One call -/

theorem mul_fsBufferSize_inj {i j : Nat} : i * fsBufferSize = j * fsBufferSize ↔ i = j :=
  Nat.mul_left_inj (by decide)

theorem index_of_buffer (i : Nat) : i * fsBufferSize / fsBufferSize = i :=
  Nat.mul_div_cancel i (by decide)

theorem disjoint_of_ne {i j : Nat} (different : i ≠ j) :
    (rangeOf (i * fsBufferSize)).Disjoint (rangeOf (j * fsBufferSize)) := by
  rintro address ⟨afterFirst, beforeFirst⟩ ⟨afterSecond, beforeSecond⟩
  simp only [rangeOf, fsBufferSize] at afterFirst beforeFirst afterSecond beforeSecond
  omega

theorem fsBufferAllocate_of_room (flagged : pool.Flagged)
    (room : ¬ AllInUse fsQueueCapacity pool.inUse) :
    ∃ i < fsQueueCapacity, i * fsBufferSize ∉ pool.inUse ∧ ∃ inspected ⊆ range fsQueueCapacity,
        pool.fsBufferAllocate =
          { buffers := { pool.buffers with used := update pool.buffers.used i true }
            inUse := i * fsBufferSize :: pool.inUse
            allocations := pool.allocations ++ [⟨pool.inUse, some (i * fsBufferSize)⟩]
            inspected := pool.inspected ++ inspected } := by
  simp only [AllInUse, not_forall] at room
  obtain ⟨unused, small, notInUse⟩ := room
  obtain ⟨i, inside, isFree, inspected, subset, looked⟩ := RequestPool.search_of_room ⟨unused, small,
    Bool.eq_false_of_not_eq_true fun used => notInUse ((flagged.flags unused small).mp used)⟩
  refine ⟨i, inside, fun inUse => ?_, inspected, subset, ?_⟩
  · rw [(flagged.flags i inside).mpr inUse] at isFree
    cases isFree
  · unfold fsBufferAllocate ShareBuffers.fsBufferAllocate
    rw [looked]
    rfl

theorem fsBufferAllocate_inspected (pool : BufferPool) :
    pool.fsBufferAllocate.inspected =
      pool.inspected ++ (search pool.buffers.used (range numBuffers)).inspected := by
  unfold fsBufferAllocate
  split <;> rfl

theorem inspected_of_allInUse (flagged : pool.Flagged) (all : AllInUse fsQueueCapacity pool.inUse) :
    fsQueueCapacity ∈ pool.fsBufferAllocate.inspected := by
  rw [fsBufferAllocate_inspected]
  exact mem_append_right _ (RequestPool.inspected_of_used fun i inside =>
    (flagged.flags i inside).mpr (all i inside))

/-- What freeing a buffer of the array does. -/
theorem fsBufferFree_eq_some {i : Nat} (freed : pool.fsBufferFree (i * fsBufferSize) = some next) :
    next.buffers.used = update pool.buffers.used i false ∧
      next.inUse = pool.inUse.erase (i * fsBufferSize) ∧
      next.allocations = pool.allocations ∧ next.inspected = pool.inspected ++ [i] := by
  obtain ⟨buffers, freed, same⟩ := Option.map_eq_some_iff.mp freed
  obtain ⟨_, freed⟩ := Option.ite_none_right_eq_some.mp freed
  rw [index_of_buffer] at freed same
  cases freed
  cases same
  exact ⟨rfl, rfl, rfl, rfl⟩

/-! ### Runs -/

theorem Initial.flagged (initial : pool.Initial) : pool.Flagged where
  flags i inside := by
    rw [initial.used i inside, initial.inUse]
    simp
  entries := by simp [initial.inUse]
  distinct := initial.inUse ▸ nodup_nil

theorem Initial.sound (initial : pool.Initial) : pool.Sound where
  disjoint := initial.inUse ▸ List.Pairwise.nil
  inShare := by simp [initial.inUse]
  failed := by simp [initial.allocations]
  inside := by simp [initial.inspected]

theorem Flagged.not_all (flagged : pool.Flagged) : ¬ AllInUse numBuffers pool.inUse := by
  intro all
  obtain ⟨i, inside, same⟩ := flagged.entries _ (all fsQueueCapacity (by decide))
  exact absurd (mul_fsBufferSize_inj.mp same) inside.ne'

theorem Flagged.step (flagged : pool.Flagged) (leaves : LeavesBuffer pool call)
    (step : BufferStep pool call next) : next.Flagged := by
  obtain ⟨enabled, performed⟩ := step
  cases call with
  | fsBufferAllocate =>
    obtain ⟨taken, inside, unused, inspected, _, allocated⟩ :=
      fsBufferAllocate_of_room flagged (leaves rfl)
    have same : next = _ := (Option.some.inj performed).symm.trans allocated
    subst same
    refine ⟨fun i small => ?_, ?_, nodup_cons.mpr ⟨unused, flagged.distinct⟩⟩
    · dsimp only
      rw [update_apply, mem_cons, mul_fsBufferSize_inj]
      split_ifs with same
      · simp [same]
      · simp [same, flagged.flags i small]
    · exact forall_mem_cons.mpr ⟨⟨taken, inside, rfl⟩, flagged.entries⟩
  | fsBufferFree buffer =>
    obtain ⟨freed, small, rfl⟩ := flagged.entries buffer enabled
    obtain ⟨used, inUse, _, _⟩ := fsBufferFree_eq_some performed
    refine ⟨fun i inside => ?_, ?_, ?_⟩
    · rw [used, inUse, update_apply, flagged.distinct.mem_erase_iff, Ne, mul_fsBufferSize_inj]
      split_ifs with same
      · simp [same]
      · simp [same, flagged.flags i inside]
    · rw [inUse]
      exact fun other member => flagged.entries other (mem_of_mem_erase member)
    · rw [inUse]
      exact flagged.distinct.erase _
  | others memory share =>
    cases performed
    refine ⟨fun i inside => ?_, flagged.entries, flagged.distinct⟩
    simp only [if_pos inside]
    exact flagged.flags i inside

theorem inShare_of_lt {i : Nat} (inside : i < fsQueueCapacity) :
    i * fsBufferSize + fsBufferSize ≤ fsShareSize := by
  simp only [fsQueueCapacity, fsBufferSize, fsShareSize] at inside ⊢
  omega

/-- A call leaves the pool sound exactly if it is no allocation with all buffers of the array in
use. -/
theorem sound_step_iff (flagged : pool.Flagged) (sound : pool.Sound)
    (step : BufferStep pool call next) : next.Sound ↔ LeavesBuffer pool call := by
  obtain ⟨enabled, performed⟩ := step
  constructor
  · rintro after rfl all
    rw [← Option.some.inj performed] at after
    exact absurd (after.inside _ (inspected_of_allInUse flagged all)) (Nat.lt_irrefl _)
  · intro leaves
    cases call with
    | fsBufferAllocate =>
      obtain ⟨taken, inside, unused, inspected, subset, allocated⟩ :=
        fsBufferAllocate_of_room flagged (leaves rfl)
      have same : next = _ := (Option.some.inj performed).symm.trans allocated
      subst same
      refine ⟨pairwise_cons.mpr ⟨fun buffer member => ?_, sound.disjoint⟩, ?_, ?_, ?_⟩
      · obtain ⟨other, _, rfl⟩ := flagged.entries buffer member
        exact disjoint_of_ne fun same => unused (same ▸ member)
      · exact forall_mem_cons.mpr ⟨inShare_of_lt inside, sound.inShare⟩
      · refine forall_mem_append.mpr ⟨sound.failed, forall_mem_singleton.mpr ?_⟩
        exact iff_of_false (by simp) flagged.not_all
      · refine forall_mem_append.mpr ⟨sound.inside, fun i member => ?_⟩
        exact mem_range.mp (subset member)
    | fsBufferFree buffer =>
      obtain ⟨freed, small, rfl⟩ := flagged.entries buffer enabled
      obtain ⟨_, inUse, allocations, looked⟩ := fsBufferFree_eq_some performed
      refine ⟨?_, ?_, allocations ▸ sound.failed, ?_⟩
      · rw [inUse]
        exact sound.disjoint.sublist (erase_sublist ..)
      · rw [inUse]
        exact fun other member => sound.inShare other (mem_of_mem_erase member)
      · rw [looked]
        exact forall_mem_append.mpr ⟨sound.inside, forall_mem_singleton.mpr small⟩
    | others memory share =>
      cases performed
      exact { sound with }

/-- The pool before the first call, with zeroes behind the array and in the share. -/
def empty : BufferPool where
  buffers := { used := fun _ => false, share := fun _ => 0 }
  inUse := []
  allocations := []
  inspected := []

theorem empty_initial : empty.Initial := by
  constructor <;> simp [empty]

/-- The buffers in use are parts of the share that do not meet, all allocations fail exactly if all
buffers are in use, and the array is only looked up where it has entries, in exactly the runs in which
no buffer is allocated while all those of the array are in use. -/
theorem sound_iff_leavesBuffer {start : BufferPool} (initial : start.Initial)
    (calls : List BufferCall) :
    Run (Within Sound BufferStep) start calls pool ↔
      Run (Guarded LeavesBuffer BufferStep) start calls pool :=
  run_within_iff_guarded_of_kept Flagged initial.flagged initial.sound
    (fun _ _ _ flagged _ leaves step => flagged.step leaves step)
    (fun _ _ _ flagged sound step => sound_step_iff flagged sound step)

/-- A buffer is allocated from the pool at first. -/
theorem empty_buffer_sound :
    Run (Within Sound BufferStep) empty [.fsBufferAllocate] empty.fsBufferAllocate := by
  refine (sound_iff_leavesBuffer empty_initial _).mpr (Run.single ⟨fun _ all => ?_, trivial, rfl⟩)
  exact absurd (all 0 (by decide)) not_mem_nil

/-! ### Running out of metadata -/

theorem exists_run_allocating {count : Nat} (enough : count ≤ fsQueueCapacity) :
    ∃ pool, Run BufferStep empty (replicate count .fsBufferAllocate) pool ∧ pool.Flagged ∧
      pool.Sound ∧ pool.inUse.length = count := by
  induction count with
  | zero => exact ⟨empty, Run.nil, empty_initial.flagged, empty_initial.sound, rfl⟩
  | succ count inductionHypothesis =>
    obtain ⟨pool, run, flagged, sound, length⟩ := inductionHypothesis (Nat.le_of_succ_le enough)
    have room : ¬ AllInUse fsQueueCapacity pool.inUse := by
      intro all
      obtain ⟨unused, small, notInUse⟩ := CircularSearch.exists_unused fsQueueCapacity
        (pool.inUse.map (· / fsBufferSize)) (by rw [length_map, length]; exact enough)
      exact notInUse (mem_map.mpr ⟨_, all unused small, index_of_buffer unused⟩)
    have step : BufferStep pool .fsBufferAllocate pool.fsBufferAllocate := ⟨trivial, rfl⟩
    obtain ⟨_, _, _, _, _, allocated⟩ := fsBufferAllocate_of_room flagged room
    refine ⟨pool.fsBufferAllocate, ?_, flagged.step (fun _ => room) step,
      (sound_step_iff flagged sound step).mpr fun _ => room, ?_⟩
    · rw [replicate_succ']
      exact run.snoc step
    · rw [allocated]
      exact congrArg Nat.succ length

theorem Flagged.allInUse (flagged : pool.Flagged) (full : pool.inUse.length = fsQueueCapacity) :
    AllInUse fsQueueCapacity pool.inUse := by
  have subset : pool.inUse ⊆ (range fsQueueCapacity).map (· * fsBufferSize) := by
    intro buffer member
    obtain ⟨i, inside, rfl⟩ := flagged.entries buffer member
    exact mem_map_of_mem (mem_range.mpr inside)
  have all := (subperm_of_subset flagged.distinct subset).perm_of_length_le
    (by rw [full, length_map, length_range])
  intro i inside
  exact all.mem_iff.mpr (mem_map_of_mem (mem_range.mpr inside))

/-- With a quarter of the buffers in use, the next allocation looks behind the array. -/
theorem allocation_behind_metadata : ∃ pool,
    Run BufferStep empty (replicate (fsQueueCapacity + 1) .fsBufferAllocate) pool ∧
      fsQueueCapacity ∈ pool.inspected ∧ fsQueueCapacity < numBuffers ∧ ¬ pool.Sound := by
  obtain ⟨pool, run, flagged, sound, length⟩ := exists_run_allocating le_rfl
  have all := flagged.allInUse length
  have step : BufferStep pool .fsBufferAllocate pool.fsBufferAllocate := ⟨trivial, rfl⟩
  refine ⟨pool.fsBufferAllocate, ?_, inspected_of_allInUse flagged all, by decide, fun after => ?_⟩
  · rw [replicate_succ']
    exact run.snoc step
  · exact (sound_step_iff flagged sound step).mp after rfl all

end BufferPool

end LionsOS.Fs

/-
This file is about the allocator of request ids of `helpers.c`. The search for an
id goes on to four times the length of the table of requests, so a call that
finds every request used looks at the memory behind the table and takes what it
finds there for an id. As long as some id is not in use at each allocation, the
search stays in the table and the ids are those of the table.
-/

import LionsOS.Fs.BlockingCommands
import LionsOS.Lib.CircularSearch
import LionsOS.Lib.LinearSearch

open Function

namespace LionsOS.Fs

open LinearSearch StepRun List

/-! ### State and calls -/

/-- The bound of the search for a request. -/
def numBuffers : Nat := fsQueueCapacity * 4

/-- A call of `fs_request_allocate`: the ids that were in use, the indices it looked at, and the id
it allocated, `none` where it failed. -/
structure Allocation where
  inUse : List Nat
  inspected : List Nat
  requestId : Option Nat

structure RequestPool where
  /-- What is read as the `used` flag of an index, also where no request is at it. -/
  used : Nat → Bool
  /-- The ids that were allocated and not freed since. -/
  inUse : List Nat
  /-- The calls of `fs_request_allocate` so far. -/
  allocations : List Allocation

inductive PoolCall where
  | fsRequestAllocate
  | fsRequestFree (requestId : Nat)
  /-- Others write to the memory behind the table. -/
  | others (memory : Nat → Bool)

namespace RequestPool

def fsRequestAllocate (pool : RequestPool) : RequestPool :=
  let looked := search pool.used (range numBuffers)
  let allocations :=
    pool.allocations ++ [⟨pool.inUse, looked.inspected, looked.found⟩]
  match looked.found with
  | some i =>
    { used := update pool.used i true
      inUse := i :: pool.inUse
      allocations }
  | none => { pool with allocations }

/-- `none` when an assertion fires. -/
def fsRequestFree (pool : RequestPool) (requestId : Nat) : Option RequestPool :=
  if requestId ≤ requestIdMaximum.toNat ∧ pool.used requestId then
    some { pool with
      used := update pool.used requestId false
      inUse := pool.inUse.erase requestId }
  else none

def perform (pool : RequestPool) : PoolCall → Option RequestPool
  | .fsRequestAllocate => some pool.fsRequestAllocate
  | .fsRequestFree requestId => pool.fsRequestFree requestId
  | .others memory =>
    some { pool with used := fun i => if i < fsQueueCapacity then pool.used i else memory i }

/-- Before the first call no request is used, whatever is behind the table. -/
structure Initial (pool : RequestPool) : Prop where
  used : ∀ i < fsQueueCapacity, pool.used i = false
  inUse : pool.inUse = []
  allocations : pool.allocations = []

/-- Every id is in use. -/
def Exhausted (inUse : List Nat) : Prop :=
  ∀ requestId ≤ requestIdMaximum.toNat, requestId ∈ inUse

/-- The ids in use are different ones of the table, and every allocation so far has only looked at
the table and has failed exactly if all ids were in use. -/
structure Sound (pool : RequestPool) : Prop where
  distinct : pool.inUse.Nodup
  bounded : ∀ requestId ∈ pool.inUse, requestId ≤ requestIdMaximum.toNat
  failed : ∀ allocation ∈ pool.allocations,
    (allocation.requestId = none ↔ Exhausted allocation.inUse)
  inside : ∀ allocation ∈ pool.allocations, ∀ i ∈ allocation.inspected, i < fsQueueCapacity

/-- The flags in the table tell which ids are in use. -/
def Flagged (pool : RequestPool) : Prop :=
  ∀ i < fsQueueCapacity, (pool.used i = true ↔ i ∈ pool.inUse)

end RequestPool

def PoolStep (pool : RequestPool) (call : PoolCall) (next : RequestPool) : Prop :=
  pool.perform call = some next

/-- No id is allocated while all are in use. -/
def LeavesOne (pool : RequestPool) (call : PoolCall) : Prop :=
  call = .fsRequestAllocate → ¬ RequestPool.Exhausted pool.inUse

namespace RequestPool

variable {pool next : RequestPool} {call : PoolCall} {requestId : Nat}

/-! ### One call -/

theorem le_requestIdMaximum_iff :
    requestId ≤ requestIdMaximum.toNat ↔ requestId < fsQueueCapacity := by
  exact Nat.le_sub_one_iff_lt fsQueueCapacity_pos

theorem range_numBuffers : ∃ rest, range numBuffers =
    range fsQueueCapacity ++ fsQueueCapacity :: rest := by
  have more : numBuffers = fsQueueCapacity + (numBuffers - fsQueueCapacity - 1 + 1) := by decide
  refine ⟨range' (fsQueueCapacity + 1) (numBuffers - fsQueueCapacity - 1), ?_⟩
  rw [more, range_eq_range', ← range'_append_1, Nat.zero_add, range'_succ,
    ← range_eq_range', ← more]

variable {used : Nat → Bool}

theorem search_of_room (room : ∃ i < fsQueueCapacity, used i = false) :
    ∃ i < fsQueueCapacity, used i = false ∧ ∃ inspected ⊆ range fsQueueCapacity,
      search used (range numBuffers) = ⟨inspected, some i⟩ := by
  simp only [← mem_range] at room
  obtain ⟨rest, parts⟩ := range_numBuffers
  obtain ⟨inspected, i, looked, subset, member, isFree⟩ :=
    @search_of_free _ _ _ (fsQueueCapacity :: rest) room
  exact ⟨i, mem_range.mp member, isFree, inspected, subset, parts ▸ looked⟩

theorem inspected_of_used (all : ∀ i < fsQueueCapacity, used i = true) :
    fsQueueCapacity ∈ (search used (range numBuffers)).inspected := by
  obtain ⟨rest, parts⟩ := range_numBuffers
  rw [parts]
  exact inspected_of_taken (fun i member => all i (mem_range.mp member)) fsQueueCapacity rest

theorem fsRequestAllocate_of_room (flagged : pool.Flagged) (room : ¬ Exhausted pool.inUse) :
    ∃ i < fsQueueCapacity, i ∉ pool.inUse ∧ ∃ inspected ⊆ range fsQueueCapacity,
      pool.fsRequestAllocate =
        { used := update pool.used i true
          inUse := i :: pool.inUse
          allocations := pool.allocations ++ [⟨pool.inUse, inspected, some i⟩] } := by
  simp only [Exhausted, le_requestIdMaximum_iff, not_forall] at room
  obtain ⟨unused, small, notInUse⟩ := room
  obtain ⟨i, inside, isFree, inspected, subset, looked⟩ := search_of_room ⟨unused, small,
    Bool.eq_false_of_not_eq_true fun used => notInUse ((flagged unused small).mp used)⟩
  refine ⟨i, inside, fun inUse => ?_, inspected, subset, ?_⟩
  · rw [(flagged i inside).mpr inUse] at isFree
    cases isFree
  · unfold fsRequestAllocate
    rw [looked]

theorem fsRequestAllocate_allocations (pool : RequestPool) :
    pool.fsRequestAllocate.allocations = pool.allocations ++
      [⟨pool.inUse, (search pool.used (range numBuffers)).inspected,
        (search pool.used (range numBuffers)).found⟩] := by
  unfold fsRequestAllocate
  dsimp only
  split <;> rfl

theorem used_of_exhausted (flagged : pool.Flagged) (exhausted : Exhausted pool.inUse) :
    ∀ i < fsQueueCapacity, pool.used i = true :=
  fun i inside => (flagged i inside).mpr (exhausted i (le_requestIdMaximum_iff.mpr inside))

/-! ### Runs -/

theorem Initial.flagged (initial : pool.Initial) : pool.Flagged := by
  intro i inside
  rw [initial.used i inside, initial.inUse]
  simp

theorem Initial.sound (initial : pool.Initial) : pool.Sound where
  distinct := initial.inUse ▸ nodup_nil
  bounded := by simp [initial.inUse]
  failed := by simp [initial.allocations]
  inside := by simp [initial.allocations]

theorem flagged_step (flagged : pool.Flagged) (sound : pool.Sound) (leaves : LeavesOne pool call)
    (step : PoolStep pool call next) : next.Flagged := by
  intro i inside
  cases call with
  | fsRequestAllocate =>
    obtain ⟨taken, _, _, inspected, _, allocated⟩ := fsRequestAllocate_of_room flagged (leaves rfl)
    rw [← Option.some.inj step, allocated]
    dsimp only
    rw [update_apply]
    split_ifs with same
    · simp [same]
    · simp [same, flagged i inside]
  | fsRequestFree requestId =>
    obtain ⟨_, freed⟩ := Option.ite_none_right_eq_some.mp step
    cases freed
    dsimp only
    rw [update_apply, sound.distinct.mem_erase_iff]
    split_ifs with same
    · simp [same]
    · simp [same, flagged i inside]
  | others memory =>
    cases step
    simp only [if_pos inside]
    exact flagged i inside

/-- A call leaves the pool sound exactly if it is no allocation with all ids in use. -/
theorem sound_step_iff (flagged : pool.Flagged) (sound : pool.Sound)
    (step : PoolStep pool call next) : next.Sound ↔ LeavesOne pool call := by
  constructor
  · rintro after rfl exhausted
    have inside := after.inside
    rw [← Option.some.inj step, fsRequestAllocate_allocations] at inside
    have last := forall_mem_singleton.mp (forall_mem_append.mp inside).2
    dsimp only at last
    exact absurd (last _ (inspected_of_used (used_of_exhausted flagged exhausted)))
      (Nat.lt_irrefl _)
  · intro leaves
    cases call with
    | fsRequestAllocate =>
      have room := leaves rfl
      obtain ⟨i, inside, unused, inspected, subset, allocated⟩ :=
        fsRequestAllocate_of_room flagged room
      have same : next = _ := (Option.some.inj step).symm.trans allocated
      subst same
      refine ⟨nodup_cons.mpr ⟨unused, sound.distinct⟩, ?_, ?_, ?_⟩
      · exact forall_mem_cons.mpr ⟨le_requestIdMaximum_iff.mpr inside, sound.bounded⟩
      · refine forall_mem_append.mpr ⟨sound.failed, forall_mem_singleton.mpr ?_⟩
        simp [room]
      · refine forall_mem_append.mpr ⟨sound.inside, forall_mem_singleton.mpr ?_⟩
        exact fun index member => mem_range.mp (subset member)
    | fsRequestFree requestId =>
      obtain ⟨_, freed⟩ := Option.ite_none_right_eq_some.mp step
      cases freed
      exact { sound with
        distinct := sound.distinct.erase requestId
        bounded := fun other member => sound.bounded other (mem_of_mem_erase member) }
    | others memory =>
      cases step
      exact { sound with }

/-- The pool before the first call, with zeroes behind the table. -/
def empty : RequestPool where
  used := fun _ => false
  inUse := []
  allocations := []

theorem empty_initial : empty.Initial := by
  constructor <;> simp [empty]

/-- The ids in use are different ones of the table, and all allocations look at the table alone and
fail exactly if all ids are in use, in exactly the runs in which no id is allocated while all are in
use. -/
theorem sound_iff_leavesOne {start : RequestPool} (initial : start.Initial)
    (calls : List PoolCall) :
    Run (Within Sound PoolStep) start calls pool ↔
      Run (Guarded LeavesOne PoolStep) start calls pool :=
  run_within_iff_guarded_of_kept Flagged initial.flagged initial.sound
    (fun _ _ _ flagged sound leaves step => flagged_step flagged sound leaves step)
    (fun _ _ _ flagged sound step => sound_step_iff flagged sound step)

/-- An id is allocated from the pool at first. -/
theorem empty_sound :
    Run (Within Sound PoolStep) empty [.fsRequestAllocate] empty.fsRequestAllocate := by
  refine (sound_iff_leavesOne empty_initial _).mpr (Run.single ⟨fun _ exhausted => ?_, rfl⟩)
  exact absurd (exhausted 0 (Nat.zero_le _)) not_mem_nil

/-! ### Running out of ids -/

theorem Sound.exhausted (sound : pool.Sound) (full : pool.inUse.length = fsQueueCapacity) :
    Exhausted pool.inUse := by
  have subset : pool.inUse ⊆ range fsQueueCapacity := fun requestId member =>
    mem_range.mpr (le_requestIdMaximum_iff.mp (sound.bounded requestId member))
  have all := (subperm_of_subset sound.distinct subset).perm_of_length_le
    (by rw [full, length_range])
  intro requestId small
  exact all.mem_iff.mpr (mem_range.mpr (le_requestIdMaximum_iff.mp small))

theorem exists_run_allocating {count : Nat} (enough : count ≤ fsQueueCapacity) :
    ∃ pool, Run PoolStep empty (replicate count .fsRequestAllocate) pool ∧ pool.Flagged ∧
      pool.Sound ∧ pool.inUse.length = count ∧ pool.used fsQueueCapacity = false := by
  induction count with
  | zero => exact ⟨empty, Run.nil, empty_initial.flagged, empty_initial.sound, rfl, rfl⟩
  | succ count inductionHypothesis =>
    obtain ⟨pool, run, flagged, sound, length, behind⟩ :=
      inductionHypothesis (Nat.le_of_succ_le enough)
    have room : ¬ Exhausted pool.inUse := by
      intro exhausted
      obtain ⟨unused, small, notInUse⟩ := CircularSearch.exists_unused fsQueueCapacity pool.inUse
        (length ▸ enough)
      exact notInUse (exhausted unused (le_requestIdMaximum_iff.mpr small))
    have step : PoolStep pool .fsRequestAllocate pool.fsRequestAllocate := rfl
    obtain ⟨i, inside, _, inspected, _, allocated⟩ := fsRequestAllocate_of_room flagged room
    refine ⟨pool.fsRequestAllocate, ?_, flagged_step flagged sound (fun _ => room) step,
      (sound_step_iff flagged sound step).mpr fun _ => room, ?_, ?_⟩
    · rw [replicate_succ']
      exact run.snoc step
    · rw [allocated]
      exact congrArg Nat.succ length
    · rw [allocated]
      exact (update_of_ne inside.ne' _ _).trans behind

/-- One allocation more than there are requests looks behind the table, and hands out an id that is
none. -/
theorem allocation_behind_table : ∃ pool,
    Run PoolStep empty (replicate (fsQueueCapacity + 1) .fsRequestAllocate) pool ∧
      fsQueueCapacity ∈ pool.inUse ∧ ¬ pool.Sound := by
  obtain ⟨pool, run, flagged, sound, length, behind⟩ := exists_run_allocating le_rfl
  have exhausted := sound.exhausted length
  have step : PoolStep pool .fsRequestAllocate pool.fsRequestAllocate := rfl
  obtain ⟨rest, parts⟩ := range_numBuffers
  refine ⟨pool.fsRequestAllocate, ?_, ?_, fun after => ?_⟩
  · rw [replicate_succ']
    exact run.snoc step
  · unfold fsRequestAllocate
    rw [parts, search_of_taken
      (fun i member => used_of_exhausted flagged exhausted i (mem_range.mp member)) behind]
    exact mem_cons_self
  · exact (sound_step_iff flagged sound step).mp after rfl exhausted

end RequestPool

end LionsOS.Fs

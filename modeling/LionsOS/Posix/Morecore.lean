/-
This file embeds `mem.c`, the memory that the C library gets at the start and gives
to the program: the break grows from below, and anonymous mappings are taken from
above. A mapping is rounded up to pages before it is compared with what is left,
and its address is rounded down afterwards; where the top is not the end of a page,
the second rounding may go below the break.
-/

import LionsOS.Lib.Runs
import LionsOS.Words
import Mathlib.Data.Set.BooleanAlgebra
import Mathlib.Data.Set.Disjoint
import Mathlib.Order.CompletePartialOrder
import Mathlib.Order.Interval.Set.Basic

namespace LionsOS.Posix

open StepRun BitVec

/-! ### State -/

def pageSize : UInt64T := 0x1000

/-- Of the mappings that were returned no call keeps a record. -/
structure Morecore where
  morecoreArea : UInt64T
  morecoreBase : UInt64T
  morecoreTop : UInt64T
  /-- The address and the length of each mapping that was returned, the latest first. -/
  returned : List (UInt64T × UInt64T)

variable {start : Morecore} {area size : UInt64T}

/-- There is an assertion about the area. -/
def libcInitMem (area size : UInt64T) : Option Morecore :=
  if area ≠ 0 ∧ size ≠ 0 then
    some { morecoreArea := area, morecoreBase := area, morecoreTop := area + size, returned := [] }
  else none

inductive MmapErr where
  | einval
  | enomem

namespace Morecore

variable (morecore : Morecore)

def sysBrk (newbrk : UInt64T) : UInt64T × Morecore :=
  if newbrk ≤ morecore.morecoreTop ∧ morecore.morecoreArea ≤ newbrk then
    (newbrk, { morecore with morecoreBase := newbrk })
  else (morecore.morecoreBase, morecore)

/-- The length in pages. -/
def pages (length : UInt64T) : UInt64T :=
  (length + (pageSize - 1)) &&& ~~~(pageSize - 1)

def sysMmap (length : UInt64T) (anonymous : Bool) : Except MmapErr UInt64T × Morecore :=
  if length = 0 then (.error .einval, morecore)
  else if anonymous then
    if morecore.morecoreTop - morecore.morecoreBase < pages length then (.error .enomem, morecore)
    else
      let top := (morecore.morecoreTop - pages length) &&& ~~~(pageSize - 1)
      (.ok top, { morecore with
        morecoreTop := top
        returned := (top, length) :: morecore.returned })
  else (.error .enomem, morecore)

end Morecore

inductive MemoryCall where
  | brk (newbrk : UInt64T)
  | mmap (length : UInt64T) (anonymous : Bool)

def Morecore.perform (morecore : Morecore) : MemoryCall → Morecore
  | .brk newbrk => (morecore.sysBrk newbrk).2
  | .mmap length anonymous => (morecore.sysMmap length anonymous).2

def MemoryStep (morecore : Morecore) (call : MemoryCall) (next : Morecore) : Prop :=
  next = morecore.perform call

/-! ### Rounding -/

theorem page_mask_bit {index : Nat} (bound : index < 64) :
    (pageSize - 1 : UInt64T)[index] = decide (index < 12) := by
  have mask : pageSize - 1 = BitVec.ofNat 64 (2 ^ 12 - 1) := by decide
  rw [mask, ← BitVec.getLsbD_eq_getElem, BitVec.getLsbD_ofNat, Nat.testBit_two_pow_sub_one]
  simp [bound]

theorem and_page_mask (address : UInt64T) :
    (address &&& ~~~(pageSize - 1)).toNat = address.toNat / 4096 * 4096 := by
  have shifted : address &&& ~~~(pageSize - 1) = (address >>> 12) <<< 12 := by
    ext index bound
    rw [getElem_and, getElem_not, page_mask_bit bound, getElem_shiftLeft]
    by_cases low : index < 12
    · simp [low]
    · rw [getElem_ushiftRight, Nat.add_sub_cancel' (Nat.le_of_not_lt low),
        getLsbD_eq_getElem bound, Bool.and_comm]
  rw [shifted, toNat_shiftLeft, toNat_ushiftRight]
  omega

namespace Morecore

variable {length : UInt64T}

theorem toNat_pages (small : length.toNat + 4095 < 2 ^ 64) :
    (pages length).toNat = (length.toNat + 4095) / 4096 * 4096 := by
  have sum : (length + (pageSize - 1)).toNat = length.toNat + 4095 := by
    exact Nat.mod_eq_of_lt small
  rw [pages, and_page_mask, sum]

theorem pages_eq_zero (large : 2 ^ 64 ≤ length.toNat + 4095) : (pages length).toNat = 0 := by
  have sum : (length + (pageSize - 1)).toNat = length.toNat + 4095 - 2 ^ 64 := by
    show (length.toNat + 4095) % 2 ^ 64 = _
    omega
  rw [pages, and_page_mask]
  omega

/-! ### What has to hold -/

/-- The bytes from an address on. -/
def bytes (address length : Nat) : Set Nat :=
  Set.Ico address (address + length)

/-- The memory between the area and the break is the heap; what lies between the break and the top
is free. -/
structure AreaKept (area size : UInt64T) (morecore : Morecore) : Prop where
  area_le_base : area.toNat ≤ morecore.morecoreBase.toNat
  base_le_top : morecore.morecoreBase.toNat ≤ morecore.morecoreTop.toNat
  top_le_end : morecore.morecoreTop.toNat ≤ area.toNat + size.toNat
  aligned : ∀ mapping ∈ morecore.returned, mapping.1.toNat % 4096 = 0
  inside : ∀ mapping ∈ morecore.returned,
    bytes mapping.1.toNat mapping.2.toNat ⊆ bytes area.toNat size.toNat
  heap_apart : ∀ mapping ∈ morecore.returned, Disjoint
    (bytes area.toNat (morecore.morecoreBase.toNat - area.toNat))
    (bytes mapping.1.toNat mapping.2.toNat)
  apart : morecore.returned.Pairwise fun mapping other =>
    Disjoint (bytes mapping.1.toNat mapping.2.toNat) (bytes other.1.toNat other.2.toNat)

/-- The call is not a mapping whose length wraps around when it is rounded up, nor one that fits only
with the part of a page that the top is above one. -/
def FitsInPages (morecore : Morecore) : MemoryCall → Prop
  | .brk _ => True
  | .mmap length anonymous => anonymous = true → length ≠ 0 →
    length.toNat + 4095 < 2 ^ 64 ∧
      ((pages length).toNat ≤ (morecore.morecoreTop - morecore.morecoreBase).toNat →
        (pages length).toNat + morecore.morecoreTop.toNat % 4096 ≤
          (morecore.morecoreTop - morecore.morecoreBase).toNat)

/-! ### Each call -/

variable {morecore next : Morecore}

/-- What is known of the area besides: mappings are above the top. -/
structure Mapped (area size : UInt64T) (morecore : Morecore) : Prop where
  area_eq : morecore.morecoreArea = area
  positive : 0 < area.toNat
  inSpace : area.toNat + size.toNat < 2 ^ 64
  above : ∀ mapping ∈ morecore.returned, morecore.morecoreTop.toNat ≤ mapping.1.toNat

theorem bytes_disjoint {address length other otherLength : Nat}
    (apart : address + length ≤ other) : Disjoint (bytes address length) (bytes other otherLength) :=
  Set.disjoint_left.mpr fun _ mine others => absurd mine.2 (apart.trans others.1).not_gt

theorem sysBrk_kept (newbrk : UInt64T) (mapped : Mapped area size morecore)
    (kept : AreaKept area size morecore) :
    Mapped area size (morecore.sysBrk newbrk).2 ∧ AreaKept area size (morecore.sysBrk newbrk).2 := by
  unfold sysBrk
  split
  · rename_i inside
    have area_le : area.toNat ≤ newbrk.toNat := mapped.area_eq ▸ inside.2
    refine ⟨⟨mapped.area_eq, mapped.positive, mapped.inSpace, mapped.above⟩,
      ⟨area_le, inside.1, kept.top_le_end, kept.aligned, kept.inside, fun mapping member => ?_,
        kept.apart⟩⟩
    refine bytes_disjoint ?_
    rw [Nat.add_sub_cancel' area_le]
    exact (show newbrk.toNat ≤ _ from inside.1).trans (mapped.above mapping member)
  · exact ⟨mapped, kept⟩

/-- What a mapping takes that is found to fit. -/
theorem sysMmap_cases (length : UInt64T) (anonymous : Bool) :
    (morecore.sysMmap length anonymous).2 = morecore ∧ ¬ (length ≠ 0 ∧ anonymous = true ∧
          (pages length).toNat ≤ (morecore.morecoreTop - morecore.morecoreBase).toNat) ∨
      (length ≠ 0 ∧ anonymous = true ∧
        (pages length).toNat ≤ (morecore.morecoreTop - morecore.morecoreBase).toNat) ∧
      ∃ top : UInt64T, top = (morecore.morecoreTop - pages length) &&& ~~~(pageSize - 1) ∧
        (morecore.sysMmap length anonymous).2 = { morecore with
          morecoreTop := top
          returned := (top, length) :: morecore.returned } := by
  unfold sysMmap
  split
  · rename_i zero
    exact .inl ⟨rfl, fun fits => fits.1 zero⟩
  · rename_i nonzero
    split
    · rename_i anonymous
      split
      · rename_i tooLong
        exact .inl ⟨rfl, fun fits =>
          absurd (show _ < (pages length).toNat from tooLong) fits.2.2.not_gt⟩
      · rename_i fits
        exact .inr ⟨⟨nonzero, anonymous, Nat.not_lt.mp fits⟩, _, rfl, rfl⟩
    · rename_i file
      exact .inl ⟨rfl, fun fits => file fits.2.1⟩

theorem AreaKept.toNat_left (kept : AreaKept area size morecore) :
    (morecore.morecoreTop - morecore.morecoreBase).toNat =
      morecore.morecoreTop.toNat - morecore.morecoreBase.toNat :=
  toNat_sub_of_le kept.base_le_top

/-- Where a mapping that was found to fit is placed. -/
theorem AreaKept.toNat_top (kept : AreaKept area size morecore)
    (fits : (pages length).toNat ≤ (morecore.morecoreTop - morecore.morecoreBase).toNat) :
    ((morecore.morecoreTop - pages length) &&& ~~~(pageSize - 1)).toNat =
      (morecore.morecoreTop.toNat - (pages length).toNat) / 4096 * 4096 := by
  have left := kept.toNat_left
  have below : pages length ≤ morecore.morecoreTop := show (pages length).toNat ≤ _ by omega
  rw [and_page_mask, toNat_sub_of_le below]

theorem not_inside_of_large {top length : Nat} (mapped : Mapped area size morecore)
    (large : 2 ^ 64 ≤ length + 4095) (aligned : top % 4096 = 0) :
    ¬ bytes top length ⊆ bytes area.toNat size.toNat := by
  intro inside
  have space := mapped.inSpace
  have first := inside (show top ∈ bytes top length from ⟨le_rfl, by omega⟩)
  have last := inside
    (show top + (length - 1) ∈ bytes top length from ⟨Nat.le_add_right _ _, by omega⟩)
  have area_le : area.toNat ≤ top := first.1
  have below : top + (length - 1) < area.toNat + size.toNat := last.2
  have positive := mapped.positive
  omega

/-- A mapping that fits in whole pages lies between the break and what was mapped before. -/
theorem AreaKept.mmap {top : UInt64T} (mapped : Mapped area size morecore)
    (kept : AreaKept area size morecore) (aligned : top.toNat % 4096 = 0)
    (above : morecore.morecoreBase.toNat ≤ top.toNat)
    (below : top.toNat + length.toNat ≤ morecore.morecoreTop.toNat) :
    AreaKept area size { morecore with
        morecoreTop := top
        returned := (top, length) :: morecore.returned } ∧
      Mapped area size { morecore with
        morecoreTop := top
        returned := (top, length) :: morecore.returned } := by
  have top_le : top.toNat ≤ morecore.morecoreTop.toNat := (Nat.le_add_right _ _).trans below
  have heap : area.toNat + (morecore.morecoreBase.toNat - area.toNat) ≤ top.toNat := by
    rwa [Nat.add_sub_cancel' kept.area_le_base]
  refine ⟨⟨kept.area_le_base, above, top_le.trans kept.top_le_end, ?_, ?_, ?_, ?_⟩,
    ⟨mapped.area_eq, mapped.positive, mapped.inSpace, ?_⟩⟩
  · exact List.forall_mem_cons.mpr ⟨aligned, kept.aligned⟩
  · refine List.forall_mem_cons.mpr ⟨fun byte mine => ?_, kept.inside⟩
    exact ⟨(kept.area_le_base.trans above).trans mine.1,
      mine.2.trans_le (below.trans kept.top_le_end)⟩
  · exact List.forall_mem_cons.mpr ⟨bytes_disjoint heap, kept.heap_apart⟩
  · refine List.pairwise_cons.mpr ⟨fun mapping member => ?_, kept.apart⟩
    exact bytes_disjoint (below.trans (mapped.above mapping member))
  · exact List.forall_mem_cons.mpr
      ⟨le_rfl, fun mapping member => top_le.trans (mapped.above mapping member)⟩

/-- The area is kept by exactly the calls that meet the condition. -/
theorem step_kept_iff {call : MemoryCall} (mapped : Mapped area size morecore)
    (kept : AreaKept area size morecore) (step : MemoryStep morecore call next) :
    (AreaKept area size next ↔ morecore.FitsInPages call) ∧
      (morecore.FitsInPages call → Mapped area size next) := by
  subst step
  cases call with
  | brk newbrk =>
    have after := sysBrk_kept newbrk mapped kept
    exact ⟨iff_of_true after.2 trivial, fun _ => after.1⟩
  | mmap length anonymous =>
    rcases sysMmap_cases length anonymous with
      ⟨same, refused⟩ | ⟨⟨nonzero, isAnonymous, fits⟩, top, placed, changed⟩
    · rw [perform, same]
      refine ⟨iff_of_true kept fun isAnonymous nonzero => ⟨?_, fun fits => ?_⟩, fun _ => mapped⟩
      · by_contra large
        have none_taken := pages_eq_zero (Nat.not_lt.mp large)
        exact refused ⟨nonzero, isAnonymous, none_taken ▸ Nat.zero_le _⟩
      · exact (refused ⟨nonzero, isAnonymous, fits⟩).elim
    · rw [perform, changed]
      have toNat_top := (congrArg BitVec.toNat placed).trans (kept.toNat_top fits)
      have aligned : top.toNat % 4096 = 0 := toNat_top ▸ Nat.mul_mod_left _ _
      have left := kept.toNat_left
      have ordered := kept.base_le_top
      rcases Nat.lt_or_ge (length.toNat + 4095) (2 ^ 64) with small | large
      · have rounded := toNat_pages small
        have condition : morecore.FitsInPages (.mmap length anonymous) ↔
            morecore.morecoreBase.toNat ≤ top.toNat := by
          constructor
          · intro meets
            have room := (meets isAnonymous nonzero).2 fits
            omega
          · intro above
            exact fun _ _ => ⟨small, fun _ => by omega⟩
        have below : top.toNat + length.toNat ≤ morecore.morecoreTop.toNat := by omega
        rw [condition]
        exact ⟨⟨fun after => after.base_le_top,
            fun above => (kept.mmap mapped aligned above below).1⟩,
          fun above => (kept.mmap mapped aligned above below).2⟩
      · have not_met : ¬ morecore.FitsInPages (.mmap length anonymous) :=
          fun meets => absurd (meets isAnonymous nonzero).1 large.not_gt
        refine ⟨iff_of_false (fun after => ?_) not_met, fun meets => (not_met meets).elim⟩
        exact not_inside_of_large mapped large aligned (after.inside _ List.mem_cons_self)

end Morecore

/-! ### Runs -/

theorem libcInitMem_eq_some (started : libcInitMem area size = some start) :
    0 < area.toNat ∧
      start = { morecoreArea := area, morecoreBase := area, morecoreTop := area + size,
                returned := [] } := by
  unfold libcInitMem at started
  split_ifs at started with given
  cases started
  exact ⟨Nat.pos_of_ne_zero fun zero => given.1 (eq_of_toNat_eq zero), rfl⟩

theorem start_kept_iff (started : libcInitMem area size = some start) :
    Morecore.AreaKept area size start ↔ area.toNat + size.toNat < 2 ^ 64 := by
  obtain ⟨positive, rfl⟩ := libcInitMem_eq_some started
  constructor
  · intro kept
    by_contra beyond
    have wrapped : (area + size).toNat = area.toNat + size.toNat - 2 ^ 64 := by
      rw [toNat_add]
      omega
    have ordered : area.toNat ≤ (area + size).toNat := kept.base_le_top
    omega
  · intro inSpace
    have sum : (area + size).toNat = area.toNat + size.toNat := by
      rw [toNat_add, Nat.mod_eq_of_lt inSpace]
    refine ⟨le_rfl, ?_, sum.le, ?_, ?_, ?_, List.Pairwise.nil⟩
    · exact (Nat.le_add_right _ _).trans sum.ge
    · exact fun _ => (nomatch ·)
    · exact fun _ => (nomatch ·)
    · exact fun _ => (nomatch ·)

/-- From a start inside the address space, the runs that keep the area are those of the calls that
meet the condition. -/
theorem run_kept_iff {morecore : Morecore} {calls : List MemoryCall}
    (started : libcInitMem area size = some start) (inSpace : area.toNat + size.toNat < 2 ^ 64) :
    Run (Within (Morecore.AreaKept area size) MemoryStep) start calls morecore ↔
      Run (Guarded Morecore.FitsInPages MemoryStep) start calls morecore := by
  have kept := (start_kept_iff started).mpr inSpace
  obtain ⟨positive, rfl⟩ := libcInitMem_eq_some started
  refine run_within_iff_guarded_of_kept (Morecore.Mapped area size)
    ⟨rfl, positive, inSpace, ?_⟩ kept ?_ ?_
  · exact fun _ => (nomatch ·)
  · exact fun _ _ _ mapped kept meets step =>
      (Morecore.step_kept_iff mapped kept step).2 meets
  · exact fun _ _ _ mapped kept step => (Morecore.step_kept_iff mapped kept step).1

/-- Whatever breaks are asked for and whatever is mapped, the break and the mappings stay inside the
area and apart, exactly as long as the area does not reach beyond the address space and every
mapping that fits does so in whole pages. -/
theorem area_kept_iff {area size : UInt64T} {morecore : Morecore} {calls : List MemoryCall} :
    (∃ start, libcInitMem area size = some start ∧ Morecore.AreaKept area size start ∧
        Run (Within (Morecore.AreaKept area size) MemoryStep) start calls morecore) ↔
      area.toNat + size.toNat < 2 ^ 64 ∧ ∃ start, libcInitMem area size = some start ∧
          Run (Guarded Morecore.FitsInPages MemoryStep) start calls morecore := by
  constructor
  · rintro ⟨start, started, kept, run⟩
    have inSpace := (start_kept_iff started).mp kept
    exact ⟨inSpace, start, started, (run_kept_iff started inSpace).mp run⟩
  · rintro ⟨inSpace, start, started, run⟩
    exact ⟨start, started, (start_kept_iff started).mpr inSpace,
      (run_kept_iff started inSpace).mpr run⟩

/-- An area of 4 KiB that does not start at a page. One page fits, and is placed below the area. -/
theorem mapping_below_the_area : ∃ start morecore, libcInitMem 0x10800 0x1000 = some start ∧
      Run MemoryStep start [.mmap 0x1000 true] morecore ∧
      ¬ Morecore.AreaKept 0x10800 0x1000 morecore := by
  refine ⟨_, _, rfl, .single rfl, fun kept => ?_⟩
  exact absurd kept.base_le_top (by decide)

end LionsOS.Posix

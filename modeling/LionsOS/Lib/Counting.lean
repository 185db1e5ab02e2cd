/-
This file is about how many members of a finite family are of a kind. Changing one
member changes the number by what goes and what comes.
-/

import Mathlib.Algebra.BigOperators.Group.Finset.Piecewise
import Mathlib.Data.Fintype.Card

open Function

namespace Counting

variable {Index Value : Type*} [Fintype Index] {Counted : Value → Prop} [DecidablePred Counted]
  {family other : Index → Value}

/-- How many members of a family are counted. -/
def count (Counted : Value → Prop) [DecidablePred Counted] (family : Index → Value) : Nat :=
  (Finset.univ.filter fun index => Counted (family index)).card

theorem count_congr (same : ∀ index, Counted (other index) ↔ Counted (family index)) :
    count Counted other = count Counted family := by
  unfold count
  congr 1
  ext index
  rw [Finset.mem_filter, Finset.mem_filter, same]

theorem count_eq_zero (none : ∀ index, ¬ Counted (family index)) : count Counted family = 0 := by
  rw [count, Finset.card_eq_zero, Finset.filter_eq_empty_iff]
  exact fun index _ => none index

/-- Some member is not counted exactly when fewer are than there are members. -/
theorem count_lt_card_iff :
    count Counted family < Fintype.card Index ↔ ∃ index, ¬ Counted (family index) := by
  rw [count, (Finset.card_le_univ _).lt_iff_ne, Ne, Finset.card_eq_iff_eq_univ,
    Finset.filter_eq_self, not_forall]
  exact exists_congr fun index => not_congr (forall_prop_of_true (Finset.mem_univ index))

section Update

variable [DecidableEq Index] {index : Index} {value : Value}

/-- What is counted after a change, with what goes, is what was counted, with what comes. -/
theorem count_update :
    count Counted (update family index value) + (if Counted (family index) then 1 else 0) =
      count Counted family + (if Counted value then 1 else 0) := by
  simp only [count, Finset.card_filter]
  have apart : ∀ other ∈ Finset.univ.erase index,
      (if Counted (update family index value other) then 1 else 0) =
        if Counted (family other) then 1 else 0 := by
    intro other member
    rw [update_of_ne (Finset.ne_of_mem_erase member)]
  rw [← Finset.add_sum_erase _ _ (Finset.mem_univ index), Finset.sum_congr rfl apart,
    ← Finset.add_sum_erase Finset.univ (fun index => if Counted (family index) then 1 else 0)
      (Finset.mem_univ index), update_self]
  ac_rfl

theorem count_update_of_comes (before : ¬ Counted (family index)) (after : Counted value) :
    count Counted (update family index value) = count Counted family + 1 := by
  have changed := @count_update _ _ _ Counted _ family _ index value
  rwa [if_neg before, if_pos after] at changed

theorem count_update_of_goes (before : Counted (family index)) (after : ¬ Counted value) :
    count Counted (update family index value) + 1 = count Counted family := by
  have changed := @count_update _ _ _ Counted _ family _ index value
  rwa [if_pos before, if_neg after] at changed

theorem count_update_of_same (same : Counted value ↔ Counted (family index)) :
    count Counted (update family index value) = count Counted family := by
  refine count_congr fun other => ?_
  rcases eq_or_ne other index with rfl | different
  · rw [update_self, same]
  · rw [update_of_ne different]

end Update

end Counting

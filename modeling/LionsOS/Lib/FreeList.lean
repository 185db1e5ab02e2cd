/-
This file is about free lists: nodes of a pool that are linked through the pool
itself, the last of them to nothing. Taking the first node and putting a node back
change the list at its front, and nothing that is not in the list can be taken.
-/

import Mathlib.Data.List.FinRange
import Mathlib.Data.List.Nodup
import Mathlib.Logic.Function.Basic

namespace FreeList

variable {Node : Type*} {next other : Node → Option Node} {first : Option Node} {nodes : List Node}
  {node : Node} {count : Nat}

/-- The nodes that are met from the first one on. -/
inductive Listed (next : Node → Option Node) : Option Node → List Node → Prop
  | nil : Listed next none []
  | cons {node : Node} {rest : List Node} (listed : Listed next (next node) rest) :
      Listed next (some node) (node :: rest)

/-- Only the links of the listed nodes matter. -/
theorem Listed.congr (listed : Listed next first nodes)
    (same : ∀ node ∈ nodes, other node = next node) : Listed other first nodes := by
  induction listed with
  | nil => exact nil
  | cons _ inductionHypothesis =>
    refine cons ?_
    rw [same _ List.mem_cons_self]
    exact inductionHypothesis fun later member => same later (List.mem_cons_of_mem _ member)

/-- The first node is taken from the front. -/
theorem Listed.take {node : Node} (listed : Listed next (some node) nodes) :
    ∃ rest, nodes = node :: rest ∧ Listed next (next node) rest := by
  cases listed with
  | cons listed => exact ⟨_, rfl, listed⟩

theorem Listed.eq_nil (listed : Listed next none nodes) : nodes = [] := by
  cases listed with
  | nil => rfl

/-- There is only one list. -/
theorem Listed.unique {nodes' : List Node} (listed : Listed next first nodes)
    (listed' : Listed next first nodes') : nodes = nodes' := by
  induction listed generalizing nodes' with
  | nil => exact listed'.eq_nil.symm
  | cons _ inductionHypothesis =>
    obtain ⟨rest, rfl, restListed⟩ := listed'.take
    rw [inductionHypothesis restListed]

/-- A node that is linked to the old front becomes the front. -/
theorem Listed.put [DecidableEq Node] (listed : Listed next first nodes) (outside : node ∉ nodes) :
    Listed (Function.update next node first) (some node) (node :: nodes) := by
  refine cons ?_
  rw [Function.update_self]
  exact listed.congr fun later member =>
    Function.update_of_ne (ne_of_mem_of_not_mem member outside) _ _

/-- Nodes in a row that are each linked to the next one, from any of them on. -/
theorem listed_drop_finRange {next : Fin count → Option (Fin count)}
    (links : ∀ node : Fin count,
      next node = if more : node.val + 1 < count then some ⟨node.val + 1, more⟩ else none)
    {start : Nat} (inside : start ≤ count) :
    Listed next (if more : start < count then some ⟨start, more⟩ else none)
      ((List.finRange count).drop start) := by
  induction inside using Nat.decreasingInduction with
  | self =>
    rw [dif_neg (Nat.lt_irrefl count), List.drop_eq_nil_of_le (List.length_finRange).le]
    exact .nil
  | of_succ start inside inductionHypothesis =>
    have here : start < (List.finRange count).length := by
      rw [List.length_finRange]
      exact inside
    rw [dif_pos inside, List.drop_eq_getElem_cons here, List.getElem_finRange]
    refine .cons ?_
    rw [links]
    exact inductionHypothesis

/-- All nodes in a row, from the first. -/
theorem listed_finRange (next : Fin count → Option (Fin count))
    (links : ∀ node : Fin count,
      next node = if more : node.val + 1 < count then some ⟨node.val + 1, more⟩ else none)
    (some : 0 < count) : Listed next (Option.some ⟨0, some⟩) (List.finRange count) := by
  have listed := listed_drop_finRange links (Nat.zero_le count)
  rw [dif_pos some] at listed
  exact listed

end FreeList

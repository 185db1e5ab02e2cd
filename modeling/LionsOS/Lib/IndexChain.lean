/-
This file is about lists threaded through an index array: a link function says
where each node points, and a chain is the list of nodes met from a start. The
link of a chain's last node is left open, so an array that never clears it can
still be described. Writing one link extends a chain or unlinks a node from its
middle; reversing the roles of the two link functions gives the back links of a
doubly linked list.
-/

import Mathlib.Data.List.Nodup
import Mathlib.Logic.Function.Basic

namespace IndexChain

open List

variable {link other : Nat → Nat} {start : Nat} {nodes : List Nat} {first : List Nat} {last : Nat}

/-- The nodes met from `start` by following links are `nodes`. -/
def Chain (link : Nat → Nat) : Nat → List Nat → Prop
  | _, [] => True
  | start, node :: rest => start = node ∧ Chain link (link node) rest

/-- Where the last link of a chain points. -/
def beyond (link : Nat → Nat) : Nat → List Nat → Nat
  | start, [] => start
  | _, node :: rest => beyond link (link node) rest

/-- The first `n` nodes met from `start`. -/
def walk (link : Nat → Nat) : Nat → Nat → List Nat
  | 0, _ => []
  | n + 1, start => start :: walk link n (link start)

theorem Chain.walk_eq (chain : Chain link start nodes) : walk link nodes.length start = nodes := by
  induction nodes generalizing start with
  | nil => rfl
  | cons node rest inductionHypothesis =>
    obtain ⟨rfl, chain⟩ := chain
    rw [length_cons, walk, inductionHypothesis chain]

theorem chain_append {second : List Nat} :
    Chain link start (first ++ second) ↔
      Chain link start first ∧ Chain link (beyond link start first) second := by
  induction first generalizing start with
  | nil => exact (true_and _).to_iff.symm
  | cons node rest inductionHypothesis =>
    rw [cons_append, Chain, Chain, beyond, inductionHypothesis, and_assoc]

theorem beyond_append (first second : List Nat) :
    beyond link start (first ++ second) = beyond link (beyond link start first) second := by
  induction first generalizing start with
  | nil => rfl
  | cons node rest inductionHypothesis => exact inductionHypothesis

theorem beyond_concat (first : List Nat) (last : Nat) :
    beyond link start (first ++ [last]) = link last := by
  rw [beyond_append]
  rfl

theorem chain_concat :
    Chain link start (first ++ [last]) ↔ Chain link start first ∧ beyond link start first = last := by
  rw [chain_append, Chain, Chain, and_true]

/-- A chain does not depend on the link of its last node. -/
theorem Chain.congr_dropLast (chain : Chain link start nodes)
    (same : ∀ node ∈ nodes.dropLast, other node = link node) : Chain other start nodes := by
  induction nodes generalizing start with
  | nil => trivial
  | cons node rest inductionHypothesis =>
    obtain ⟨rfl, chain⟩ := chain
    cases rest with
    | nil => exact ⟨rfl, trivial⟩
    | cons second rest =>
      refine ⟨rfl, ?_⟩
      rw [same start mem_cons_self]
      exact inductionHypothesis chain fun node member => same node (mem_cons_of_mem _ member)

theorem Chain.congr (chain : Chain link start nodes)
    (same : ∀ node ∈ nodes, other node = link node) : Chain other start nodes :=
  chain.congr_dropLast fun node member => same node ((dropLast_sublist _).subset member)

theorem Chain.update (chain : Chain link start nodes) {node : Nat} (outside : node ∉ nodes)
    (target : Nat) : Chain (Function.update link node target) start nodes :=
  chain.congr fun _ member => Function.update_of_ne (ne_of_mem_of_not_mem member outside) _ _

/-- Pointing the last node at a new one appends it. -/
theorem Chain.extend (chain : Chain link start (first ++ [last]))
    (distinct : (first ++ [last]).Nodup) (new : Nat) :
    Chain (Function.update link last new) start (first ++ [last] ++ [new]) := by
  have outside : last ∉ first := by
    rw [← concat_eq_append, nodup_concat] at distinct
    exact distinct.1
  rw [chain_concat]
  constructor
  · refine chain.congr_dropLast fun node member => ?_
    rw [dropLast_concat] at member
    exact Function.update_of_ne (ne_of_mem_of_not_mem member outside) _ _
  · rw [beyond_concat, Function.update_self]

/-- Pointing the node before at the node after unlinks a node. -/
theorem Chain.unlink {before after : List Nat} {previous node : Nat}
    (chain : Chain link start (before ++ [previous] ++ node :: after))
    (distinct : (before ++ [previous] ++ node :: after).Nodup) :
    Chain (Function.update link previous (link node)) start (before ++ [previous] ++ after) := by
  rw [chain_append] at chain ⊢
  obtain ⟨first, _, rest⟩ := chain
  rw [append_assoc, singleton_append, nodup_middle, nodup_cons] at distinct
  have apart : previous ∉ before ∧ previous ∉ after := by
    simp only [mem_append, mem_cons, not_or] at distinct
    exact ⟨distinct.1.1, distinct.1.2.2⟩
  refine ⟨first.congr_dropLast fun other member => ?_, ?_⟩
  · rw [dropLast_concat] at member
    exact Function.update_of_ne (ne_of_mem_of_not_mem member apart.1) _ _
  · rw [beyond_concat, Function.update_self]
    exact rest.update apart.2 _

end IndexChain

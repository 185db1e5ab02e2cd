/-
This file embeds the firewall queue of `queue.h` as the list of its outstanding
entries, oldest first. The bound that makes "full" and "length equals the
capacity" the same is a field, so no operation can build a queue that breaks it.
-/

import LionsOS.Firewall.Common

namespace LionsOS.Firewall

variable {Entry : Type}

variable {entry : Entry}

/-- The outstanding entries of a queue of a fixed capacity, oldest first. -/
@[ext]
structure FwQueue (Entry : Type) where
  entries : List Entry
  capacity : Nat
  bounded : entries.length ≤ capacity

variable {queue : FwQueue Entry}

namespace FwQueue

def empty (capacity : Nat) : FwQueue Entry :=
  { entries := [], capacity, bounded := Nat.zero_le capacity }

end FwQueue

def fwQueueEmpty (queue : FwQueue Entry) : Bool :=
  queue.entries.isEmpty

def fwQueueFull (queue : FwQueue Entry) : Bool :=
  queue.entries.length == queue.capacity

theorem fwQueueFull_eq_false :
    fwQueueFull queue = false ↔ queue.entries.length < queue.capacity := by
  have bounded := queue.bounded
  rw [fwQueueFull, beq_eq_false_iff_ne]
  exact ⟨fun different => Nat.lt_of_le_of_ne bounded different, Nat.ne_of_lt⟩

/-- Enqueue an entry, or fail on a full queue. -/
def fwEnqueue (queue : FwQueue Entry) (entry : Entry) : Option (FwQueue Entry) :=
  if room : queue.entries.length < queue.capacity then
    some { entries := queue.entries ++ [entry], capacity := queue.capacity,
           bounded := by rw [List.length_append]; exact room }
  else none

/-- Dequeue the oldest entry, or fail on an empty queue. -/
def fwDequeue (queue : FwQueue Entry) : Option (Entry × FwQueue Entry) :=
  match outstanding : queue.entries with
  | [] => none
  | entry :: rest =>
    some (entry, { entries := rest, capacity := queue.capacity,
                   bounded := by
                     have bounded := queue.bounded
                     rw [outstanding] at bounded
                     exact Nat.le_of_succ_le bounded })

/-- Enqueue where the caller ignores a failure. -/
def fwEnqueueOrDrop (queue : FwQueue Entry) (entry : Entry) : FwQueue Entry :=
  (fwEnqueue queue entry).getD queue

theorem fwEnqueue_eq_none :
    fwEnqueue queue entry = none ↔ queue.entries.length = queue.capacity := by
  have bounded := queue.bounded
  unfold fwEnqueue
  split
  case isTrue room => exact iff_of_false (by simp) (Nat.ne_of_lt room)
  case isFalse full => exact iff_of_true rfl (Nat.le_antisymm bounded (Nat.not_lt.mp full))

theorem fwEnqueue_eq_some {next : FwQueue Entry} :
    fwEnqueue queue entry = some next ↔
      next.entries = queue.entries ++ [entry] ∧ next.capacity = queue.capacity := by
  have nextBounded := next.bounded
  unfold fwEnqueue
  split
  case isTrue room =>
    rw [Option.some.injEq, FwQueue.ext_iff, eq_comm, @eq_comm _ queue.capacity]
  case isFalse full =>
    refine iff_of_false (by simp) fun same => full ?_
    rw [same.1, same.2, List.length_append] at nextBounded
    exact nextBounded

theorem fwDequeue_eq_some {next : FwQueue Entry} :
    fwDequeue queue = some (entry, next) ↔
      queue.entries = entry :: next.entries ∧ next.capacity = queue.capacity := by
  unfold fwDequeue
  split
  case h_1 outstanding =>
    rw [outstanding]
    exact iff_of_false (by simp) (by simp)
  case h_2 first rest outstanding =>
    rw [Option.some.injEq, Prod.mk.injEq, FwQueue.ext_iff]
    constructor
    · rintro ⟨rfl, rest, capacity⟩
      exact ⟨rest ▸ outstanding, capacity.symm⟩
    · rintro ⟨split, capacity⟩
      rw [outstanding, List.cons.injEq] at split
      exact ⟨split.1, split.2, capacity.symm⟩

theorem fwDequeue_eq_none : fwDequeue queue = none ↔ queue.entries = [] := by
  unfold fwDequeue
  split
  case h_1 outstanding => exact iff_of_true rfl outstanding
  case h_2 first rest outstanding =>
    exact iff_of_false (by simp) (by simp [outstanding])

/-- The entry is appended, unless the queue was full. -/
theorem fwEnqueueOrDrop_cases (queue : FwQueue Entry) (entry : Entry) :
    (fwEnqueueOrDrop queue entry = queue ∧ queue.entries.length = queue.capacity) ∨
      (fwEnqueueOrDrop queue entry).entries = queue.entries ++ [entry] ∧
        (fwEnqueueOrDrop queue entry).capacity = queue.capacity := by
  unfold fwEnqueueOrDrop
  cases result : fwEnqueue queue entry with
  | none => exact Or.inl ⟨rfl, fwEnqueue_eq_none.mp result⟩
  | some next => exact Or.inr (fwEnqueue_eq_some.mp result)

end LionsOS.Firewall

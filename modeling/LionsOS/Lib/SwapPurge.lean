/-
This file is about purging an unordered table in place. The scan keeps an
index; an entry to be purged is overwritten by the last entry and the table is
shortened, without moving the index, so the entry moved in is tested next.
Each round either advances the index or shortens the table, so the scan takes
exactly as many rounds as there are entries. `Scans` is the loop with no bound
on its rounds: a derivation of it is a scan that ends, and every scan does.
-/

import Mathlib.Data.List.Perm.Basic
import Mathlib.Tactic.SplitIfs

namespace SwapPurge

open List

variable {Entry : Type*} {index : Nat}

variable {purged : Entry → Bool} {table : List Entry}

/-- Overwrite entry `index` by the last entry and drop the last. -/
def swapLast (table : List Entry) (index : Nat) : List Entry :=
  match table.getLast? with
  | some last => (table.set index last).dropLast
  | none => table

/-- `rounds` rounds of the scan from `index`. -/
def scan (purged : Entry → Bool) : Nat → List Entry → Nat → List Entry
  | 0, table, _ => table
  | rounds + 1, table, index =>
    match table[index]? with
    | none => table
    | some entry =>
      if purged entry then scan purged rounds (swapLast table index) index
      else scan purged rounds table (index + 1)

/-- The whole scan. -/
def purge (purged : Entry → Bool) (table : List Entry) : List Entry :=
  scan purged table.length table 0

theorem swapLast_append (before rest : List Entry) (entry : Entry) :
    ∃ moved, swapLast (before ++ entry :: rest) before.length = before ++ moved ∧
      moved.Perm rest := by
  rcases eq_nil_or_concat rest with rfl | ⟨middle, last, rfl⟩
  · simp [swapLast, getLast?_append]
  · refine ⟨last :: middle, ?_, ?_⟩
    · have overwritten : ((before ++ entry :: middle) ++ [last]).set before.length last =
          (before ++ last :: middle) ++ [last] := by
        simp
      rw [concat_eq_append, swapLast, ← cons_append, ← append_assoc, getLast?_concat]
      dsimp only
      rw [overwritten, dropLast_concat]
    · rw [concat_eq_append]
      exact (perm_append_singleton last middle).symm

/-- After a prefix without purged entries, enough rounds leave the prefix followed by the
entries of the rest that are not purged, in some order. -/
theorem scan_append (purged : Entry → Bool) (rest : List Entry) :
    ∀ before : List Entry, ∃ kept, scan purged rest.length (before ++ rest) before.length =
      before ++ kept ∧ kept.Perm (rest.filter fun entry => !purged entry) := by
  induction length : rest.length generalizing rest with
  | zero =>
    intro before
    have empty : rest = [] := length_eq_zero_iff.mp length
    exact ⟨[], by simp [scan, empty], by simp [empty]⟩
  | succ rounds inductionHypothesis =>
    intro before
    obtain ⟨entry, tail, rfl⟩ := exists_cons_of_length_eq_add_one length
    have tailLength : tail.length = rounds := by simpa using length
    have head : (before ++ entry :: tail)[before.length]? = some entry := by simp
    rw [scan, head]
    dsimp only
    by_cases drop : purged entry
    · obtain ⟨moved, swapped, permuted⟩ := swapLast_append before tail entry
      obtain ⟨kept, result, keptPerm⟩ :=
        inductionHypothesis moved (permuted.length_eq.trans tailLength) before
      refine ⟨kept, ?_, ?_⟩
      · rw [if_pos drop, swapped, result]
      · rw [filter_cons_of_neg (by simpa using drop)]
        exact keptPerm.trans (permuted.filter _)
    · obtain ⟨kept, result, keptPerm⟩ := inductionHypothesis tail tailLength (before ++ [entry])
      refine ⟨entry :: kept, ?_, ?_⟩
      · rw [if_neg drop]
        simpa using result
      · rw [filter_cons_of_pos (by simpa using drop)]
        exact keptPerm.cons entry

/-- A purge keeps exactly the entries that are not purged, with their multiplicities. -/
theorem purge_perm (purged : Entry → Bool) (table : List Entry) :
    (purge purged table).Perm (table.filter fun entry => !purged entry) := by
  obtain ⟨kept, result, permuted⟩ := scan_append purged table []
  rw [purge]
  simp only [nil_append, length_nil] at result
  rw [result]
  exact permuted

/-! ### The unbounded loop -/

/-- The scan from an index ends with a table. -/
inductive Scans (purged : Entry → Bool) : List Entry → Nat → List Entry → Prop
  | finished {table : List Entry} {index : Nat} (outside : table.length ≤ index) :
    Scans purged table index table
  | kept {table result : List Entry} {index : Nat} {entry : Entry}
    (here : table[index]? = some entry) (keep : purged entry = false)
    (others : Scans purged table (index + 1) result) : Scans purged table index result
  | purged {table result : List Entry} {index : Nat} {entry : Entry}
    (here : table[index]? = some entry) (drop : purged entry = true)
    (others : Scans purged (swapLast table index) index result) : Scans purged table index result

theorem Scans.unique {first second : List Entry} (scans : Scans purged table index first)
    (others : Scans purged table index second) : first = second := by
  induction scans with
  | finished outside =>
    cases others with
    | finished _ => rfl
    | kept here _ _ | purged here _ _ => rw [getElem?_eq_none outside] at here; cases here
  | kept here keep _ inductionHypothesis =>
    cases others with
    | finished outside => rw [getElem?_eq_none outside] at here; cases here
    | kept _ _ rest => exact inductionHypothesis rest
    | purged here' drop _ =>
      rw [here, Option.some.injEq] at here'
      rw [here', drop] at keep
      cases keep
  | purged here drop _ inductionHypothesis =>
    cases others with
    | finished outside => rw [getElem?_eq_none outside] at here; cases here
    | kept here' keep _ =>
      rw [here, Option.some.injEq] at here'
      rw [here', keep] at drop
      cases drop
    | purged _ _ rest => exact inductionHypothesis rest

theorem swapLast_length (inside : index < table.length) :
    (swapLast table index).length + 1 = table.length := by
  unfold swapLast
  cases last : table.getLast? with
  | none =>
    rw [getLast?_eq_none_iff.mp last] at inside
    exact absurd inside (Nat.not_lt_zero _)
  | some _ =>
    rw [length_dropLast, length_set]
    omega

/-- Whatever the table and the index, the scan ends, within as many rounds as entries are
left. -/
theorem scans_scan (purged : Entry → Bool) (rounds : Nat) (table : List Entry) (index : Nat)
    (enough : table.length ≤ index + rounds) :
    Scans purged table index (scan purged rounds table index) := by
  induction rounds generalizing table index with
  | zero => exact Scans.finished enough
  | succ rounds inductionHypothesis =>
    rw [scan]
    cases here : table[index]? with
    | none => exact Scans.finished (List.getElem?_eq_none_iff.mp here)
    | some entry =>
      have inside : index < table.length := (List.getElem?_eq_some_iff.mp here).1
      dsimp only
      split_ifs with drop
      · have shorter := swapLast_length inside
        exact Scans.purged here drop (inductionHypothesis _ index (by omega))
      · exact Scans.kept here (by simpa using drop) (inductionHypothesis table _ (by omega))

theorem scans_purge (purged : Entry → Bool) (table : List Entry) :
    Scans purged table 0 (purge purged table) :=
  scans_scan purged table.length table 0 (Nat.le_add_left _ _)

/-- A purge of nothing leaves the table in its order. -/
theorem purge_of_none (none : ∀ entry ∈ table, purged entry = false) :
    purge purged table = table := by
  have untouched : ∀ left index, left = table.length - index → Scans purged table index table := by
    intro left
    induction left with
    | zero => exact fun index outside => Scans.finished (by omega)
    | succ left inductionHypothesis =>
      intro index inside
      have here : table[index]? = some table[index] := getElem?_eq_getElem (by omega)
      exact Scans.kept here (none _ (mem_of_getElem? here))
        (inductionHypothesis (index + 1) (by omega))
  exact (scans_purge purged table).unique (untouched table.length 0 rfl)

/-! ### What is left -/

theorem mem_purge {entry : Entry} :
    entry ∈ purge purged table ↔ entry ∈ table ∧ purged entry = false := by
  rw [(purge_perm purged table).mem_iff, mem_filter, Bool.not_eq_true']

end SwapPurge

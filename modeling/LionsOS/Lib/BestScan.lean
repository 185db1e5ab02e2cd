/-
This file is about scans for the best of the entries that hit. A scan keeps the
best entry so far. One that replaces it only by a strictly higher rank ends on
the first of the highest hits; one that keeps it only against a strictly lower
rank ends on the last of them.
-/

import Mathlib.Data.List.Induction
import Mathlib.Order.Lattice

namespace BestScan

open List

variable {Entry Rank : Type*} [LinearOrder Rank] {hits : Entry → Bool} {rank : Entry → Rank}
  {entries : List Entry}

/-- The scan from `start` that replaces the best entry by a hit that ranks above it. -/
def firstBest (hits : Entry → Bool) (rank : Entry → Rank) (start : Entry) (entries : List Entry) :
    Entry :=
  entries.foldl (fun best entry =>
    if hits entry = true ∧ rank best < rank entry then entry else best) start

/-- The scan that replaces the best entry by a hit that does not rank below it. -/
def lastBest (hits : Entry → Bool) (rank : Entry → Rank) (entries : List Entry) : Option Entry :=
  entries.foldl (fun found entry =>
    if hits entry = true then
      match found with
      | some best => if rank entry < rank best then found else some entry
      | none => some entry
    else found) none

/-- An entry that hits, and that no hit ranks above. -/
structure Best (hits : Entry → Bool) (rank : Entry → Rank) (entries : List Entry) (best : Entry) :
    Prop where
  member : best ∈ entries
  hit : hits best = true
  greatest : ∀ entry ∈ entries, hits entry = true → rank entry ≤ rank best

/-- The first of the highest hits: the hits before it rank below it. -/
structure First (hits : Entry → Bool) (rank : Entry → Rank) (entries : List Entry) (best : Entry) :
    Prop extends Best hits rank entries best where
  first : ∃ before after, entries = before ++ best :: after ∧
    ∀ entry ∈ before, hits entry = true → rank entry < rank best

theorem firstBest_concat (start : Entry) (entries : List Entry) (entry : Entry) :
    firstBest hits rank start (entries ++ [entry]) =
      if hits entry = true ∧ rank (firstBest hits rank start entries) < rank entry then entry
      else firstBest hits rank start entries := by
  rw [firstBest, foldl_append]
  rfl

theorem lastBest_concat (entries : List Entry) (entry : Entry) :
    lastBest hits rank (entries ++ [entry]) =
      if hits entry = true then
        match lastBest hits rank entries with
        | some best =>
          if rank entry < rank best then lastBest hits rank entries else some entry
        | none => some entry
      else lastBest hits rank entries := by
  rw [lastBest, foldl_append]
  rfl

/-- A scan from an entry that hits ends on the first of the highest hits. -/
theorem firstBest_first {start : Entry} (hitsStart : hits start = true) (entries : List Entry) :
    First hits rank (start :: entries) (firstBest hits rank start entries) := by
  induction entries using reverseRecOn with
  | nil =>
    refine ⟨⟨mem_singleton_self start, hitsStart, ?_⟩, [], [], rfl, by simp⟩
    intro entry member _
    rw [mem_singleton.mp member]
    exact le_refl _
  | append_singleton entries last inductionHypothesis =>
    rw [firstBest_concat, ← cons_append]
    obtain ⟨⟨member, hit, greatest⟩, before, after, split, below⟩ := inductionHypothesis
    by_cases replaces : hits last = true ∧ rank (firstBest hits rank start entries) < rank last
    · rw [if_pos replaces]
      have all : ∀ entry ∈ start :: entries, hits entry = true → rank entry < rank last :=
        fun entry old hitsEntry => lt_of_le_of_lt (greatest entry old hitsEntry) replaces.2
      refine ⟨⟨mem_append_right _ (mem_singleton_self last), replaces.1, ?_⟩,
        start :: entries, [], rfl, all⟩
      intro entry scanned hitsEntry
      rcases mem_append.mp scanned with old | new
      · exact (all entry old hitsEntry).le
      · rw [mem_singleton.mp new]
    · rw [if_neg replaces]
      refine ⟨⟨mem_append_left _ member, hit, ?_⟩, before, after ++ [last], ?_, below⟩
      · intro entry scanned hitsEntry
        rcases mem_append.mp scanned with old | new
        · exact greatest entry old hitsEntry
        · rw [mem_singleton.mp new] at hitsEntry ⊢
          exact le_of_not_gt fun above => replaces ⟨hitsEntry, above⟩
      · rw [split, append_assoc, cons_append]

/-- The scan finds nothing exactly when no entry hits. -/
theorem lastBest_eq_none :
    lastBest hits rank entries = none ↔ ∀ entry ∈ entries, hits entry = false := by
  induction entries using reverseRecOn with
  | nil => simp [lastBest]
  | append_singleton entries last inductionHypothesis =>
    rw [lastBest_concat]
    by_cases hitsLast : hits last = true
    · rw [if_pos hitsLast]
      refine iff_of_false ?_ fun none => ?_
      · cases lastBest hits rank entries with
        | none => exact Option.some_ne_none _
        | some best =>
          dsimp only
          split <;> exact Option.some_ne_none _
      · rw [none last (mem_append_right _ (mem_singleton_self last))] at hitsLast
        exact Bool.noConfusion hitsLast
    · rw [if_neg hitsLast, inductionHypothesis, Bool.not_eq_true] at *
      constructor
      · intro none entry scanned
        rcases mem_append.mp scanned with old | new
        · exact none entry old
        · rw [mem_singleton.mp new, hitsLast]
      · exact fun none entry old => none entry (mem_append_left _ old)

/-- What the scan finds is a highest hit. -/
theorem lastBest_best {best : Entry} (found : lastBest hits rank entries = some best) :
    Best hits rank entries best := by
  induction entries using reverseRecOn generalizing best with
  | nil => cases found
  | append_singleton entries last inductionHypothesis =>
    -- Taking one more entry in keeps a highest hit that the entry does not beat.
    have extend : ∀ {best : Entry}, Best hits rank entries best →
        (hits last = true → rank last ≤ rank best) → Best hits rank (entries ++ [last]) best := by
      intro best old notBeaten
      refine ⟨mem_append_left _ old.member, old.hit, ?_⟩
      intro entry scanned hitsEntry
      rcases mem_append.mp scanned with before | new
      · exact old.greatest entry before hitsEntry
      · rw [mem_singleton.mp new] at hitsEntry ⊢
        exact notBeaten hitsEntry
    have replace : hits last = true →
        (∀ entry ∈ entries, hits entry = true → rank entry ≤ rank last) →
        Best hits rank (entries ++ [last]) last := by
      intro hitsLast beats
      refine ⟨mem_append_right _ (mem_singleton_self last), hitsLast, ?_⟩
      intro entry scanned hitsEntry
      rcases mem_append.mp scanned with before | new
      · exact beats entry before hitsEntry
      · rw [mem_singleton.mp new]
    rw [lastBest_concat] at found
    by_cases hitsLast : hits last = true
    · rw [if_pos hitsLast] at found
      cases old : lastBest hits rank entries with
      | none =>
        rw [old, Option.some.injEq] at found
        subst found
        refine replace hitsLast fun entry before hitsEntry => ?_
        rw [lastBest_eq_none.mp old entry before] at hitsEntry
        exact Bool.noConfusion hitsEntry
      | some previous =>
        rw [old] at found
        dsimp only at found
        by_cases lower : rank last < rank previous
        · rw [if_pos lower, Option.some.injEq] at found
          subst found
          exact extend (inductionHypothesis old) fun _ => lower.le
        · rw [if_neg lower, Option.some.injEq] at found
          subst found
          refine replace hitsLast fun entry before hitsEntry => ?_
          exact ((inductionHypothesis old).greatest entry before hitsEntry).trans
            (le_of_not_gt lower)
    · rw [if_neg hitsLast] at found
      exact extend (inductionHypothesis found) fun hit => absurd hit hitsLast

end BestScan

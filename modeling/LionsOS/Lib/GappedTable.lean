/-
This file is about a table of which some slots hold entries and others are gaps,
and about a cursor that finds one entry of it after the other. The cursor tells in
which slot it is, and this is not how many entries it has found; to find that many
entries from the start comes back to where the cursor was only at the two ends.
-/

import Mathlib.Data.List.Basic
import Mathlib.Logic.Function.Iterate

namespace GappedTable

open List

variable {Entry : Type*}

inductive Slot (Entry : Type*) where
  /-- No entry is from here on. -/
  | unused
  | gap
  | entry (entry : Entry)
  deriving DecidableEq

/-- The slot that a cursor is in, and whether it looks there for another entry. -/
structure Cursor where
  slot : Nat
  live : Bool
  deriving DecidableEq

/-- The entries of a table, in order. -/
def entries : List (Slot Entry) → List Entry
  | [] | .unused :: _ => []
  | .gap :: rest => entries rest
  | .entry entry :: rest => entry :: entries rest

/-- The cursor that has passed a slot: it is in the next one, or stays and ends when there is
none. -/
def passed (rest : List (Slot Entry)) (slot : Nat) : Cursor :=
  if rest.isEmpty then ⟨slot, false⟩ else ⟨slot + 1, true⟩

/-- Find the next entry in what is left of a table from a slot on. -/
def find : List (Slot Entry) → Nat → Option Entry × Cursor
  | [], slot | .unused :: _, slot => (none, ⟨slot, false⟩)
  | .entry entry :: rest, slot => (some entry, passed rest slot)
  | .gap :: rest, slot => if rest.isEmpty then (none, ⟨slot, false⟩) else find rest (slot + 1)

namespace Cursor

def start : Cursor := ⟨0, true⟩

def next (table : List (Slot Entry)) (cursor : Cursor) : Option Entry × Cursor :=
  if cursor.live then find (table.drop cursor.slot) cursor.slot else (none, cursor)

/-- The entries that a cursor has still to find. -/
def unread (table : List (Slot Entry)) (cursor : Cursor) : List Entry :=
  if cursor.live then entries (table.drop cursor.slot) else []

/-- Find so many entries. -/
def skip (table : List (Slot Entry)) (count : Nat) (cursor : Cursor) : Cursor :=
  (fun cursor => (cursor.next table).2)^[count] cursor

end Cursor

open Cursor

variable {table rest : List (Slot Entry)} {cursor : Cursor} {slot : Nat}

/-! ### What is found -/

theorem find_fst (rest : List (Slot Entry)) (slot : Nat) :
    (find rest slot).1 = (entries rest).head? := by
  fun_induction find with
  | case1 slot | case2 slot => rfl
  | case3 slot entry rest => rfl
  | case4 slot rest empty => rw [isEmpty_iff.mp empty]; rfl
  | case5 slot rest more inductionHypothesis => exact inductionHypothesis

/-- A cursor that has passed a slot has the entries behind it still to find. -/
theorem unread_passed {first : Slot Entry} (left : table.drop slot = first :: rest) :
    (passed rest slot).unread table = entries rest := by
  have behind : table.drop (slot + 1) = rest := by rw [← tail_drop, left, tail_cons]
  unfold passed
  split
  · rename_i empty
    rw [isEmpty_iff.mp empty]
    rfl
  · rw [unread, if_pos rfl, behind]

theorem unread_find (left : table.drop slot = rest) :
    (find rest slot).2.unread table = (entries rest).tail := by
  fun_induction find with
  | case1 slot | case2 slot => rfl
  | case3 slot entry rest => exact unread_passed left
  | case4 slot rest empty => rw [isEmpty_iff.mp empty]; rfl
  | case5 slot rest more inductionHypothesis =>
    exact inductionHypothesis (by rw [← tail_drop, left, tail_cons])

section

variable (table : List (Slot Entry))

theorem next_fst (cursor : Cursor) : (cursor.next table).1 = (cursor.unread table).head? := by
  unfold Cursor.next unread
  split
  · exact find_fst _ _
  · rfl

theorem unread_next (cursor : Cursor) :
    (cursor.next table).2.unread table = (cursor.unread table).tail := by
  cases live : cursor.live with
  | false => simp only [Cursor.next, unread, live, Bool.false_eq_true, if_false, tail_nil]
  | true =>
    rw [Cursor.next, unread.eq_1 table cursor, live]
    exact unread_find rfl

/-- So many entries are found and no longer to find. -/
theorem unread_skip (count : Nat) (cursor : Cursor) :
    (cursor.skip table count).unread table = (cursor.unread table).drop count := by
  induction count with
  | zero => rfl
  | succ count inductionHypothesis =>
    rw [skip, Function.iterate_succ_apply']
    exact (unread_next _ _).trans (by
      rw [show (fun cursor => (cursor.next table).2)^[count] cursor = cursor.skip table count
        from rfl, inductionHypothesis, tail_drop])

/-! ### Where the cursor is -/

/-- A slot holds at most one entry. -/
theorem length_entries_le (count : Nat) :
    (entries table).length ≤ count + (entries (table.drop count)).length := by
  induction count generalizing table with
  | zero => exact Nat.le_of_eq (by rw [drop_zero, Nat.zero_add])
  | succ count inductionHypothesis =>
    fun_cases entries table with
    | case1 | case2 => exact Nat.zero_le _
    | case3 rest =>
      have others := inductionHypothesis rest
      rw [drop_succ_cons]
      omega
    | case4 entry rest =>
      have others := inductionHypothesis rest
      rw [length_cons, drop_succ_cons]
      omega

theorem length_entries_le_length : (entries table).length ≤ table.length := by
  have all := length_entries_le table table.length
  rwa [drop_length, entries] at all

end

/-- A cursor as it can be: it is in the table, once it has left the first slot it has found
something, and where it has ended no entry is behind its slot. -/
structure Reached (table : List (Slot Entry)) (cursor : Cursor) : Prop where
  within : cursor.slot < table.length
  unread_le : (cursor.unread table).length ≤ (entries table).length
  unread_lt : cursor.live = true → 0 < cursor.slot →
    (cursor.unread table).length < (entries table).length
  ended : cursor.live = false →
    (entries table).length ≤ cursor.slot ∨ table.length ≤ cursor.slot + 1

theorem reached_start (some : 0 < table.length) : Reached table start where
  within := some
  unread_le := Nat.le_refl _
  unread_lt _ left := absurd left (Nat.lt_irrefl 0)
  ended finished := absurd finished Bool.noConfusion

/-- A cursor that is not at the end after an entry was looked for has found it. -/
theorem entries_ne_nil_of_live (live : (find rest slot).2.live = true) : entries rest ≠ [] := by
  fun_induction find with
  | case1 slot | case2 slot => cases live
  | case3 slot entry rest => exact cons_ne_nil _ _
  | case4 slot rest empty => cases live
  | case5 slot rest more inductionHypothesis => exact inductionHypothesis live

theorem ended_of_passed {first : Slot Entry} (left : table.drop slot = first :: rest)
    (finished : (passed rest slot).live = false) : table.length ≤ (passed rest slot).slot + 1 := by
  have length := congrArg length left
  rw [length_drop, length_cons] at length
  unfold passed at finished ⊢
  split at finished
  · rename_i empty
    rw [if_pos empty]
    rw [isEmpty_iff.mp empty, length_nil] at length
    dsimp only
    omega
  · cases finished

/-- Where a cursor has ended no entry is behind its slot. -/
theorem ended_of_find (left : table.drop slot = rest) (finished : (find rest slot).2.live = false) :
    (entries table).length ≤ (find rest slot).2.slot ∨
      table.length ≤ (find rest slot).2.slot + 1 := by
  fun_induction find with
  | case1 slot => exact Or.inr (Nat.le_succ_of_le (drop_eq_nil_iff.mp left))
  | case2 rest slot =>
    have before := length_entries_le table slot
    rw [left] at before
    exact Or.inl before
  | case3 slot entry rest => exact Or.inr (ended_of_passed left finished)
  | case4 slot rest empty =>
    have length := congrArg length left
    rw [isEmpty_iff.mp empty, length_drop, length_singleton] at length
    right
    dsimp only
    omega
  | case5 slot rest more inductionHypothesis =>
    exact inductionHypothesis (by rw [← tail_drop, left, tail_cons]) finished

theorem slot_passed_lt {first : Slot Entry} (left : table.drop slot = first :: rest) :
    (passed rest slot).slot < table.length := by
  have length := congrArg length left
  rw [length_drop, length_cons] at length
  unfold passed
  split
  · dsimp only
    omega
  · rename_i more
    have others := length_pos_iff.mpr (mt isEmpty_iff.mpr more)
    dsimp only
    omega

theorem slot_find_lt (left : table.drop slot = rest) (within : slot < table.length) :
    (find rest slot).2.slot < table.length := by
  fun_induction find with
  | case1 slot | case2 rest slot => exact within
  | case3 slot entry rest => exact slot_passed_lt left
  | case4 slot rest empty => exact within
  | case5 slot rest more inductionHypothesis =>
    have length := congrArg length left
    have others := length_pos_iff.mpr (mt isEmpty_iff.mpr more)
    rw [length_drop, length_cons] at length
    exact inductionHypothesis (by rw [← tail_drop, left, tail_cons]) (by omega)

theorem Reached.next (reached : Reached table cursor) : Reached table (cursor.next table).2 := by
  cases live : cursor.live with
  | false =>
    have same : (cursor.next table).2 = cursor := by
      simp only [Cursor.next, live, Bool.false_eq_true, if_false]
    rw [same]
    exact reached
  | true =>
    have unread := unread_next table cursor
    have found : (cursor.next table).2 = (find (table.drop cursor.slot) cursor.slot).2 := by
      rw [Cursor.next, if_pos live]
    have before := reached.unread_le
    constructor
    · rw [found]
      exact slot_find_lt rfl reached.within
    · rw [unread, length_tail]
      exact Nat.le_trans (Nat.sub_le _ _) before
    · intro still _
      rw [found] at still
      have some := length_pos_iff.mpr (entries_ne_nil_of_live still)
      have here : cursor.unread table = entries (table.drop cursor.slot) := if_pos live
      rw [unread, length_tail]
      rw [← here] at some
      omega
    · intro finished
      rw [found] at finished ⊢
      exact ended_of_find rfl finished

/-! ### Coming back -/

section

variable (reached : Reached table cursor) {unit : Nat} (several : 2 ≤ unit)
  (long : 2 ≤ table.length)
include reached several long

/-- A cursor that has nothing left to find tells at least as many as all entries. -/
theorem Reached.length_le (nothing : cursor.unread table = []) :
    (entries table).length ≤ unit * cursor.slot := by
  have scaled := Nat.mul_le_mul_right cursor.slot several
  cases live : cursor.live with
  | true =>
    have here : cursor.unread table = entries (table.drop cursor.slot) := if_pos live
    have before := length_entries_le table cursor.slot
    rw [← here, nothing, length_nil] at before
    omega
  | false =>
    have all := length_entries_le_length table
    rcases reached.ended live with before | last <;> omega

/-- To leave out as many entries as the cursor tells, in units of which a slot has several, leaves
what it has still to find exactly if it has found none or all of them. -/
theorem Reached.drop_eq_iff :
    (entries table).drop (unit * cursor.slot) = cursor.unread table ↔
      cursor.unread table = entries table ∨ cursor.unread table = [] := by
  have scaled := Nat.mul_le_mul_right cursor.slot several
  rcases eq_or_ne (cursor.unread table) [] with nothing | something
  · refine iff_of_true ?_ (Or.inr nothing)
    rw [nothing, drop_eq_nil_iff]
    exact reached.length_le several long nothing
  · have live : cursor.live = true := by
      by_contra finished
      exact something (if_neg finished)
    have here : cursor.unread table = entries (table.drop cursor.slot) := if_pos live
    constructor
    · intro same
      have before := length_entries_le table cursor.slot
      have some := length_pos_iff.mpr something
      have lengths := congrArg length same
      rw [length_drop] at lengths
      rw [← here] at before
      have first : cursor.slot = 0 := by omega
      rw [here, first]
      exact Or.inl rfl
    · rintro (all | nothing)
      · have first : cursor.slot = 0 := by
          by_contra left
          have fewer := reached.unread_lt live (Nat.pos_of_ne_zero left)
          rw [all] at fewer
          exact Nat.lt_irrefl _ fewer
        rw [first, Nat.mul_zero, drop_zero, all]
      · exact absurd nothing something

end

end GappedTable

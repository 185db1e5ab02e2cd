/-
This file is about finite maps from keys to queues that are not empty: an item
is appended to the queue of its key, which starts one where there was none, and
a key is dropped with its queue. A list of entries lists such a map when it
names every entry once, in any order; appending and dropping then act on one
entry of the list.
-/

import Mathlib.Data.Finmap
import Mathlib.Algebra.BigOperators.Group.Multiset.Defs
import Mathlib.Algebra.GroupWithZero.Nat

variable {Key Item : Type*}

/-- A finite map from keys to queues of at least one item, oldest first. -/
abbrev KeyedQueues (Key Item : Type*) := Finmap fun _ : Key => {items : List Item // items ≠ []}

namespace KeyedQueues

open Finmap Multiset

/-- The number of items in the queues. -/
def stored (queues : KeyedQueues Key Item) : Nat :=
  (queues.entries.map fun entry => entry.2.1.length).sum

/-- The keys with their queues. -/
def pairs (queues : KeyedQueues Key Item) : Multiset (Key × List Item) :=
  queues.entries.map fun entry => (entry.1, entry.2.1)

/-- The list names every entry of the map once. -/
def Lists (queues : KeyedQueues Key Item) (entries : List (Key × List Item)) : Prop :=
  queues.pairs = entries

variable {queues : KeyedQueues Key Item} {entries before after : List (Key × List Item)} {key : Key}
  {items : List Item}

theorem lists_empty : Lists (∅ : KeyedQueues Key Item) [] := rfl

section

variable (lists : Lists queues entries)
include lists

theorem Lists.keys_val : queues.keys.val = (entries.map Prod.fst : List Key) := by
  have keys := congrArg (map Prod.fst) lists
  rw [pairs, map_map] at keys
  exact keys

/-- The list has one entry for each key. -/
theorem Lists.card_keys : queues.keys.card = entries.length := by
  rw [Finset.card_def, lists.keys_val, coe_card, List.length_map]

theorem Lists.mem_iff : key ∈ queues ↔ ∃ entry ∈ entries, entry.1 = key := by
  rw [← mem_keys, Finset.mem_def, lists.keys_val, mem_coe, List.mem_map]

theorem Lists.stored_eq : queues.stored = (entries.map fun entry => entry.2.length).sum := by
  have lengths := congrArg (fun all => (map (fun entry => entry.2.length) all).sum) lists
  simp only [pairs, map_map] at lengths
  exact lengths

end

section Keys

variable [DecidableEq Key]

/-- The items queued for a key, none where it has no queue. -/
def itemsOf (queues : KeyedQueues Key Item) (key : Key) : List Item :=
  ((queues.lookup key).map Subtype.val).getD []

/-- Append an item to the queue of its key. -/
def enqueue (queues : KeyedQueues Key Item) (key : Key) (item : Item) : KeyedQueues Key Item :=
  queues.insert key ⟨queues.itemsOf key ++ [item], List.append_ne_nil_of_right_ne_nil _ (by simp)⟩

/-- Drop a key with its queue. -/
def drop (queues : KeyedQueues Key Item) (key : Key) : KeyedQueues Key Item :=
  queues.erase key

theorem Lists.lookup (lists : Lists queues entries) (member : (key, items) ∈ entries) :
    ∃ nonempty, queues.lookup key = some ⟨items, nonempty⟩ := by
  have member : (key, items) ∈ (entries : Multiset (Key × List Item)) := member
  rw [← lists, pairs, mem_map] at member
  obtain ⟨⟨found, queue, nonempty⟩, inside, same⟩ := member
  cases same
  exact ⟨nonempty, lookup_eq_some_iff.mpr inside⟩

theorem Lists.itemsOf_eq (lists : Lists queues entries) (member : (key, items) ∈ entries) :
    queues.itemsOf key = items := by
  obtain ⟨nonempty, found⟩ := lists.lookup member
  rw [itemsOf, found]
  rfl

theorem pairs_insert_of_notMem (absent : key ∉ queues) (queue : {items : List Item // items ≠ []}) :
    pairs (queues.insert key queue) = (key, queue.1) ::ₘ queues.pairs := by
  rw [pairs, entries_insert_of_notMem absent, map_cons, pairs]

/-- What a key had before does not matter when it gets a queue. -/
theorem pairs_insert (queues : KeyedQueues Key Item) (key : Key)
    (queue : {items : List Item // items ≠ []}) :
    pairs (queues.insert key queue) = (key, queue.1) ::ₘ (queues.drop key).pairs := by
  have same : queues.insert key queue = (queues.drop key).insert key queue := by
    refine ext_lookup fun other => ?_
    by_cases same : other = key
    · rw [same, lookup_insert, lookup_insert]
    · rw [lookup_insert_of_ne _ same, lookup_insert_of_ne _ same, drop, lookup_erase_ne same]
  rw [same]
  exact pairs_insert_of_notMem notMem_erase_self queue

/-- Dropping a key drops its entry. -/
theorem Lists.drop (lists : Lists queues (before ++ (key, items) :: after)) :
    Lists (queues.drop key) (before ++ after) := by
  obtain ⟨nonempty, found⟩ := lists.lookup (List.mem_append_right _ List.mem_cons_self)
  have kept : queues.insert key ⟨items, nonempty⟩ = queues := by
    refine ext_lookup fun other => ?_
    by_cases same : other = key
    · rw [same, found, lookup_insert]
    · rw [lookup_insert_of_ne _ same]
  have whole := pairs_insert queues key ⟨items, nonempty⟩
  rw [kept, lists, coe_eq_coe.mpr List.perm_middle, ← cons_coe, cons_inj_right] at whole
  exact whole.symm

/-- The first item of a key adds an entry. -/
theorem Lists.enqueue_new (lists : Lists queues entries) (absent : key ∉ queues) (item : Item) :
    Lists (queues.enqueue key item) ((key, [item]) :: entries) := by
  have noItems : queues.itemsOf key = [] := by
    rw [itemsOf, lookup_eq_none.mpr absent]
    rfl
  rw [Lists, enqueue, pairs_insert_of_notMem absent, ← cons_coe, lists]
  dsimp only
  rw [noItems, List.nil_append]

/-- A further item of a key goes to the end of its entry. -/
theorem Lists.enqueue_append (lists : Lists queues (before ++ (key, items) :: after))
    (item : Item) :
    Lists (queues.enqueue key item) (before ++ (key, items ++ [item]) :: after) := by
  have queued := lists.itemsOf_eq (List.mem_append_right _ List.mem_cons_self)
  rw [Lists, enqueue, pairs_insert, coe_eq_coe.mpr List.perm_middle, ← cons_coe, lists.drop]
  dsimp only
  rw [queued]

end Keys

end KeyedQueues

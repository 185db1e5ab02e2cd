/-
This file is about the search through a list for the first item that is not
taken, with the items that it looks at on the way. A search that finds
something in the first part of a list does not look at the rest; one that finds
nothing there looks at all of it and goes on.
-/

import Mathlib.Data.List.Basic

namespace LinearSearch

open List

variable {Item : Type*} {taken : Item → Bool} {items first second : List Item}

/-- The items that were looked at, and the one that was found. -/
structure Search (Item : Type*) where
  inspected : List Item
  found : Option Item

/-- Look for the first item that is not taken. -/
def search (taken : Item → Bool) : List Item → Search Item
  | [] => { inspected := [], found := none }
  | item :: rest =>
    if taken item then
      let later := search taken rest
      { later with inspected := item :: later.inspected }
    else { inspected := [item], found := some item }

theorem search_found : (search taken items).found = items.find? fun item => !taken item := by
  induction items with
  | nil => rfl
  | cons item rest inductionHypothesis =>
    rw [search]
    cases status : taken item with
    | false => rw [find?_cons_of_pos (by rw [status]; rfl)]; rfl
    | true =>
      rw [find?_cons_of_neg (by rw [status]; exact Bool.false_ne_true), ← inductionHypothesis]
      rfl

theorem inspected_subset : (search taken items).inspected ⊆ items := by
  induction items with
  | nil => exact List.Subset.refl _
  | cons item rest inductionHypothesis =>
    rw [search]
    split
    · exact cons_subset_cons item inductionHypothesis
    · exact cons_subset_cons item (nil_subset rest)

/-- Where something is found in the first part, the rest is not looked at. -/
theorem search_append_of_free (free : ∃ item ∈ first, taken item = false) :
    search taken (first ++ second) = search taken first := by
  induction first with
  | nil =>
    obtain ⟨_, none, _⟩ := free
    cases none
  | cons item rest inductionHypothesis =>
    rw [cons_append, search, search]
    cases status : taken item with
    | false => rfl
    | true =>
      obtain ⟨other, member, isFree⟩ := free
      rcases mem_cons.mp member with rfl | later
      · rw [status] at isFree
        cases isFree
      · rw [inductionHypothesis ⟨other, later, isFree⟩]

/-- Where all of the first part is taken, the rest is searched. -/
theorem search_append_of_taken (all : ∀ item ∈ first, taken item = true) :
    search taken (first ++ second) =
      { search taken second with inspected := first ++ (search taken second).inspected } := by
  induction first with
  | nil => rfl
  | cons item rest inductionHypothesis =>
    rw [cons_append, search, if_pos (all item mem_cons_self),
      inductionHypothesis fun other member => all other (mem_cons_of_mem _ member)]
    rfl

/-- Where something in the first part is not taken, such an item is found, and nothing behind the
first part is looked at. -/
theorem search_of_free (free : ∃ item ∈ first, taken item = false) :
    ∃ inspected item, search taken (first ++ second) = ⟨inspected, some item⟩ ∧
      inspected ⊆ first ∧ item ∈ first ∧ taken item = false := by
  rw [search_append_of_free free]
  cases found : (search taken first).found with
  | none =>
    obtain ⟨item, member, isFree⟩ := free
    rw [search_found, find?_eq_none] at found
    exact absurd (by rw [isFree]; rfl) (found item member)
  | some item =>
    refine ⟨(search taken first).inspected, item, ?_, inspected_subset, ?_⟩
    · rw [← found]
    · rw [search_found] at found
      exact ⟨mem_of_find?_eq_some found, by simpa using find?_some found⟩

/-- Where all of the first part is taken, what comes behind it is looked at. -/
theorem inspected_of_taken (all : ∀ item ∈ first, taken item = true) (item : Item)
    (rest : List Item) : item ∈ (search taken (first ++ item :: rest)).inspected := by
  rw [search_append_of_taken all]
  refine mem_append_right _ ?_
  rw [search]
  split <;> exact mem_cons_self

/-- Behind a first part that is taken, an item that is not taken is found. -/
theorem search_of_taken (all : ∀ item ∈ first, taken item = true) {item : Item}
    (free : taken item = false) (rest : List Item) :
    search taken (first ++ item :: rest) = ⟨first ++ [item], some item⟩ := by
  rw [search_append_of_taken all, search, if_neg (by rw [free]; exact Bool.false_ne_true)]

end LinearSearch

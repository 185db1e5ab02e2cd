/-
This file is about steps that overwrite a set of places and leave the others
alone, whatever the places held before. What is written may depend on places
that are known, so that such steps can be chained: a later step may use what an
earlier one wrote. After a chain that knew nothing, exactly the places that were
overwritten hold what they hold regardless of what was there before.
-/

import Mathlib.Data.Set.Basic
import Mathlib.Logic.Function.Basic

variable {Place Value : Type*}

/-- The step writes these places, with values that depend on the known places only, and leaves the
others alone. -/
structure Overwrites (known places : Set Place) (step : (Place → Value) → Place → Value) :
    Prop where
  written : ∀ first second, (∀ place ∈ known, first place = second place) →
    ∀ place ∈ places, step first place = step second place
  kept : ∀ store place, place ∉ places → step store place = store place

namespace Overwrites

variable {known needed places others : Set Place} {step next : (Place → Value) → Place → Value}

section

variable (overwrites : Overwrites known places step)
include overwrites

/-- Of stores that agree on the known places, the results agree there and where was written. -/
theorem agree {first second : Place → Value} (same : ∀ place ∈ known, first place = second place)
    {place : Place} (reached : place ∈ known ∪ places) : step first place = step second place := by
  by_cases inside : place ∈ places
  · exact overwrites.written first second same place inside
  · rw [overwrites.kept first place inside, overwrites.kept second place inside]
    exact same place (reached.resolve_right inside)

theorem mono {more : Set Place} (fewer : known ⊆ more) : Overwrites more places step where
  written first second same := overwrites.written first second fun place member =>
    same place (fewer member)
  kept := overwrites.kept

theorem congr (same : places = others) : Overwrites known others step :=
  same ▸ overwrites

end

/-- A step after another may use what was known before and what the other has written. -/
theorem comp (before : Overwrites known places step) (after : Overwrites needed others next)
    (enough : needed ⊆ known ∪ places) :
    Overwrites known (places ∪ others) fun store => next (step store) where
  written first second same place reached := by
    have agreed : ∀ place ∈ needed, step first place = step second place :=
      fun place member => before.agree same (enough member)
    by_cases inside : place ∈ others
    · exact after.written _ _ agreed place inside
    · rw [after.kept _ place inside, after.kept _ place inside]
      exact before.written first second same place (reached.resolve_right inside)
  kept store place outside := by
    rw [after.kept _ place fun inside => outside (Or.inr inside),
      before.kept _ place fun inside => outside (Or.inl inside)]

/-- A step that knows nothing may come after any other. -/
theorem andThen (before : Overwrites known places step) (after : Overwrites ∅ others next) :
    Overwrites known (places ∪ others) fun store => next (step store) :=
  before.comp after (Set.empty_subset _)

/-- Where nothing was known, the places that hold the same whatever was there before are those
that were overwritten. -/
theorem place_determined_iff [Nontrivial Value] (overwrites : Overwrites ∅ places step)
    (place : Place) :
    (∀ first second, step first place = step second place) ↔ place ∈ places := by
  constructor
  · intro determined
    by_contra outside
    obtain ⟨value, other, different⟩ := exists_pair_ne Value
    have same := determined (fun _ => value) fun _ => other
    rw [overwrites.kept _ place outside, overwrites.kept _ place outside] at same
    exact different same
  · intro inside first second
    exact overwrites.written first second (fun _ impossible => absurd impossible id) place inside

end Overwrites

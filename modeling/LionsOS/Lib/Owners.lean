/-
This file is about who holds what of a stock of items. An owner holds at most one
item; what is held is in use, and nobody else holds it. It stays so when an unused
item is taken, when an item passes from one owner to another, and when an owner
gives his item back or forgets it.
-/

import Mathlib.Data.Option.Basic

namespace Owners

variable {Owner Item : Type*}

/-- Whatever an owner holds is in use, and he is the only one to hold it. -/
structure Exclusive (used : Item → Prop) (holds : Owner → Option Item) : Prop where
  used : ∀ owner item, holds owner = some item → used item
  unique : ∀ owner other item, holds owner = some item → holds other = some item → owner = other

variable {used used' : Item → Prop} {holds holds' : Owner → Option Item} {owner other : Owner}
  {item : Item}

/-- Items may be forgotten. -/
theorem Exclusive.forget (exclusive : Exclusive used holds)
    (held : ∀ owner item, holds' owner = some item → holds owner = some item) :
    Exclusive used holds' where
  used := fun owner item holds => exclusive.used owner item (held owner item holds)
  unique := fun owner other item first second =>
    exclusive.unique owner other item (held owner item first) (held other item second)

theorem Exclusive.take (exclusive : Exclusive used holds) (unused : ¬ used item)
    (usedNow : ∀ other, used other ∨ other = item → used' other) (takes : holds' owner = some item)
    (others : ∀ other, other ≠ owner → holds' other = holds other) : Exclusive used' holds' where
  used := by
    intro someone held holdsNow
    by_cases same : someone = owner
    · rw [same, takes] at holdsNow
      exact usedNow held (.inr (Option.some.inj holdsNow).symm)
    · rw [others someone same] at holdsNow
      exact usedNow held (.inl (exclusive.used someone held holdsNow))
  unique := by
    have fresh : ∀ someone, someone ≠ owner → holds' someone ≠ some item := by
      intro someone different holdsNow
      rw [others someone different] at holdsNow
      exact unused (exclusive.used someone item holdsNow)
    intro first second held holdsFirst holdsSecond
    by_cases sameFirst : first = owner <;> by_cases sameSecond : second = owner
    · exact sameFirst.trans sameSecond.symm
    · rw [sameFirst, takes] at holdsFirst
      exact absurd (holdsSecond.trans holdsFirst.symm) (fresh second sameSecond)
    · rw [sameSecond, takes] at holdsSecond
      exact absurd (holdsFirst.trans holdsSecond.symm) (fresh first sameFirst)
    · rw [others first sameFirst] at holdsFirst
      rw [others second sameSecond] at holdsSecond
      exact exclusive.unique first second held holdsFirst holdsSecond

section

variable (exclusive : Exclusive used holds) (held : holds owner = some item)
  (gone : holds' owner = none)
include exclusive held gone

theorem Exclusive.pass (takes : holds' other = some item)
    (others : ∀ someone, someone ≠ owner → someone ≠ other → holds' someone = holds someone) :
    Exclusive used holds' := by
  have before : ∀ someone thing, holds' someone = some thing →
      someone = other ∧ thing = item ∨ someone ≠ owner ∧ someone ≠ other ∧
        holds someone = some thing := by
    intro someone thing holdsNow
    by_cases same : someone = other
    · rw [same, takes] at holdsNow
      exact .inl ⟨same, (Option.some.inj holdsNow).symm⟩
    · have notOwner : someone ≠ owner := by
        rintro rfl
        rw [gone] at holdsNow
        cases holdsNow
      rw [others someone notOwner same] at holdsNow
      exact .inr ⟨notOwner, same, holdsNow⟩
  refine ⟨fun someone thing holdsNow => ?_, fun first second thing holdsFirst holdsSecond => ?_⟩
  · rcases before someone thing holdsNow with ⟨_, rfl⟩ | ⟨_, _, holdsBefore⟩
    · exact exclusive.used owner thing held
    · exact exclusive.used someone thing holdsBefore
  · rcases before first thing holdsFirst with ⟨rfl, rfl⟩ | ⟨notOwner, _, holdsBefore⟩ <;>
      rcases before second thing holdsSecond with ⟨rfl, same⟩ | ⟨notOwner', _, holdsBefore'⟩
    · rfl
    · exact absurd (exclusive.unique _ _ _ holdsBefore' held) notOwner'
    · exact absurd (exclusive.unique _ _ _ (same ▸ holdsBefore) held) notOwner
    · exact exclusive.unique _ _ _ holdsBefore holdsBefore'

theorem Exclusive.giveBack (others : ∀ other, other ≠ owner → holds' other = holds other)
    (usedNow : ∀ other, other ≠ item → used other → used' other) : Exclusive used' holds' := by
  have before : ∀ someone thing, holds' someone = some thing →
      someone ≠ owner ∧ holds someone = some thing := by
    intro someone thing holdsNow
    have notOwner : someone ≠ owner := by
      rintro rfl
      rw [gone] at holdsNow
      cases holdsNow
    exact ⟨notOwner, others someone notOwner ▸ holdsNow⟩
  refine ⟨fun someone thing holdsNow => ?_, fun first second thing holdsFirst holdsSecond => ?_⟩
  · obtain ⟨notOwner, holdsBefore⟩ := before someone thing holdsNow
    refine usedNow thing (fun same => notOwner ?_) (exclusive.used someone thing holdsBefore)
    exact exclusive.unique _ _ _ (same ▸ holdsBefore) held
  · exact exclusive.unique _ _ _ (before _ _ holdsFirst).2 (before _ _ holdsSecond).2

end

end Owners

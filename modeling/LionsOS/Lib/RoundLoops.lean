/-
This file is about loops that are given as one round: what a round makes of the
state, and whether another follows. A run of the loop has a bound on its rounds.
The rules are those of every loop: what the rounds keep holds at the end, a loop
ends whose rounds make a number smaller, and the loop goes on from each state that
it gets to as it goes on from there.
-/

import Mathlib.Logic.Relation

/-- How a round ends. -/
inductive RoundEnd (State : Type*) where
  | goesOn (next : State)
  | ends (final : State)

namespace RoundLoop

variable {State : Type*} {start : State}

/-- The rounds of a loop, `none` if it has not ended after `fuel` of them. -/
def loop (round : State → RoundEnd State) : Nat → State → Option State
  | 0, _ => none
  | fuel + 1, state =>
    match round state with
    | .goesOn next => loop round fuel next
    | .ends final => some final

/-- The loop goes on from one state in another. -/
def GoesOn (round : State → RoundEnd State) (state next : State) : Prop :=
  round state = .goesOn next

/-- The loop gets from one state to another. -/
def GetsTo (round : State → RoundEnd State) : State → State → Prop :=
  Relation.ReflTransGen (GoesOn round)

variable {round : State → RoundEnd State} {state next final : State} {fuel : Nat}

theorem loop_of_goesOn (goesOn : round state = .goesOn next) :
    loop round (fuel + 1) state = loop round fuel next := by
  simp only [loop, goesOn]

theorem loop_of_ends (ends : round state = .ends final) :
    loop round (fuel + 1) state = some final := by
  simp only [loop, ends]

/-- What rounds keep in the states that the loop gets to, holds in each of them. -/
theorem GetsTo.invariant (Inv : State → Prop) (gets : GetsTo round start state)
    (initial : Inv start)
    (kept : ∀ state next, GetsTo round start state → Inv state → GoesOn round state next → Inv next) :
    Inv state := by
  induction gets with
  | refl => exact initial
  | tail before goesOn inductionHypothesis => exact kept _ _ before inductionHypothesis goesOn

/-- The loop ends in a state that its last round makes of one that it gets to. -/
theorem ends_of_loop (returned : loop round fuel start = some final) :
    ∃ state, GetsTo round start state ∧ round state = .ends final := by
  induction fuel generalizing start with
  | zero => cases returned
  | succ fuel inductionHypothesis =>
    cases happens : round start with
    | goesOn next =>
      obtain ⟨state, gets, ends⟩ := inductionHypothesis (loop_of_goesOn happens ▸ returned)
      exact ⟨state, .head happens gets, ends⟩
    | ends final =>
      cases (loop_of_ends happens).symm.trans returned
      exact ⟨start, .refl, happens⟩

/-- If the loop ends, it ends so from each state that it gets to. -/
theorem GetsTo.returned {start : State} (gets : GetsTo round start state)
    (returned : loop round fuel start = some final) :
    ∃ rest, loop round rest state = some final := by
  induction gets with
  | refl => exact ⟨fuel, returned⟩
  | tail _ goesOn inductionHypothesis =>
    obtain ⟨rest, returned⟩ := inductionHypothesis
    cases rest with
    | zero => cases returned
    | succ rest => exact ⟨rest, loop_of_goesOn goesOn ▸ returned⟩

/-- A loop ends whose rounds make a number smaller. -/
theorem loop_returns (Inv : State → Prop) (size : State → Nat) (inv : Inv state)
    (kept : ∀ state next, Inv state → GoesOn round state next →
      Inv next ∧ size next < size state) (enough : size state < fuel) :
    ∃ final, loop round fuel state = some final := by
  induction fuel generalizing state with
  | zero => exact (Nat.not_lt_zero _ enough).elim
  | succ fuel inductionHypothesis =>
    cases happens : round state with
    | goesOn next =>
      obtain ⟨stays, smaller⟩ := kept state next inv happens
      rw [loop_of_goesOn happens]
      exact inductionHypothesis stays (by omega)
    | ends final => exact ⟨final, loop_of_ends happens⟩

end RoundLoop

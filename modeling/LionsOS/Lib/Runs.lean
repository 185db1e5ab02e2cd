/-
This file is about labelled runs of a step relation. A run lists its labels
oldest first and ends in a state; an invariant of the steps is an invariant of
every run. Two restrictions of a relation come up again and again: the steps
taken while a predicate holds on both sides, which is how "ever since" is said,
and the steps whose label and source state meet a condition. When the
condition is exactly what keeps the predicate, the two restrictions have the
same runs.
-/

import Mathlib.Data.List.Basic

namespace StepRun

variable {State Label : Type*}

variable {state : State} {labels : List Label} {other : State → Label → State → Prop}
  {Holds : State → Prop} {Condition : State → Label → Prop}

/-- A finite run of `step` from `start`, with its labels oldest first. -/
inductive Run (step : State → Label → State → Prop) (start : State) :
    List Label → State → Prop
  | nil : Run step start [] start
  | snoc {labels : List Label} {state : State} {label : Label} {next : State}
      (before : Run step start labels state) (last : step state label next) :
      Run step start (labels ++ [label]) next

/-- The steps that both start and end where `Holds`. -/
def Within (Holds : State → Prop) (step : State → Label → State → Prop) (state : State)
    (label : Label) (next : State) : Prop :=
  Holds state ∧ step state label next ∧ Holds next

/-- The steps whose source state and label meet `Condition`. -/
def Guarded (Condition : State → Label → Prop) (step : State → Label → State → Prop)
    (state : State) (label : Label) (next : State) : Prop :=
  Condition state label ∧ step state label next

variable {step : State → Label → State → Prop} {start : State}

theorem Run.single {next : State} {label : Label} (taken : step state label next) :
    Run step state [label] next :=
  Run.snoc Run.nil taken

theorem Run.trans {middle finish : State} {first second : List Label}
    (before : Run step start first middle) (after : Run step middle second finish) :
    Run step start (first ++ second) finish := by
  induction after with
  | nil => simpa using before
  | snoc _ last inductionHypothesis =>
    rw [← List.append_assoc]
    exact inductionHypothesis.snoc last

/-- Where the steps are those of a function, a run is computed by folding it over the labels. -/
theorem Run.of_foldlM {next : State → Label → Option State}
    (exact_next : ∀ state label, ∀ result ∈ next state label, step state label result)
    {finish : State} (computed : labels.foldlM next start = some finish) :
    Run step start labels finish := by
  induction labels generalizing start with
  | nil =>
    cases computed
    exact Run.nil
  | cons label labels inductionHypothesis =>
    rw [List.foldlM_cons, Option.bind_eq_bind, Option.bind_eq_some_iff] at computed
    obtain ⟨middle, first, rest⟩ := computed
    exact (Run.single (exact_next _ _ _ first)).trans (inductionHypothesis rest)

/-- An invariant of the start and of every step holds at the end of every run. -/
theorem Run.invariant (Inv : State → Prop) (run : Run step start labels state) (initial : Inv start)
    (preserved : ∀ state label next, Inv state → step state label next → Inv next) : Inv state := by
  induction run with
  | nil => exact initial
  | snoc _ last inductionHypothesis => exact preserved _ _ _ inductionHypothesis last

theorem Run.mono (run : Run step start labels state)
    (weaken : ∀ state label next, step state label next → other state label next) :
    Run other start labels state := by
  induction run with
  | nil => exact Run.nil
  | snoc _ last inductionHypothesis => exact inductionHypothesis.snoc (weaken _ _ _ last)

/-- Under an invariant, the steps need only be others where it holds. -/
theorem Run.mono_of_invariant (Inv : State → Prop) (run : Run step start labels state)
    (initial : Inv start)
    (weaken : ∀ state label next, Inv state → step state label next →
      Inv next ∧ other state label next) : Run other start labels state := by
  induction run with
  | nil => exact Run.nil
  | snoc before last inductionHypothesis =>
    have inv := before.invariant Inv initial fun _ _ _ holds taken => (weaken _ _ _ holds taken).1
    exact inductionHypothesis.snoc (weaken _ _ _ inv last).2

/-- A run that only takes steps inside `Holds` is a run, and ends inside if it starts inside. -/
theorem Run.within_end (run : Run (Within Holds step) start labels state) (initial : Holds start) :
    Holds state :=
  run.invariant Holds initial fun _ _ _ _ taken => taken.2.2

theorem Run.of_guarded (run : Run (Guarded Condition step) start labels state) :
    Run step start labels state :=
  run.mono fun _ _ _ taken => taken.2

/-- A run whose labels meet a condition in every state is a run of the steps that meet it. -/
theorem Run.guarded_of_labels (run : Run step start labels state)
    (always : ∀ label ∈ labels, ∀ state, Condition state label) :
    Run (Guarded Condition step) start labels state := by
  induction run with
  | nil => exact Run.nil
  | snoc _ last inductionHypothesis =>
    refine (inductionHypothesis fun label member => ?_).snoc ⟨?_, last⟩
    · exact always label (List.mem_append_left _ member)
    · exact always _ (List.mem_append_right _ (List.mem_singleton_self _)) _

/-- Where two conditions agree on the states an invariant allows, the runs that meet the one are the
runs that meet the other. -/
theorem run_guarded_congr (Inv : State → Prop) {Other : State → Label → Prop} (initial : Inv start)
    (preserved : ∀ state label next, Inv state → step state label next → Inv next)
    (agree : ∀ state label next, Inv state → step state label next →
      (Condition state label ↔ Other state label)) :
    Run (Guarded Condition step) start labels state ↔
      Run (Guarded Other step) start labels state := by
  constructor
  · intro run
    refine run.mono_of_invariant Inv initial fun state label next inv taken => ?_
    exact ⟨preserved _ _ _ inv taken.2, (agree _ _ _ inv taken.2).mp taken.1, taken.2⟩
  · intro run
    refine run.mono_of_invariant Inv initial fun state label next inv taken => ?_
    exact ⟨preserved _ _ _ inv taken.2, (agree _ _ _ inv taken.2).mpr taken.1, taken.2⟩

/-- If, on the states an invariant allows, a step keeps `Holds` exactly when it meets
`Condition`, then the runs that stay inside `Holds` are the runs whose steps all meet
`Condition`. The steps that meet it have to keep the invariant. -/
theorem run_within_iff_guarded_of_kept (Inv : State → Prop) (initialInv : Inv start)
    (initialHolds : Holds start)
    (kept : ∀ state label next, Inv state → Holds state → Condition state label →
      step state label next → Inv next)
    (exact_step : ∀ state label next, Inv state → Holds state → step state label next →
      (Holds next ↔ Condition state label)) :
    Run (Within Holds step) start labels state ↔
      Run (Guarded Condition step) start labels state := by
  have both : ∀ {labels state}, Run (Guarded Condition step) start labels state →
      Inv state ∧ Holds state := by
    intro labels state run
    refine run.invariant (fun state => Inv state ∧ Holds state) ⟨initialInv, initialHolds⟩ ?_
    rintro state label next ⟨inv, holds⟩ ⟨condition, taken⟩
    exact ⟨kept _ _ _ inv holds condition taken, (exact_step _ _ _ inv holds taken).mpr condition⟩
  constructor
  · intro run
    induction run with
    | nil => exact Run.nil
    | snoc _ last inductionHypothesis =>
      obtain ⟨holds, taken, holdsNext⟩ := last
      have inv := (both inductionHypothesis).1
      exact inductionHypothesis.snoc ⟨(exact_step _ _ _ inv holds taken).mp holdsNext, taken⟩
  · intro run
    induction run with
    | nil => exact Run.nil
    | snoc before last inductionHypothesis =>
      obtain ⟨inv, holds⟩ := both before
      obtain ⟨condition, taken⟩ := last
      exact inductionHypothesis.snoc
        ⟨holds, taken, (exact_step _ _ _ inv holds taken).mpr condition⟩

/-- The invariant may be one of every step. -/
theorem run_within_iff_guarded (Inv : State → Prop) (initialInv : Inv start)
    (initialHolds : Holds start)
    (preserved : ∀ state label next, Inv state → step state label next → Inv next)
    (exact_step : ∀ state label next, Inv state → Holds state → step state label next →
      (Holds next ↔ Condition state label)) :
    Run (Within Holds step) start labels state ↔ Run (Guarded Condition step) start labels state :=
  run_within_iff_guarded_of_kept Inv initialInv initialHolds
    (fun _ _ _ inv _ _ taken => preserved _ _ _ inv taken) exact_step

end StepRun

/-
Module: Shiliu.Library.Transition
Purpose: Runs of a total transition function. A transaction that is refused is a step that
  returns the state it started from, so every list of actions is a run and "any interleaving"
  is "any list of actions". The two induction rules below are the only inductions over runs the
  developments need: one for invariants every action keeps, one for invariants kept by the
  actions a side condition admits.
Trusted boundary: none
Main exports: runFrom, EachStep, invariant_run_of_each, EachStep.of_invariant, measure_run_mono
-/
import Mathlib.Order.Nat
import Mathlib.Data.List.Basic

namespace Shiliu.Library

variable {State Action : Type*} (next : State → Action → State)

/-- The state a list of actions leads to. -/
def runFrom (state : State) (actions : List Action) : State :=
  actions.foldl next state

/-- Every action of the run is admitted in the state it is taken in. -/
def EachStep (admitted : State → Action → Prop) : State → List Action → Prop
  | _, [] => True
  | state, action :: rest =>
      admitted state action ∧ EachStep admitted (next state action) rest

instance EachStep.decidable {admitted : State → Action → Prop}
    [∀ state action, Decidable (admitted state action)] :
    ∀ state actions, Decidable (EachStep next admitted state actions)
  | _, [] => inferInstanceAs (Decidable True)
  | state, action :: rest =>
      have : Decidable (EachStep next admitted (next state action) rest) :=
        EachStep.decidable (next state action) rest
      inferInstanceAs (Decidable (_ ∧ _))

@[simp] theorem runFrom_nil (state : State) : runFrom next state [] = state := rfl

@[simp] theorem runFrom_cons (state : State) (action : Action) (rest : List Action) :
    runFrom next state (action :: rest) = runFrom next (next state action) rest := rfl

theorem runFrom_append (state : State) (first second : List Action) :
    runFrom next state (first ++ second) = runFrom next (runFrom next state first) second := by
  simp [runFrom]

theorem runFrom_concat (state : State) (actions : List Action) (action : Action) :
    runFrom next state (actions ++ [action]) = next (runFrom next state actions) action := by
  simp [runFrom]

variable {next}

theorem EachStep.append {admitted : State → Action → Prop} {state : State}
    {first second : List Action} :
    EachStep next admitted state (first ++ second) ↔
      EachStep next admitted state first ∧
        EachStep next admitted (runFrom next state first) second := by
  induction first generalizing state with
  | nil => simp [EachStep]
  | cons action rest inductionHypothesis =>
      simp only [List.cons_append, EachStep, runFrom_cons, inductionHypothesis, and_assoc]

/-- A side condition on the actions alone. -/
theorem EachStep.of_forall {admitted : Action → Prop} {state : State} {actions : List Action}
    (all : ∀ action ∈ actions, admitted action) :
    EachStep next (fun _ action => admitted action) state actions := by
  induction actions generalizing state with
  | nil => exact trivial
  | cons action rest inductionHypothesis =>
      rw [List.forall_mem_cons] at all
      exact ⟨all.1, inductionHypothesis all.2⟩

theorem invariant_run {invariant : State → Prop}
    (kept : ∀ state action, invariant state → invariant (next state action))
    {state : State} (start : invariant state) (actions : List Action) :
    invariant (runFrom next state actions) := by
  induction actions generalizing state with
  | nil => exact start
  | cons action rest inductionHypothesis =>
      exact inductionHypothesis (kept state action start)

/-- An invariant of every admitted step is an invariant of every run of admitted steps. -/
theorem invariant_run_of_each {invariant : State → Prop} {admitted : State → Action → Prop}
    (kept : ∀ state action, invariant state → admitted state action →
      invariant (next state action))
    {state : State} (start : invariant state) {actions : List Action}
    (each : EachStep next admitted state actions) :
    invariant (runFrom next state actions) := by
  induction actions generalizing state with
  | nil => exact start
  | cons action rest inductionHypothesis =>
      exact inductionHypothesis (kept state action start each.1) each.2

/-- What an invariant says of the admitted actions holds at each step of an admitted run. -/
theorem EachStep.of_invariant {invariant : State → Prop} {admitted sound : State → Action → Prop}
    (kept : ∀ state action, invariant state → admitted state action →
      invariant (next state action))
    (implied : ∀ state action, invariant state → admitted state action → sound state action)
    {state : State} (start : invariant state) {actions : List Action}
    (each : EachStep next admitted state actions) : EachStep next sound state actions := by
  induction actions generalizing state with
  | nil => exact trivial
  | cons action rest inductionHypothesis =>
      exact ⟨implied state action start each.1,
        inductionHypothesis (kept state action start each.1) each.2⟩

/-- A measure no step lowers is not lowered by a run. -/
theorem measure_run_mono {Measure : Type*} [Preorder Measure] {measure : State → Measure}
    (grows : ∀ state action, measure state ≤ measure (next state action))
    (state : State) (actions : List Action) :
    measure state ≤ measure (runFrom next state actions) := by
  induction actions generalizing state with
  | nil => exact le_refl _
  | cons action rest inductionHypothesis =>
      exact le_trans (grows state action) (inductionHypothesis (next state action))

end Shiliu.Library

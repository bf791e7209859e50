/-
Module: Shiliu.Library.Effect
Purpose: Programs over a state that may raise and keep what they wrote until then (`EStateM`). What
  a program may do to the state is a preorder on states; the rules say that a program stays within
  it when each of its steps does, whether or not it raises.
Trusted boundary: none
Main exports: Within, Within.bind, Within.modify, Within.forM, Within.throw
-/
import Mathlib.Order.Defs.Unbundled
import Mathlib.Tactic.Common

namespace Shiliu.Library

variable {Failure State Value Result Item : Type}

/-- The state a program leaves behind, also when it raises. -/
def leaves (program : EStateM Failure State Value) (state : State) : State :=
  match program state with
  | .ok _ after => after
  | .error _ after => after

/-- From every state the program reaches only states the relation allows. -/
def Within (allowed : State → State → Prop) (program : EStateM Failure State Value) : Prop :=
  ∀ state, allowed state (leaves program state)

namespace Within

variable {allowed : State → State → Prop}

theorem pure [Std.Refl allowed] (value : Value) :
    Within allowed (Pure.pure value : EStateM Failure State Value) :=
  fun state => refl state

theorem throw [Std.Refl allowed] (failure : Failure) :
    Within allowed (MonadExcept.throw failure : EStateM Failure State Value) :=
  fun state => refl state

theorem modify {change : State → State} (step : ∀ state, allowed state (change state)) :
    Within allowed (modify change : EStateM Failure State PUnit) :=
  step

theorem bind [IsTrans State allowed] {first : EStateM Failure State Value}
    {next : Value → EStateM Failure State Result} (one : Within allowed first)
    (two : ∀ value, Within allowed (next value)) : Within allowed (first >>= next) := by
  intro state
  have reached := one state
  have same : (first >>= next) state = EStateM.bind first next state := rfl
  cases outcome : first state with
  | ok value middle =>
      have final := two value middle
      simp only [leaves, outcome] at reached
      simp only [leaves, same, EStateM.bind, outcome]
      exact IsTrans.trans _ _ _ reached final
  | error failure middle =>
      simp only [leaves, outcome] at reached
      simp only [leaves, same, EStateM.bind, outcome]
      exact reached

/-- A program that looks at the state first is judged with what it sees. -/
theorem get_bind {next : State → EStateM Failure State Result}
    (within : ∀ state, allowed state (leaves (next state) state)) :
    Within allowed (get >>= next) :=
  within

theorem forM [Std.Refl allowed] [IsTrans State allowed] {items : List Item}
    {body : Item → EStateM Failure State PUnit}
    (each : ∀ item ∈ items, Within allowed (body item)) : Within allowed (items.forM body) := by
  induction items with
  | nil => exact pure PUnit.unit
  | cons item rest inductionHypothesis =>
      rw [List.forall_mem_cons] at each
      exact bind each.1 fun _ => inductionHypothesis each.2

end Within

end Shiliu.Library

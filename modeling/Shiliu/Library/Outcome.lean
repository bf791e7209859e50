/-
Module: Shiliu.Library.Outcome
Purpose: Computations that raise. A body written with `do` over `Except` returns exactly when each
  of its steps does, so what a call that returned has checked is read off step by step.
Trusted boundary: none
Main exports: ensure, bind_eq_ok, ensure_then_eq_ok, pure_eq_ok, foldlM_ok, foldlM_keeps, mapM_eq_ok
-/
import Mathlib.Data.List.Forall2
import Mathlib.Tactic.Common

namespace Shiliu.Library

universe u

variable {Failure : Type*}

/-- Raise unless a condition holds. -/
def ensure (condition : Prop) [Decidable condition] (failure : Failure) : Except Failure Unit :=
  if condition then .ok () else .error failure

theorem ensure_eq_ok {condition : Prop} [Decidable condition] {failure : Failure} {done : Unit} :
    ensure condition failure = .ok done ↔ condition := by
  by_cases holds : condition <;> simp [ensure, holds]

/-! ## Reading a body step by step -/

theorem bind_eq_ok {Value Result : Type u} {first : Except Failure Value} {next : Value → Except Failure Result}
    {result : Result} :
    first >>= next = .ok result ↔ ∃ value, first = .ok value ∧ next value = .ok result := by
  cases first with
  | error failure => simp [bind, Except.bind]
  | ok value => simp [bind, Except.bind]

/-- A body that starts with a check returns when the check and the rest do. -/
theorem ensure_then_eq_ok {condition : Prop} [Decidable condition] {failure : Failure}
    {Result : Type} {next : Unit → Except Failure Result} {result : Result} :
    (ensure condition failure >>= next) = .ok result ↔ condition ∧ next () = .ok result := by
  simp only [bind_eq_ok, ensure_eq_ok]
  exact ⟨fun ⟨_, holds, rest⟩ => ⟨holds, rest⟩, fun ⟨holds, rest⟩ => ⟨(), holds, rest⟩⟩

theorem map_eq_ok {Value Result : Type u} {first : Except Failure Value} {change : Value → Result}
    {result : Result} :
    first.map change = .ok result ↔ ∃ value, first = .ok value ∧ change value = result := by
  cases first with
  | error failure => simp [Except.map]
  | ok value => simp [Except.map]

theorem mapError_eq_ok {Other Value : Type*} {first : Except Failure Value} {change : Failure → Other}
    {result : Value} : first.mapError change = .ok result ↔ first = .ok result := by
  cases first <;> simp [Except.mapError]

theorem pure_eq_ok {Value : Type u} {value result : Value} :
    (pure value : Except Failure Value) = .ok result ↔ value = result := by
  simp [pure, Except.pure]

/-! ## What was raised -/

theorem ensure_eq_error {condition : Prop} [Decidable condition] {failure raised : Failure} :
    ensure condition failure = .error raised ↔ ¬condition ∧ failure = raised := by
  by_cases holds : condition <;> simp [ensure, holds]

theorem bind_eq_error {Value Result : Type u} {first : Except Failure Value}
    {next : Value → Except Failure Result} {raised : Failure} :
    first >>= next = .error raised ↔
      first = .error raised ∨ ∃ value, first = .ok value ∧ next value = .error raised := by
  cases first with
  | error failure => simp [bind, Except.bind]
  | ok value => simp [bind, Except.bind]

/-! ## Loops -/

section Loop

variable {State Item : Type} {body : State → Item → Except Failure State} {items : List Item}

theorem foldlM_cases {Good : List Item → State → Prop} {Bad : List Item → Failure → Prop}
    (each : ∀ done item state, item ∈ items → Good done state →
      (∃ next, body state item = .ok next ∧ Good (done ++ [item]) next) ∨
        ∃ failure, body state item = .error failure ∧ Bad (done ++ [item]) failure)
    (lasts : ∀ done more failure, Bad done failure → Bad (done ++ more) failure)
    {done : List Item} {state : State} (start : Good done state) :
    (∃ final, items.foldlM body state = .ok final ∧ Good (done ++ items) final) ∨
      ∃ failure, items.foldlM body state = .error failure ∧ Bad (done ++ items) failure := by
  induction items generalizing done state with
  | nil => exact .inl ⟨state, rfl, by rwa [List.append_nil]⟩
  | cons item rest inductionHypothesis =>
      have split : done ++ item :: rest = (done ++ [item]) ++ rest := by simp
      rw [List.foldlM_cons, split]
      rcases each done item state List.mem_cons_self start with
        ⟨next, isNext, good⟩ | ⟨failure, raised, bad⟩
      · rw [isNext]
        exact inductionHypothesis
          (fun done item state member => each done item state (List.mem_cons_of_mem _ member)) good
      · rw [raised]
        exact .inr ⟨failure, rfl, lasts _ rest failure bad⟩

/-- A loop whose body does not raise. -/
theorem foldlM_ok {Good : List Item → State → Prop}
    (each : ∀ done item state, item ∈ items → Good done state →
      ∃ next, body state item = .ok next ∧ Good (done ++ [item]) next)
    {done : List Item} {state : State} (start : Good done state) :
    ∃ final, items.foldlM body state = .ok final ∧ Good (done ++ items) final := by
  have outcome := @foldlM_cases _ _ _ body items Good (fun _ _ => False)
    (fun done item state member good => .inl (each done item state member good))
    (fun _ _ _ bad => bad) done state start
  rcases outcome with ok | ⟨_, _, bad⟩
  · exact ok
  · exact bad.elim

/-- What the body keeps when it returns, a loop that returned has kept. -/
theorem foldlM_keeps {Good : State → Prop}
    (each : ∀ state item next, Good state → body state item = .ok next → Good next)
    {state final : State} (start : Good state) (ran : items.foldlM body state = .ok final) :
    Good final := by
  induction items generalizing state with
  | nil =>
      obtain rfl := pure_eq_ok.mp ran
      exact start
  | cons item rest inductionHypothesis =>
      rw [List.foldlM_cons, bind_eq_ok] at ran
      obtain ⟨next, isNext, ran⟩ := ran
      exact inductionHypothesis (each state item next start isNext) ran

end Loop

/-- A pass over a list returns what its body returns for each item. -/
theorem mapM_eq_ok {Item Result : Type} {body : Item → Except Failure Result} {items : List Item}
    {results : List Result} :
    items.mapM body = .ok results ↔
      List.Forall₂ (fun item result => body item = .ok result) items results := by
  induction items generalizing results with
  | nil => cases results <;> simp [pure_eq_ok]
  | cons item rest inductionHypothesis =>
      simp only [List.mapM_cons, bind_eq_ok, pure_eq_ok, inductionHypothesis]
      constructor
      · rintro ⟨result, isResult, others, all, rfl⟩
        exact .cons isResult all
      · rintro (_ | ⟨isResult, all⟩)
        exact ⟨_, isResult, _, all, rfl⟩

end Shiliu.Library

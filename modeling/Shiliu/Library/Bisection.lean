/-
Module: Shiliu.Library.Bisection
Purpose: Binary search over natural numbers by trials. `greatest` moves its lower end up to every
  value that is accepted, `least` its upper end down to every value that reaches. `seekGreatest` is
  the same search when a trial changes a state and may raise: where the answer of a trial does not
  depend on the state, it finds what `greatest` finds.
Trusted boundary: none
Main exports: greatest, greatest_cases, seekGreatest_eq_greatest, seekLeast, seekLeast_eq_least
-/
import Shiliu.Library.Outcome
import Mathlib.Tactic.Ring

namespace Shiliu.Library

/-! ## The greatest value that is accepted -/

/-- The search for the greatest accepted value between two ends, the lower one counted as
accepted. -/
def greatest (accepts : Nat → Bool) (low upper : Nat) : Nat :=
  if low < upper then
    if accepts ((low + upper + 1) / 2) then greatest accepts ((low + upper + 1) / 2) upper
    else greatest accepts low ((low + upper + 1) / 2 - 1)
  else low
termination_by upper - low

section Greatest

variable {accepts : Nat → Bool} {low upper : Nat}

/-- What is found was accepted, or is the lower end. -/
theorem greatest_cases :
    greatest accepts low upper = low ∨ accepts (greatest accepts low upper) = true := by
  fun_induction greatest accepts low upper with
  | case1 low upper unfinished accepted inductionHypothesis =>
      rcases inductionHypothesis with atMiddle | found
      · exact .inr (by rw [atMiddle]; exact accepted)
      · exact .inr found
  | case2 low upper unfinished rejected inductionHypothesis => exact inductionHypothesis
  | case3 low upper closed => exact .inl rfl

theorem le_greatest : low ≤ greatest accepts low upper := by
  fun_induction greatest accepts low upper with
  | case1 low upper unfinished accepted inductionHypothesis => omega
  | case2 low upper unfinished rejected inductionHypothesis => exact inductionHypothesis
  | case3 low upper closed => exact Nat.le_refl low

theorem rejected_above_greatest
    (antitone : ∀ smaller larger, low ≤ smaller → smaller ≤ larger → larger ≤ upper →
      accepts larger = true → accepts smaller = true)
    {value : Nat} (above : greatest accepts low upper < value) (inRange : value ≤ upper) :
    accepts value = false := by
  fun_induction greatest accepts low upper with
  | case1 low upper unfinished accepted inductionHypothesis =>
      apply inductionHypothesis _ above inRange
      intro smaller larger fromMiddle
      exact antitone smaller larger (by omega)
  | case2 low upper unfinished rejected inductionHypothesis =>
      have fromLow : low ≤ greatest accepts low ((low + upper + 1) / 2 - 1) := le_greatest
      by_cases below : value ≤ (low + upper + 1) / 2 - 1
      · apply inductionHypothesis _ above below
        intro smaller larger fromLow ordered toMiddle
        exact antitone smaller larger fromLow ordered (by omega)
      · -- the middle was rejected, and with it all that is larger
        by_contra isAccepted
        exact rejected (antitone _ value (by omega) (by omega) inRange (by simpa using isAccepted))
  | case3 low upper closed => omega

end Greatest

/-! ## The least value that reaches -/

/-- The search for the least value that reaches, the upper end counted as one. -/
def least (reaches : Nat → Bool) (left right : Nat) : Nat :=
  if left < right then
    if reaches ((left + right) / 2) then least reaches left ((left + right) / 2)
    else least reaches ((left + right) / 2 + 1) right
  else left
termination_by right - left

section Least

variable {reaches : Nat → Bool} {left right : Nat}

theorem le_least : left ≤ least reaches left right := by
  fun_induction least reaches left right with
  | case1 left right unfinished reached inductionHypothesis => exact inductionHypothesis
  | case2 left right unfinished missed inductionHypothesis => omega
  | case3 left right closed => exact Nat.le_refl left

/-- What is found reaches, or is the upper end. -/
theorem least_cases (ordered : left ≤ right) :
    least reaches left right = right ∨ reaches (least reaches left right) = true := by
  fun_induction least reaches left right with
  | case1 left right unfinished reached inductionHypothesis =>
      rcases inductionHypothesis (by omega) with atMiddle | found
      · exact .inr (by rw [atMiddle]; exact reached)
      · exact .inr found
  | case2 left right unfinished missed inductionHypothesis => exact inductionHypothesis (by omega)
  | case3 left right closed => exact .inl (by omega)

theorem not_reached_below_least
    (monotone : ∀ smaller larger, left ≤ smaller → smaller ≤ larger → larger ≤ right →
      reaches smaller = true → reaches larger = true)
    {value : Nat} (fromLeft : left ≤ value) (below : value < least reaches left right) :
    reaches value = false := by
  fun_induction least reaches left right with
  | case1 left right unfinished reached inductionHypothesis =>
      apply inductionHypothesis _ fromLeft below
      intro smaller larger fromLeft ordered toMiddle
      exact monotone smaller larger fromLeft ordered (by omega)
  | case2 left right unfinished missed inductionHypothesis =>
      by_cases past : (left + right) / 2 + 1 ≤ value
      · apply inductionHypothesis _ past below
        intro smaller larger fromMiddle
        exact monotone smaller larger (by omega)
      · by_contra isReached
        exact missed (monotone value _ fromLeft (by omega) (by omega) (by simpa using isReached))
  | case3 left right closed => omega

end Least

/-! ## Trials that change a state -/

/-- The search for the greatest accepted value by trials on a state. -/
def seekGreatest {State Failure : Type} (attempt : Nat → State → Except Failure (Bool × State))
    (low upper : Nat) (state : State) : Except Failure (Nat × State) :=
  if low < upper then
    match attempt ((low + upper + 1) / 2) state with
    | .error failure => .error failure
    | .ok (true, after) => seekGreatest attempt ((low + upper + 1) / 2) upper after
    | .ok (false, after) => seekGreatest attempt low ((low + upper + 1) / 2 - 1) after
  else .ok (low, state)
termination_by upper - low

/-- Where the answers of the trials do not depend on the state they run on, the search finds what
the search without a state finds, and leaves a state of the kind its trials leave. -/
theorem seekGreatest_eq_greatest {State Failure : Type}
    {attempt : Nat → State → Except Failure (Bool × State)} {accepts : Nat → Bool}
    {Reached : State → Prop} {low upper : Nat} {state : State}
    (answers : ∀ value state, Reached state →
      ∃ after, attempt value state = .ok (accepts value, after) ∧ Reached after)
    (start : Reached state) :
    ∃ after, seekGreatest attempt low upper state = .ok (greatest accepts low upper, after) ∧
      Reached after := by
  fun_induction greatest accepts low upper generalizing state with
  | case1 low upper unfinished accepted inductionHypothesis =>
      obtain ⟨after, isAfter, reached⟩ := answers ((low + upper + 1) / 2) state start
      rw [accepted] at isAfter
      rw [seekGreatest, if_pos unfinished, isAfter]
      exact inductionHypothesis reached
  | case2 low upper unfinished rejected inductionHypothesis =>
      obtain ⟨after, isAfter, reached⟩ := answers ((low + upper + 1) / 2) state start
      rw [Bool.eq_false_iff.mpr rejected] at isAfter
      rw [seekGreatest, if_pos unfinished, isAfter]
      exact inductionHypothesis reached
  | case3 low upper closed =>
      rw [seekGreatest, if_neg closed]
      exact ⟨state, rfl, start⟩

/-- The search for the least reaching value by trials that may raise. -/
def seekLeast {Failure : Type} (attempt : Nat → Except Failure Bool) (left right : Nat) :
    Except Failure Nat :=
  if left < right then
    match attempt ((left + right) / 2) with
    | .error failure => .error failure
    | .ok true => seekLeast attempt left ((left + right) / 2)
    | .ok false => seekLeast attempt ((left + right) / 2 + 1) right
  else .ok left
termination_by right - left

/-- Where no trial raises, the search finds what the search without failures finds. -/
theorem seekLeast_eq_least {Failure : Type} {attempt : Nat → Except Failure Bool}
    {reaches : Nat → Bool} {left right : Nat}
    (answers : ∀ value, value ≤ right → attempt value = .ok (reaches value)) :
    seekLeast attempt left right = .ok (least reaches left right) := by
  fun_induction least reaches left right with
  | case1 left right unfinished reached inductionHypothesis =>
      rw [seekLeast, if_pos unfinished, answers _ (by omega), reached]
      exact inductionHypothesis fun value below => answers value (by omega)
  | case2 left right unfinished missed inductionHypothesis =>
      rw [seekLeast, if_pos unfinished, answers _ (by omega), Bool.eq_false_iff.mpr missed]
      exact inductionHypothesis answers
  | case3 left right closed => rw [seekLeast, if_neg closed]

end Shiliu.Library

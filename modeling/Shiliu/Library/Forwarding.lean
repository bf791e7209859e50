/-
Module: Shiliu.Library.Forwarding
Purpose: Keys that are forwarded to other keys. Forwarding comes to an end from every key when the keys
  can be ranked so that each step goes down; a root that is forwarded to another root keeps that, and so
  does taking forwards away.
Trusted boundary: none
Main exports: Resolves, Resolves.induct, Resolves.of_subset, Resolves.forward
-/
import Mathlib.Tactic.Common

namespace Shiliu.Library

variable {Key : Type*} {next after : Key → Option Key}

/-- Every chain of forwards comes to an end. -/
def Resolves (next : Key → Option Key) : Prop :=
  ∃ rank : Key → Nat, ∀ key onward, next key = some onward → rank onward < rank key

theorem resolves_none : Resolves fun _ : Key => (none : Option Key) :=
  ⟨fun _ => 0, fun _ _ absent => nomatch absent⟩

/-- What holds of a key when it holds of the one it is forwarded to holds of every key. -/
theorem Resolves.induct (resolves : Resolves next) {motive : Key → Prop}
    (step : ∀ key, (∀ onward, next key = some onward → motive onward) → motive key) (key : Key) :
    motive key := by
  obtain ⟨rank, below⟩ := resolves
  induction isRank : rank key using Nat.strongRecOn generalizing key with
  | ind bound inductionHypothesis =>
      apply step
      intro onward isOnward
      apply inductionHypothesis (rank onward)
      · rw [← isRank]
        exact below key onward isOnward
      · rfl

/-- Taking forwards away. -/
theorem Resolves.of_subset (resolves : Resolves next)
    (subset : ∀ key onward, after key = some onward → next key = some onward) : Resolves after := by
  obtain ⟨rank, below⟩ := resolves
  exact ⟨rank, fun key onward isOnward => below key onward (subset key onward isOnward)⟩

/-- Forwarding a key to one that is itself not forwarded. -/
theorem Resolves.forward [DecidableEq Key] (resolves : Resolves next) {source target : Key}
    (root : after target = none)
    (added : ∀ key onward, after key = some onward →
      next key = some onward ∨ key = source ∧ onward = target) : Resolves after := by
  obtain ⟨rank, below⟩ := resolves
  -- The target goes below all others: nothing is forwarded from it.
  refine ⟨fun key => if key = target then 0 else rank key + 1, fun key onward isOnward => ?_⟩
  have fromOther : key ≠ target := by
    rintro rfl
    rw [root] at isOnward
    cases isOnward
  simp only [if_neg fromOther]
  split
  case isTrue => exact Nat.succ_pos _
  case isFalse notTarget =>
      rcases added key onward isOnward with known | ⟨-, isTarget⟩
      · exact Nat.succ_lt_succ (below key onward known)
      · exact absurd isTarget notTarget

end Shiliu.Library

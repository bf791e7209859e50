/-
Module: Shiliu.Library.Consecutive
Purpose: Lists of consecutive numbers, by what they contain: they ascend and leave nothing out
  between two of their numbers. Two such lists that overlap or adjoin leave nothing out together.
Trusted boundary: none
Main exports: GapFree, Touching, GapFree.union
-/
import Mathlib.Data.List.Chain
import Mathlib.Tactic.Common

namespace Shiliu.Library

variable {values left right : List Nat}

/-- Whatever lies between two of the numbers is one of them. -/
def GapFree (values : List Nat) : Prop :=
  ∀ low ∈ values, ∀ high ∈ values, ∀ value, low ≤ value → value ≤ high → value ∈ values

/-- The lists share a number, or a number of one follows a number of the other. -/
def Touching (left right : List Nat) : Prop :=
  ∃ first ∈ left, ∃ second ∈ right, first = second ∨ first + 1 = second ∨ second + 1 = first

theorem Touching.symm (touching : Touching left right) : Touching right left := by
  obtain ⟨first, isFirst, second, isSecond, same | follows | precedes⟩ := touching
  · exact ⟨second, isSecond, first, isFirst, .inl same.symm⟩
  · exact ⟨second, isSecond, first, isFirst, .inr (.inr follows)⟩
  · exact ⟨second, isSecond, first, isFirst, .inr (.inl precedes)⟩

theorem ascending_of_consecutive (consecutive : values.IsChain fun value next => next = value + 1) :
    values.Pairwise (· < ·) := by
  refine List.isChain_iff_pairwise.mp (consecutive.imp fun value next isNext => ?_)
  rw [isNext]
  exact Nat.lt_succ_self value

theorem gapFree_of_consecutive (consecutive : values.IsChain fun value next => next = value + 1) :
    GapFree values := by
  induction values with
  | nil => exact fun low isLow => nomatch isLow
  | cons first rest inductionHypothesis =>
      intro low isLow high isHigh value above below
      by_cases same : value = first
      · exact same ▸ List.mem_cons_self
      · have ascending := List.pairwise_cons.mp (ascending_of_consecutive consecutive)
        have atLeast : first ≤ low := by
          rcases List.mem_cons.mp isLow with rfl | later
          · exact Nat.le_refl _
          · exact Nat.le_of_lt (ascending.1 low later)
        have highLater : high ∈ rest := by
          rcases List.mem_cons.mp isHigh with rfl | later
          · omega
          · exact later
        cases rest with
        | nil => nomatch highLater
        | cons second rest =>
            obtain ⟨isNext, consecutive⟩ := List.isChain_cons_cons.mp consecutive
            refine List.mem_cons_of_mem _ ?_
            exact inductionHypothesis consecutive second List.mem_cons_self high highLater value
              (by omega) below

theorem consecutive_of_gapFree (ascending : values.Pairwise (· < ·)) (gapFree : GapFree values) :
    values.IsChain fun value next => next = value + 1 := by
  induction values with
  | nil => exact .nil
  | cons first rest inductionHypothesis =>
      obtain ⟨isLeast, ascending⟩ := List.pairwise_cons.mp ascending
      refine (inductionHypothesis ascending ?_).cons fun second isSecond => ?_
      · intro low isLow high isHigh value above below
        have after := isLeast low isLow
        rcases List.mem_cons.mp (gapFree low (List.mem_cons_of_mem _ isLow) high
          (List.mem_cons_of_mem _ isHigh) value above below) with rfl | later
        · omega
        · exact later
      · cases rest with
        | nil => nomatch isSecond
        | cons other rest =>
            obtain rfl : other = second := Option.some.inj isSecond
            have after := isLeast other List.mem_cons_self
            rcases List.mem_cons.mp (gapFree first List.mem_cons_self other
              (List.mem_cons_of_mem _ List.mem_cons_self) (first + 1) (by omega) after) with
              same | later
            · omega
            · rcases List.mem_cons.mp later with same | later
              · exact same.symm
              · have := (List.pairwise_cons.mp ascending).1 _ later
                omega

/-- What lies between a number of the one and a number of the other is in one of them. -/
theorem GapFree.between (leftFree : GapFree left) (rightFree : GapFree right)
    (touching : Touching left right) {low high value : Nat} (isLow : low ∈ left)
    (isHigh : high ∈ right) (above : low ≤ value) (below : value ≤ high) :
    value ∈ left ∨ value ∈ right := by
  obtain ⟨first, isFirst, second, isSecond, touches⟩ := touching
  by_cases before : value ≤ first
  · exact .inl (leftFree low isLow first isFirst value above before)
  · exact .inr (rightFree second isSecond high isHigh value (by omega) below)

theorem GapFree.union (leftFree : GapFree left) (rightFree : GapFree right)
    (touching : Touching left right) (members : ∀ value, value ∈ values ↔
      value ∈ left ∨ value ∈ right) : GapFree values := by
  intro low isLow high isHigh value above below
  rw [members] at isLow isHigh ⊢
  rcases isLow with lowLeft | lowRight <;> rcases isHigh with highLeft | highRight
  · exact .inl (leftFree low lowLeft high highLeft value above below)
  · exact leftFree.between rightFree touching lowLeft highRight above below
  · exact (rightFree.between leftFree touching.symm lowRight highLeft above below).symm
  · exact .inr (rightFree low lowRight high highRight value above below)

end Shiliu.Library

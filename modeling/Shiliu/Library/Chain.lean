/-
Module: Shiliu.Library.Chain
Purpose: Rows numbered in the order of their insertion, each linked to the one before. A chain starts
  from a number and a link; every row continues from where the one before it leads to. What the usual queries
  find in a chain: the largest number is the length, and the row with the largest number is the last.
Trusted boundary: none
Main exports: Chain, endOf, Chain.concat, Chain.last_number, Chain.argmax, Chain.of_same, Numbered
-/
import Mathlib.Data.List.MinMax
import Mathlib.Data.List.Range
import Mathlib.Tactic.Common

namespace Shiliu.Library

variable {Row Link : Type*}

/-- Every row has the next number and starts where the row before it leads to. -/
def Chain (number : Row → Nat) (source target : Row → Link) : Nat → Link → List Row → Prop
  | _, _, [] => True
  | next, link, row :: rest =>
      number row = next ∧ source row = link ∧
        Chain number source target (next + 1) (target row) rest

instance Chain.decidable [DecidableEq Link] {number : Row → Nat} {source target : Row → Link} :
    ∀ next link rows, Decidable (Chain number source target next link rows)
  | _, _, [] => inferInstanceAs (Decidable True)
  | next, link, row :: rest =>
      have : Decidable (Chain number source target (next + 1) (target row) rest) :=
        Chain.decidable (next + 1) (target row) rest
      inferInstanceAs (Decidable (number row = next ∧ source row = link ∧ _))

/-- Where the rows of a chain that starts from a link lead to. -/
def endOf (target : Row → Link) (link : Link) (rows : List Row) : Link :=
  (rows.getLast?.map target).getD link

namespace Chain

variable {number : Row → Nat} {source target : Row → Link} {next : Nat} {link : Link}
  {rows : List Row} {row : Row}

theorem concat :
    Chain number source target next link (rows ++ [row]) ↔
      Chain number source target next link rows ∧ number row = next + rows.length ∧
        source row = endOf target link rows := by
  induction rows generalizing next link with
  | nil => simp [Chain, endOf]
  | cons first rest inductionHypothesis =>
      have sameEnd : endOf target (target first) rest = endOf target link (first :: rest) := by
        cases last : rest.getLast? <;> simp [endOf, List.getLast?_cons, last]
      rw [List.cons_append, Chain, inductionHypothesis, Chain, sameEnd, List.length_cons]
      grind

theorem numbers (chain : Chain number source target next link rows) :
    rows.map number = List.range' next rows.length := by
  induction rows generalizing next link with
  | nil => rfl
  | cons first rest inductionHypothesis =>
      obtain ⟨isNumber, -, linked⟩ := chain
      rw [List.map_cons, List.length_cons, List.range'_succ, isNumber, inductionHypothesis linked]

theorem last_number (chain : Chain number source target (next + 1) link rows) :
    (rows.getLast?.map number).getD next = next + rows.length := by
  induction rows using List.reverseRecOn with
  | nil => rfl
  | append_singleton front last _ =>
      obtain ⟨-, isLast, -⟩ := concat.mp chain
      rw [List.getLast?_concat, Option.map_some, Option.getD_some, isLast, List.length_append,
        List.length_singleton]
      omega

theorem argmax (chain : Chain number source target next link rows) :
    rows.argmax number = rows.getLast? := by
  induction rows using List.reverseRecOn with
  | nil => rfl
  | append_singleton front last _ =>
      obtain ⟨inFront, isLast, -⟩ := concat.mp chain
      have below : ∀ row ∈ front, number row < number last := by
        intro row isRow
        have member := List.mem_map_of_mem (f := number) isRow
        rw [inFront.numbers, List.mem_range'_1] at member
        omega
      rw [List.argmax_concat, List.getLast?_concat]
      cases found : front.argmax number with
      | none => rfl
      | some largest => simp [below largest (List.argmax_mem found)]

variable {Other : Type*} {number' : Other → Nat} {source' target' : Other → Link}
  {others : List Other}

theorem of_same (chain : Chain number source target next link rows)
    (same : others.map (fun row => (number' row, source' row, target' row)) =
      rows.map fun row => (number row, source row, target row)) :
    Chain number' source' target' next link others := by
  induction rows generalizing next link others with
  | nil =>
      obtain rfl := List.map_eq_nil_iff.mp same
      exact trivial
  | cons row rest inductionHypothesis =>
      obtain ⟨other, otherRest, rfl, isRow, sameRest⟩ := List.map_eq_cons_iff.mp same
      obtain ⟨isNumber, isSource, linked⟩ := chain
      simp only [Prod.mk.injEq] at isRow
      obtain ⟨sameNumber, sameSource, sameTarget⟩ := isRow
      refine ⟨sameNumber.trans isNumber, sameSource.trans isSource, ?_⟩
      rw [sameTarget]
      exact inductionHypothesis linked sameRest

end Chain

theorem endOf_of_same {Other : Type*} {target : Row → Link} {target' : Other → Link} {link : Link}
    {rows : List Row} {others : List Other} (same : others.map target' = rows.map target) :
    endOf target' link others = endOf target link rows := by
  rw [endOf, endOf, ← List.getLast?_map, ← List.getLast?_map, same]

/-- Rows numbered from one. -/
def Numbered (number : Row → Nat) (rows : List Row) : Prop :=
  rows.map number = List.range' 1 rows.length

namespace Numbered

variable {number : Row → Nat} {rows : List Row}

theorem foldr_max_range' (count base : Nat) :
    (List.range' 1 count).foldr Max.max base = Max.max count base := by
  induction count generalizing base with
  | zero => simp
  | succ count inductionHypothesis =>
      rw [List.range'_concat, List.foldr_append, List.foldr_cons, List.foldr_nil,
        inductionHypothesis]
      omega

theorem max (numbered : Numbered number rows) :
    (rows.map number).foldr Max.max 0 = rows.length := by
  rw [numbered, foldr_max_range', Nat.max_zero]

theorem concat (numbered : Numbered number rows) {row : Row}
    (isNext : number row = (rows.map number).foldr Max.max 0 + 1) :
    Numbered number (rows ++ [row]) := by
  rw [Numbered, List.map_append, numbered, List.length_append, List.length_singleton,
    List.range'_concat, List.map_singleton, isNext, numbered.max]
  simp [Nat.add_comm]

end Numbered

end Shiliu.Library

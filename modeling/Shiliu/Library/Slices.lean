/-
Module: Shiliu.Library.Slices
Purpose: Half-open slices of a text, and texts that are handed out piece by piece. Pieces that each
  are the slice their bounds name, and of which each starts where the one before stops, concatenate
  to the slice from the first start to the last stop.
Trusted boundary: none
Main exports: slice, Piece, Piece.Of, Chained, lastStop, content_of_chained, drop_of_chained
-/
import Mathlib.Data.List.Basic
import Mathlib.Tactic.Common

namespace Shiliu.Library

variable {Symbol : Type*} {text : List Symbol} {start middle stop : Nat}

/-- `text[start:stop]`. -/
def slice (text : List Symbol) (start stop : Nat) : List Symbol :=
  (text.drop start).take (stop - start)

theorem length_slice (within : stop ≤ text.length) : (slice text start stop).length = stop - start := by
  rw [slice, List.length_take, List.length_drop]
  omega

theorem slice_self (text : List Symbol) (start : Nat) : slice text start start = [] := by
  rw [slice, Nat.sub_self, List.take_zero]

theorem slice_length (text : List Symbol) (start : Nat) :
    slice text start text.length = text.drop start := by
  rw [slice, ← List.length_drop, List.take_length]

theorem slice_append (first : start ≤ middle) (second : middle ≤ stop) :
    slice text start middle ++ slice text middle stop = slice text start stop := by
  obtain ⟨left, rfl⟩ := Nat.exists_eq_add_of_le first
  obtain ⟨right, rfl⟩ := Nat.exists_eq_add_of_le second
  rw [slice, slice, slice, Nat.add_sub_cancel_left, Nat.add_sub_cancel_left, Nat.add_assoc,
    Nat.add_sub_cancel_left, List.take_add, List.drop_drop]

/-- A slice that goes on by one symbol. -/
theorem slice_succ (ordered : start ≤ stop) (inside : stop < text.length) :
    slice text start (stop + 1) = slice text start stop ++ [text[stop]] := by
  rw [← slice_append ordered (Nat.le_add_right stop 1)]
  congr 1
  rw [slice, Nat.add_sub_cancel_left, List.take_one, List.head?_drop,
    List.getElem?_eq_getElem inside]
  rfl

theorem take_slice (kept : Nat) :
    (slice text start stop).take kept = slice text start (min stop (start + kept)) := by
  rw [slice, slice, List.take_take]
  congr 1
  omega

theorem head?_slice (ordered : start < stop) : (slice text start stop).head? = text[start]? := by
  rw [slice, List.head?_take, if_neg (by omega), List.head?_drop]

theorem mem_of_mem_slice {symbol : Symbol} (member : symbol ∈ slice text start stop) :
    symbol ∈ text :=
  List.mem_of_mem_drop (List.mem_of_mem_take member)

/-! ## Pieces -/

/-- What is handed out at once, with the bounds it comes with. -/
structure Piece (Symbol : Type*) where
  start : Nat
  stop : Nat
  content : List Symbol

/-- The bounds of the piece describe its content. -/
structure Piece.Of (text : List Symbol) (piece : Piece Symbol) : Prop where
  ordered : piece.start ≤ piece.stop
  within : piece.stop ≤ text.length
  cut : piece.content = slice text piece.start piece.stop

/-- Each piece starts where the one before stops, the first one at `start`. -/
def Chained : Nat → List (Piece Symbol) → Prop
  | _, [] => True
  | start, piece :: rest => piece.start = start ∧ Chained piece.stop rest

/-- Where a chain of pieces stops. -/
def lastStop : Nat → List (Piece Symbol) → Nat
  | start, [] => start
  | _, piece :: rest => lastStop piece.stop rest

theorem lastStop_ge {pieces : List (Piece Symbol)} (each : ∀ piece ∈ pieces, piece.Of text)
    (chained : Chained start pieces) : start ≤ lastStop start pieces := by
  induction pieces generalizing start with
  | nil => exact Nat.le_refl _
  | cons piece rest inductionHypothesis =>
      obtain ⟨rfl, chained⟩ := chained
      rw [List.forall_mem_cons] at each
      exact Nat.le_trans each.1.ordered (inductionHypothesis each.2 chained)

theorem lastStop_le {pieces : List (Piece Symbol)} (each : ∀ piece ∈ pieces, piece.Of text)
    (inside : start ≤ text.length) : lastStop start pieces ≤ text.length := by
  induction pieces generalizing start with
  | nil => exact inside
  | cons piece rest inductionHypothesis =>
      rw [List.forall_mem_cons] at each
      exact inductionHypothesis each.2 each.1.within

/-- A chain of pieces is one slice. -/
theorem content_of_chained {pieces : List (Piece Symbol)}
    (each : ∀ piece ∈ pieces, piece.Of text) (chained : Chained start pieces) :
    pieces.flatMap Piece.content = slice text start (lastStop start pieces) := by
  induction pieces generalizing start with
  | nil => exact (slice_self text start).symm
  | cons piece rest inductionHypothesis =>
      obtain ⟨rfl, chained⟩ := chained
      rw [List.forall_mem_cons] at each
      rw [List.flatMap_cons, inductionHypothesis each.2 chained, each.1.cut]
      exact slice_append each.1.ordered (lastStop_ge each.2 chained)

/-- What a chain of pieces leaves of the text. -/
theorem drop_of_chained {pieces : List (Piece Symbol)} (each : ∀ piece ∈ pieces, piece.Of text)
    (chained : Chained start pieces) (inside : start ≤ text.length) :
    text.drop start = pieces.flatMap Piece.content ++ text.drop (lastStop start pieces) := by
  rw [content_of_chained each chained, ← slice_length, ← slice_length]
  exact (slice_append (lastStop_ge each chained) (lastStop_le each inside)).symm

end Shiliu.Library

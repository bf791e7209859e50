/-
Module: Shiliu.Storage.Basic
Purpose: What every store shares: the database clock, the ways a transaction is refused, and
  Python's operations on texts. A transaction that raises is rolled back, so a refused
  call is `Except.error` and leaves the state it was called in.
Trusted boundary: none
Main exports: Instant, microsPerSecond, Failure, truthy, prefixOf, wholeSecond, IsoTime, settled
-/
import Mathlib.Tactic.Common

namespace Shiliu.Storage

/-- A reading of the database clock, in microseconds, the resolution of `timestamptz`. -/
abbrev Instant := Nat

def microsPerSecond : Nat := 1000000

/-- The exceptions the stores raise, with the texts they carry. -/
inductive Failure where
  | coordinationConflict (code : String)
  | assistantConflict (code : String)
  | valueError (message : String)
  | keyError
  /-- A subscript of a row that was not found. -/
  | typeError
  /-- The database refuses a second row with a unique value. -/
  | uniqueViolation
  /-- A value that is no number where one is needed, or that JSON cannot hold. -/
  | dataError
  /-- A trigger or a key refuses a reference to a row that is not there. -/
  | foreignKeyViolation
deriving DecidableEq

/-- Python truth of a nullable text column: NULL and the empty text are both false. -/
def truthy : Option String → Bool
  | some text => text ≠ ""
  | none => false

/-- Python's white space, `str.isspace`. -/
def isSpace (letter : Char) : Bool :=
  let code := letter.toNat
  (9 ≤ code ∧ code ≤ 13) ∨ (28 ≤ code ∧ code ≤ 32) ∨ code = 0x85 ∨ code = 0xA0 ∨
    code = 0x1680 ∨ (0x2000 ≤ code ∧ code ≤ 0x200A) ∨ code = 0x2028 ∨ code = 0x2029 ∨
    code = 0x202F ∨ code = 0x205F ∨ code = 0x3000

/-- `text.strip()`. -/
def strip (text : String) : String :=
  String.ofList ((text.toList.dropWhile isSpace).reverse.dropWhile isSpace).reverse

/-- `text[:length]`. -/
def prefixOf (text : String) (length : Nat) : String :=
  String.ofList (text.toList.take length)

/-- The whole second an instant lies in, `replace(microsecond=0)`. -/
def wholeSecond (now : Instant) : Instant :=
  now / microsPerSecond * microsPerSecond

theorem wholeSecond_le (now : Instant) : wholeSecond now ≤ now :=
  Nat.div_mul_le_self now microsPerSecond

/-- A timestamp as `iso_time` renders it with `timespec="seconds"`, by the second it shows. -/
structure IsoTime where
  seconds : Nat
deriving DecidableEq

/-- `iso_time`. -/
def isoTime (value : Instant) : IsoTime :=
  ⟨value / microsPerSecond⟩

/-- `%s::timestamptz` of a rendered timestamp. -/
def IsoTime.instant (time : IsoTime) : Instant :=
  time.seconds * microsPerSecond

/-- The state after a transaction: committed if the call returned, rolled back if it raised. -/
def settled {State Result : Type*} (before : State) :
    Except Failure (State × Result) → State
  | .ok (after, _) => after
  | .error _ => before

@[simp] theorem settled_ok {State Result : Type*} (before after : State) (result : Result) :
    settled before (.ok (after, result)) = after := rfl

@[simp] theorem settled_error {State Result : Type*} (before : State) (failure : Failure) :
    settled before (.error failure : Except Failure (State × Result)) = before := rfl

@[simp] theorem settled_map {State Result Other : Type} (before : State)
    (outcome : Except Failure (State × Result)) (change : Result → Other) :
    settled before (outcome.map fun done => (done.1, change done.2)) = settled before outcome := by
  cases outcome with
  | error failure => rfl
  | ok done => rfl

end Shiliu.Storage

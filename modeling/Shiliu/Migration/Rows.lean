/-
Module: Shiliu.Migration.Rows
Purpose: What the offline import reads and writes. A converted source row is a list of typed cells
  under distinct columns; the contract of a table names its primary key, its foreign keys and its
  identity columns; the target is one table for each name, with the receipts, the run and the
  sequences of one import. The pointer columns are written as NULL first and restored at the end.
Trusted boundary: `logical_hash` and the batch key are taken as the content they are the hash of.
Main exports: Value, Row, ForeignKey, Contract, initial, Rejection, Receipt, RunStatus, Target
-/
import Mathlib.Data.List.Nodup
import Mathlib.Logic.Function.Basic
import Shiliu.Library.Table

namespace Shiliu.Migration

open Shiliu.Library

/-! ## Rows -/

/-- A typed cell that is not SQL NULL. -/
inductive Value where
  | text (value : String)
  | integer (value : Int)
  /-- The canonical text of a JSON document. -/
  | json (document : String)
  /-- The canonical text of a boolean, a float, a date, a timestamp or a vector. -/
  | typed (value : String)
deriving DecidableEq

/-- A dictionary of columns; `none` is SQL NULL. -/
structure Row where
  cells : List (String × Option Value)
  distinct : (cells.map Prod.fst).Nodup
deriving DecidableEq

/-- `row[column]`. -/
def Row.get (row : Row) (column : String) : Option Value := (row.cells.lookup column).join

/-- `[row[k] for k in columns]`. -/
def Row.select (row : Row) (columns : List String) : List (Option Value) := columns.map row.get

/-- The row with other values in some columns. -/
def Row.rewrite (row : Row) (change : String → Option Value → Option Value) : Row where
  cells := row.cells.map fun cell => (cell.1, change cell.1 cell.2)
  distinct := by
    rw [List.map_map]
    exact row.distinct

/-- `POINTERS`. -/
def pointers (table : String) : List String :=
  match table with
  | "assistant_source_heads" => ["current_revision"]
  | "research_tasks" => ["active_goal_id", "terminal_result_id"]
  | "research_attempts" => ["result_id"]
  | "research_goals" => ["created_by_event_id"]
  | _ => []

/-- `_initial`, the phase-one form of a row: its pointers are NULL, but a terminal task keeps its
result. -/
def initial (table : String) (row : Row) : Row :=
  row.rewrite fun column value =>
    if column ∈ pointers table then
      if table = "research_tasks" ∧ row.get "status" = some (.text "terminal") ∧
          column = "terminal_result_id" then value
      else none
    else value

/-- `isinstance(value, JsonDocument) and value.value`. -/
def Value.filledJson : Value → Bool
  | .json document => document ∉ ["null", "false", "0", "0.0", "-0.0", "\"\"", "[]", "\x7b\x7d"]
  | _ => false

/-! ## The contract of a table -/

structure ForeignKey where
  columns : List String
  table : String
  references : List String

/-- What the mapping says about a target table. The primary key is no pointer. -/
structure Contract (name : String) where
  pk : List String
  fixed : ∀ column ∈ pk, column ∉ pointers name
  foreignKeys : List ForeignKey
  /-- `json_scope_guards`: a column and the table its entries name. -/
  scopeGuards : List (String × String)
  identity : List String
  /-- The primary key of the source table, when there is one. -/
  sourceKey : Option (List String)

/-- The primary key of a row. -/
def Contract.key {name : String} (contract : Contract name) (row : Row) : List (Option Value) :=
  row.select contract.pk

/-- The foreign keys of a table that lead to itself. -/
def Contract.selfKeys {name : String} (contract : Contract name) : List ForeignKey :=
  contract.foreignKeys.filter fun key => key.table = name

/-- The contracts of all target tables. -/
abbrev Schema := (name : String) → Contract name

/-! ## The target -/

/-- `MigrationRejected`. -/
inductive Rejection where
  | migrationInputIdentityConflict
  | newRunRequiresEmptyTarget
  | samePrimaryKeyDifferentPayload
  | unresolvedSelfReferenceCycle
  | batchInputIdentityConflict
  | unresolvedTableDependencyCycle
  | identitySequenceBelowSourceHighwater
  | migrationRunMissing
  | targetRecordMissing
  | targetRowCountMismatch
  | unexpectedNonemptyTargetTable
deriving DecidableEq

/-- A row of `migration_batches` of the run. -/
structure Receipt where
  tableName : String
  /-- `batch_key`: the first and the last key of the batch. -/
  batchKey : List (Option Value) × List (Option Value)
  inputHash : List Row
  inputRows : Nat

def Receipt.key (receipt : Receipt) :
    String × (List (Option Value) × List (Option Value)) :=
  (receipt.tableName, receipt.batchKey)

/-- `migration_runs.status`. -/
inductive RunStatus where
  | inspected
  | planned
  | importing
  | imported
  | validating
  | ready
deriving DecidableEq

/-- The row of `migration_runs`. -/
structure MigrationRun where
  manifestHash : String
  status : RunStatus

/-- The state of an identity sequence. -/
structure Sequence where
  lastValue : Int
  isCalled : Bool

/-- The next value of a sequence. -/
def Sequence.following (sequence : Sequence) : Int :=
  sequence.lastValue + if sequence.isCalled then 1 else 0

/-- The target database, as far as one run of the import reads and writes it. -/
structure Target (schema : Schema) where
  tables : (name : String) → Table (schema name).key
  receipts : Table Receipt.key
  run : Option MigrationRun
  sequences : String → String → Sequence

variable {schema : Schema}

/-- The target with another content of one table. -/
def Target.setTable (target : Target schema) (name : String) (table : Table (schema name).key) :
    Target schema :=
  { target with tables := Function.update target.tables name table }

def Target.setStatus (target : Target schema) (status : RunStatus) : Target schema :=
  { target with run := target.run.map fun run => { run with status := status } }

@[simp] theorem Target.tables_setTable_self (target : Target schema) (name : String)
    (table : Table (schema name).key) : (target.setTable name table).tables name = table := by
  simp [Target.setTable]

variable {name column : String} {row : Row} {change : String → Option Value → Option Value}

theorem Target.tables_setTable_of_ne (target : Target schema) {other : String}
    (table : Table (schema name).key) (different : other ≠ name) :
    (target.setTable name table).tables other = target.tables other := by
  simp [Target.setTable, different]

/-! ## Cells -/

@[ext] theorem Row.ext {one other : Row} (same : one.cells = other.cells) : one = other := by
  cases one
  cases other
  cases same
  rfl

theorem Row.get_of_mem {value : Option Value} (isCell : (column, value) ∈ row.cells) :
    row.get column = value := by
  have found : row.cells.lookup column = some value := by
    obtain ⟨cells, distinct⟩ := row
    induction cells with
    | nil => cases isCell
    | cons cell rest inductionHypothesis =>
        rw [List.map_cons, List.nodup_cons] at distinct
        rcases List.mem_cons.mp isCell with rfl | isCell
        · simp
        · have different : column ≠ cell.1 := fun same =>
            distinct.1 (same ▸ List.mem_map_of_mem (f := Prod.fst) isCell)
          rw [List.lookup_cons, beq_false_of_ne different]
          exact inductionHypothesis distinct.2 isCell
  rw [Row.get, found]
  rfl

theorem Row.get_rewrite_of_same (same : ∀ value, change column value = value) :
    (row.rewrite change).get column = row.get column := by
  have kept : ∀ cells : List (String × Option Value),
      (cells.map fun cell => (cell.1, change cell.1 cell.2)).lookup column =
        cells.lookup column := by
    intro cells
    induction cells with
    | nil => rfl
    | cons cell rest inductionHypothesis =>
        obtain ⟨name, value⟩ := cell
        rw [List.map_cons, List.lookup_cons, List.lookup_cons, inductionHypothesis]
        by_cases isName : column = name
        · simp [← isName, same]
        · rw [beq_false_of_ne isName]
  rw [Row.get, Row.get, Row.rewrite, kept]

theorem Row.rewrite_rewrite (row : Row) (first second : String → Option Value → Option Value) :
    (row.rewrite first).rewrite second =
      row.rewrite fun column value => second column (first column value) := by
  ext1
  simp [Row.rewrite]

theorem Row.rewrite_eq_self
    (same : ∀ column value, (column, value) ∈ row.cells → change column value = value) :
    row.rewrite change = row := by
  ext1
  simp only [Row.rewrite]
  conv_rhs => rw [← List.map_id row.cells]
  apply List.map_congr_left
  rintro ⟨column, value⟩ isCell
  rw [same column value isCell]
  rfl

theorem get_initial_of_not_pointer {table : String} (row : Row)
    (notPointer : column ∉ pointers table) :
    (initial table row).get column = row.get column := by
  apply Row.get_rewrite_of_same
  intro value
  rw [if_neg notPointer]

@[simp] theorem key_initial (contract : Contract name) (row : Row) :
    contract.key (initial name row) = contract.key row := by
  apply List.map_congr_left
  intro column isColumn
  exact get_initial_of_not_pointer row (contract.fixed column isColumn)

end Shiliu.Migration

/-
Module: Shiliu.Migration.Import
Purpose: One invocation of `import_snapshot`, as the list of the states its transactions leave. The
  run is opened; tables are imported when their parents are, with terminal research tasks and what
  belongs to them in one transaction; then the pointers are restored and the identity sequences
  raised, in one transaction; then the target is compared with the source. An invocation may stop
  anywhere: the next one finds one of the states on the list.
Trusted boundary: none
Main exports: Package, beginImport, readyTable, finishImport, importSnapshot, leftAfter, runImport
-/
import Mathlib.Data.List.Infix
import Shiliu.Migration.Batches

namespace Shiliu.Migration

open Shiliu.Library

variable {schema : Schema}

/-! ## The source package -/

/-- What `plan_snapshot` returns for an accepted source: the converted rows of its tables, in the
batches they are read in. Batches are ranges of the primary key, and the primary key of a table with
pointers is the one of its source table. -/
structure Package (schema : Schema) where
  manifestHash : String
  names : List String
  batches : String → List (List Row)
  /-- The tables of the mapping without the seeded ones and the ledger of the import. -/
  mapped : List String
  /-- `sqlite_sequence`. -/
  counters : String → Option Nat
  distinct : names.Nodup
  among : ∀ name ∈ names, name ∈ mapped
  absent : ∀ name, name ∉ names → batches name = []
  filled : ∀ name, ∀ range ∈ batches name, range ≠ []
  apart : ∀ name, (batches name).Pairwise fun one other =>
    ∀ row ∈ one, ∀ row' ∈ other, (schema name).key row ≠ (schema name).key row'
  pointed : ∀ name, pointers name ≠ [] →
    ((batches name).flatten.map (schema name).key).Nodup

/-- `rows[name]`. -/
def Package.rows (package : Package schema) (name : String) : List Row :=
  (package.batches name).flatten

/-! ## The transactions -/

/-- What the opening transaction hands on: `phase_one_allowed` and `ready_replay`. -/
structure Opening where
  phaseOneAllowed : Bool
  readyReplay : Bool

/-- The opening transaction of `_import_snapshot`. -/
def beginImport (package : Package schema) (target : Target schema) :
    Except Rejection (Target schema × Opening) :=
  match target.run with
  | some run =>
      if run.manifestHash ≠ package.manifestHash then .error .migrationInputIdentityConflict
      else
        let allowed := run.status ∈ [RunStatus.inspected, .planned, .importing]
        if run.status = .ready then .ok (target, ⟨allowed, true⟩)
        else .ok (target.setStatus .importing, ⟨allowed, false⟩)
  | none =>
      if package.mapped.any fun name => !(target.tables name).rows.isEmpty then
        .error .newRunRequiresEmptyTarget
      else
        .ok ({ target with run := some ⟨package.manifestHash, .importing⟩ }, ⟨true, false⟩)

/-- `_ready_table`. -/
def readyTable (contract : Contract name) (rows : List Row) (pending : List String) : Bool :=
  rows.all fun row =>
    (contract.scopeGuards.all fun guarded =>
      !((row.get guarded.1).any Value.filledJson && guarded.2 ∈ pending)) &&
    let start := initial name row
    contract.foreignKeys.all fun key =>
      key.table = name || !key.complete start || key.table ∉ pending

/-- The tables of `_terminal_research_group`. -/
def terminalGroup : List String :=
  ["research_tasks", "research_goals", "research_attempts", "research_checkpoints",
    "research_results", "research_task_derivations"]

/-- Some task of the source is terminal. -/
def Package.hasTerminal (package : Package schema) : Bool :=
  (package.rows "research_tasks").any fun row => row.get "status" = some (.text "terminal")

/-- The loop of `_terminal_research_group`. -/
def importGroup (package : Package schema) : List String → Session schema →
    Session schema × Except Rejection Unit
  | [], session => (session, .ok ())
  | name :: rest, session =>
      match tableBatches name false true session (package.batches name) with
      | (after, .ok ()) => importGroup package rest after
      | (after, .error rejection) => (after, .error rejection)

/-- `_terminal_research_group`: one transaction. -/
def terminalResearchGroup (package : Package schema) (session : Session schema) :
    Session schema × Except Rejection Unit :=
  match importGroup package (terminalGroup.filter (· ∈ package.names)) session with
  | (after, .ok ()) => (session.record true after.current, .ok ())
  | (_, .error rejection) => (session, .error rejection)

/-- The inner loop of the import over the tables that were pending when it began. -/
def importRound (package : Package schema) (phaseOneAllowed : Bool) :
    List String → Session schema → List String →
      Session schema × List String × Except Rejection Unit
  | [], session, pending => (session, pending, .ok ())
  | name :: rest, session, pending =>
      if readyTable (schema name) (package.rows name) pending then
        match tableBatches name true phaseOneAllowed session (package.batches name) with
        | (after, .ok ()) => importRound package phaseOneAllowed rest after (pending.erase name)
        | (after, .error rejection) => (after, pending, .error rejection)
      else importRound package phaseOneAllowed rest session pending

/-- `while pending`. -/
def importTables (package : Package schema) (phaseOneAllowed : Bool) :
    (fuel : Nat) → Session schema → List String → Session schema × Except Rejection Unit
  | _, session, [] => (session, .ok ())
  | 0, session, _ :: _ => (session, .error .unresolvedTableDependencyCycle)
  | fuel + 1, session, first :: others =>
      match importRound package phaseOneAllowed (first :: others) session (first :: others) with
      | (after, _, .error rejection) => (after, .error rejection)
      | (after, left, .ok ()) =>
          if left.length = (first :: others).length then
            (after, .error .unresolvedTableDependencyCycle)
          else importTables package phaseOneAllowed fuel after left

/-! ### Pointers -/

/-- The updates of the pointers of one row: those the source has a value for. -/
def Row.restored (name : String) (source row : Row) : Row :=
  row.rewrite fun column old =>
    if column ∈ pointers name then (source.get column).or old else old

/-- The same as a change of a table. -/
def restoreChange (contract : Contract name) (source : Row) : Change contract.key where
  apply row := Row.restored name source row
  keeps row := by
    apply List.map_congr_left
    intro column isColumn
    apply Row.get_rewrite_of_same
    intro value
    rw [if_neg (contract.fixed column isColumn)]

/-- The loop over the rows of one table of `POINTERS`. -/
def restoreTable (package : Package schema) (target : Target schema) (name : String) :
    Target schema :=
  target.setTable name ((package.rows name).foldl
    (fun table row => table.modify ((schema name).key row) (restoreChange (schema name) row))
    (target.tables name))

/-- The loop over `POINTERS`. -/
def restorePointers (package : Package schema) (target : Target schema) : Target schema :=
  ["assistant_source_heads", "research_tasks", "research_attempts", "research_goals"].foldl
    (restoreTable package) target

/-! ### Sequences -/

/-- The integers of a column. -/
def Value.asInteger : Value → Option Int
  | .integer value => some value
  | _ => none

def integers (rows : List Row) (column : String) : List Int :=
  rows.filterMap fun row => (row.get column).bind Value.asInteger

/-- The entry of `floors` for an identity column, 0 when there is none. -/
def sourceFloor (package : Package schema) (name column : String) : Int :=
  if (schema name).sourceKey.any fun key => column ∈ key then (package.counters name).getD 0 else 0

/-- `floor` of `check`. -/
def identityFloor (package : Package schema) (target : Target schema) (name column : String) :
    Int :=
  max ((integers (target.tables name).rows column).max?.getD 0) (sourceFloor package name column)

/-- The identity columns `check` goes through. -/
def identityColumns (package : Package schema) : List (String × String) :=
  package.mapped.flatMap fun name => (schema name).identity.map fun column => (name, column)

/-- One turn of the loop of `check` with `calibrate`. -/
def calibrateColumn (package : Package schema) (target : Target schema)
    (column : String × String) : Target schema :=
  let floor := identityFloor package target column.1 column.2
  if (target.sequences column.1 column.2).following ≤ floor then
    { target with
      sequences := fun name other =>
        if (name, other) = column then ⟨floor, true⟩ else target.sequences name other }
  else target

/-- `check` without `calibrate`. -/
def sequencesChecked (package : Package schema) (target : Target schema) : Bool :=
  (identityColumns package).all fun column =>
    identityFloor package target column.1 column.2 <
      (target.sequences column.1 column.2).following

/-! ### The end -/

/-- `setval` is not undone with its transaction: what a stop inside the closing one leaves. -/
def closingStops (package : Package schema) (target restored : Target schema) :
    List (Target schema) :=
  (identityColumns package).inits.map fun done =>
    { target with sequences := (done.foldl (calibrateColumn package) restored).sequences }

/-- The closing transaction. -/
def closeImport (package : Package schema) (session : Session schema) : Session schema :=
  let restored := restorePointers package session.current
  let calibrated := (identityColumns package).foldl (calibrateColumn package) restored
  let closed := calibrated.setStatus .imported
  { current := closed
    states := session.states ++ closingStops package session.current restored ++ [closed] }

/-- `validate_snapshot`, as far as it reads what the import writes. -/
def validateSnapshot (package : Package schema) (target : Target schema) :
    Except Rejection Unit :=
  match target.run with
  | none => .error .migrationRunMissing
  | some run =>
      if run.manifestHash ≠ package.manifestHash then .error .migrationInputIdentityConflict
      else if !package.names.all fun name => (package.rows name).all fun row =>
          ((target.tables name).lookup ((schema name).key row)).isSome then
        .error .targetRecordMissing
      else if !package.names.all fun name => (package.rows name).all fun row =>
          (target.tables name).lookup ((schema name).key row) = some row then
        .error .samePrimaryKeyDifferentPayload
      else if !package.names.all fun name =>
          (target.tables name).rows.length = (package.rows name).length then
        .error .targetRowCountMismatch
      else if package.mapped.any fun name =>
          name ∉ package.names && !(target.tables name).rows.isEmpty then
        .error .unexpectedNonemptyTargetTable
      else if !sequencesChecked package target then .error .identitySequenceBelowSourceHighwater
      else .ok ()

/-- The terminal research tasks, when there are some, are imported first. -/
def importTerminal (package : Package schema) (session : Session schema) :
    Session schema × Except Rejection Unit :=
  if package.hasTerminal then terminalResearchGroup package session else (session, .ok ())

/-- `pending` after them. -/
def pendingTables (package : Package schema) : List String :=
  if package.hasTerminal then package.names.filter (· ∉ terminalGroup) else package.names

/-- What follows the import of the tables. -/
def finishImport (package : Package schema) (session : Session schema) :
    Session schema × Except Rejection Unit :=
  let closed := closeImport package session
  let validating := closed.record true (closed.current.setStatus .validating)
  match validateSnapshot package validating.current with
  | .error rejection => (validating, .error rejection)
  | .ok () => (validating.record true (validating.current.setStatus .ready), .ok ())

/-- `_import_snapshot`. -/
def importSnapshot (package : Package schema) (target : Target schema) :
    Session schema × Except Rejection Unit :=
  match beginImport package target with
  | .error rejection => (⟨target, []⟩, .error rejection)
  | .ok (begun, opening) =>
      if opening.readyReplay then (⟨begun, [begun]⟩, validateSnapshot package begun)
      else
        match importTerminal package ⟨begun, [begun]⟩ with
        | (after, .error rejection) => (after, .error rejection)
        | (after, .ok ()) =>
            match importTables package opening.phaseOneAllowed (pendingTables package).length after
              (pendingTables package) with
            | (after, .error rejection) => (after, .error rejection)
            | (after, .ok ()) => finishImport package after

/-! ## Invocations that may stop -/

/-- What an invocation leaves: all its work, or what its first transactions left. -/
def leftAfter (package : Package schema) (target : Target schema) (stop : Option Nat) :
    Target schema :=
  match stop with
  | none => (importSnapshot package target).1.current
  | some count => ((target :: (importSnapshot package target).1.states)[count]?).getD target

/-- Invocations one after the other. -/
def runImport (package : Package schema) (start : Target schema) (stops : List (Option Nat)) :
    Target schema :=
  stops.foldl (leftAfter package) start

end Shiliu.Migration

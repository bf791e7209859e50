/-
Module: Shiliu.Migration.Batches
Purpose: How one table is imported. The source is read in ranges of its primary key; a range waits
  until the rows its rows refer to are in the range or in the table, and is then written in one
  transaction with its receipt; inside a range a row waits for the rows of the range it refers to. A
  range that has a receipt is compared with the table instead of being written.
Trusted boundary: none
Main exports: insertRow, insertOrdered, batch, Grown, batch_receipts, Session, tableBatches, pages
-/
import Shiliu.Library.Rounds
import Shiliu.Migration.Rows

namespace Shiliu.Migration

open Shiliu.Library

variable {schema : Schema} {name : String}

/-! ## References inside a table -/

/-- No column of the reference is NULL. -/
def ForeignKey.complete (key : ForeignKey) (row : Row) : Bool :=
  (row.select key.columns).all Option.isSome

/-- One of the rows is what a row refers to. -/
def ForeignKey.found (key : ForeignKey) (rows : List Row) (row : Row) : Bool :=
  rows.any fun other => other.select key.references = row.select key.columns

/-- The inner loop of `_insert_ordered` over the foreign keys. -/
def blockedBy (contract : Contract name) (table : Table contract.key) (start : Row) : Bool :=
  contract.selfKeys.any fun key =>
    key.complete start && !decide (start.select key.references = start.select key.columns) &&
      !key.found table.rows start

/-- `_self_parents_available`. -/
def selfParentsAvailable (contract : Contract name) (table : Table contract.key)
    (rows : List Row) : Bool :=
  contract.selfKeys.all fun key =>
    rows.all fun row => !key.complete row || key.found rows row || key.found table.rows row

/-! ## One range -/

/-- One turn of the loop of `_insert_ordered`. -/
def insertRow (contract : Contract name) (table : Table contract.key) (row : Row) :
    Except Rejection (Option (Table contract.key)) :=
  let start := initial name row
  match table.lookup (contract.key row) with
  | some existing =>
      if existing = row ∨ existing = start then .ok (some table)
      else .error .samePrimaryKeyDifferentPayload
  | none =>
      if blockedBy contract table start then .ok none
      else .ok (some (table.insert start))

/-- `_insert_ordered`. -/
def insertOrdered (contract : Contract name) (table : Table contract.key) (rows : List Row) :
    Except Rejection (Table contract.key) :=
  match rounds (insertRow contract) .unresolvedSelfReferenceCycle rows.length table rows with
  | (after, .ok ()) => .ok after
  | (_, .error rejection) => .error rejection

/-- `batch_key`, the first and the last key. -/
def batchKey (contract : Contract name) (expected : List Row) :
    List (Option Value) × List (Option Value) :=
  ((expected.head?.map contract.key).getD [], (expected.getLast?.map contract.key).getD [])

/-- The comparison of a range that has a receipt. -/
def rowAgrees (contract : Contract name) (table : Table contract.key) (phaseOneAllowed : Bool)
    (row : Row) : Bool :=
  (table.lookup (contract.key row)).any fun found =>
    found = row ∨ (phaseOneAllowed ∧ found = initial name row)

/-- The receipt of a range. -/
def receiptOf (contract : Contract name) (expected : List Row) : Receipt where
  tableName := name
  batchKey := batchKey contract expected
  inputHash := expected
  inputRows := expected.length

/-- `_batch`. -/
def batch (name : String) (phaseOneAllowed : Bool) (target : Target schema)
    (expected : List Row) : Except Rejection (Target schema) :=
  match target.receipts.lookup (name, batchKey (schema name) expected) with
  | some prior =>
      if prior.inputHash ≠ expected ∨ prior.inputRows ≠ expected.length then
        .error .batchInputIdentityConflict
      else if expected.all (rowAgrees (schema name) (target.tables name) phaseOneAllowed) then
        .ok target
      else .error .samePrimaryKeyDifferentPayload
  | none =>
      match insertOrdered (schema name) (target.tables name) expected with
      | .error rejection => .error rejection
      | .ok table =>
          let written := target.setTable name table
          .ok { written with
            receipts := written.receipts.insert (receiptOf (schema name) expected) }

/-! ### What inserting does -/

section Inserting

variable {contract : Contract name} {table after : Table contract.key} {range : List Row}

/-- The table has a row with the key of a row. -/
def Committed (contract : Contract name) (table : Table contract.key) (row : Row) : Prop :=
  ∃ entry ∈ table, contract.key entry = contract.key row

/-- Phase-one forms of some rows were added, and nothing was lost. -/
structure Grown (contract : Contract name) (range : List Row) (before after : Table contract.key) :
    Prop where
  committed : ∀ row ∈ range, Committed contract after row
  kept : ∀ entry ∈ before, entry ∈ after
  only : ∀ entry ∈ after, entry ∈ before ∨ ∃ row ∈ range, entry = initial name row

theorem insertRow_grows {row : Row} (done : insertRow contract table row = .ok (some after)) :
    Grown contract [row] table after := by
  unfold insertRow at done
  cases found : table.lookup (contract.key row) with
  | some existing =>
      simp only [found] at done
      split at done
      · cases done
        have isExisting := Table.lookup_eq_some.mp found
        constructor
        · intro other isOther
          rw [List.mem_singleton.mp isOther]
          exact ⟨existing, isExisting.1, isExisting.2⟩
        · exact fun entry isEntry => isEntry
        · exact fun entry isEntry => .inl isEntry
      · cases done
  | none =>
      simp only [found] at done
      split at done
      · cases done
      · cases done
        have absent : table.lookup (contract.key (initial name row)) = none := by rwa [key_initial]
        constructor
        · intro other isOther
          rw [List.mem_singleton.mp isOther]
          exact ⟨initial name row, (Table.mem_insert absent).mpr (.inr rfl),
            key_initial contract row⟩
        · exact fun entry isEntry => (Table.mem_insert absent).mpr (.inl isEntry)
        · intro entry isEntry
          exact ((Table.mem_insert absent).mp isEntry).imp_right fun isNew =>
            ⟨row, List.mem_singleton_self row, isNew⟩

theorem insertOrdered_eq_ok :
    insertOrdered contract table range = .ok after ↔
      (rounds (insertRow contract) .unresolvedSelfReferenceCycle range.length table range).1 = after ∧
        (rounds (insertRow contract) .unresolvedSelfReferenceCycle range.length table range).2 =
          .ok () := by
  unfold insertOrdered
  rcases rounds (insertRow contract) Rejection.unresolvedSelfReferenceCycle range.length table range
    with ⟨last, rejection | ⟨⟩⟩
  · constructor
    · intro absurdity
      cases absurdity
    · rintro ⟨_, absurdity⟩
      cases absurdity
  · simp

theorem insertOrdered_grows (done : insertOrdered contract table range = .ok after) :
    Grown contract range table after := by
  obtain ⟨isAfter, ended⟩ := insertOrdered_eq_ok.mp done
  have keeps : (∀ entry ∈ table, entry ∈ after) ∧
      ∀ entry ∈ after, entry ∈ table ∨ ∃ row ∈ range, entry = initial name row := by
    rw [← isAfter]
    apply rounds_keeps fun last => (∀ entry ∈ table, entry ∈ last) ∧
      ∀ entry ∈ last, entry ∈ table ∨ ∃ row ∈ range, entry = initial name row
    · intro last row next isRow holds inserted
      have grown := insertRow_grows inserted
      refine ⟨fun entry isEntry => grown.kept entry (holds.1 entry isEntry), ?_⟩
      intro entry isEntry
      rcases grown.only entry isEntry with isOld | ⟨new, isNew, isForm⟩
      · exact holds.2 entry isOld
      · exact .inr ⟨row, isRow, List.mem_singleton.mp isNew ▸ isForm⟩
    · exact ⟨fun _ isEntry => isEntry, fun _ isEntry => .inl isEntry⟩
  refine ⟨?_, keeps.1, keeps.2⟩
  rw [← isAfter]
  apply rounds_done fun last row => Committed contract last row
  · exact fun last row next inserted =>
      (insertRow_grows inserted).committed row (List.mem_singleton_self row)
  · rintro last row next other inserted ⟨entry, isEntry, sameKey⟩
    exact ⟨entry, (insertRow_grows inserted).kept entry isEntry, sameKey⟩
  · exact ended

end Inserting

section Batch

variable {phaseOneAllowed : Bool} {target after : Target schema} {range : List Row}

/-- A range that is done has a receipt. -/
def HasReceipt (name : String) (target : Target schema) (range : List Row) : Prop :=
  (target.receipts.lookup (name, batchKey (schema name) range)).isSome = true

theorem receiptOf_key (range : List Row) :
    (receiptOf (schema name) range).key = (name, batchKey (schema name) range) := rfl

/-- The two ways `_batch` goes well: the range has its receipt and agrees with the table, or it is
inserted and gets its receipt. -/
theorem batch_cases (done : batch name phaseOneAllowed target range = .ok after) :
    (∃ prior, target.receipts.lookup (name, batchKey (schema name) range) = some prior ∧
        (∀ row ∈ range, rowAgrees (schema name) (target.tables name) phaseOneAllowed row = true) ∧
        after = target) ∨
      (target.receipts.lookup (name, batchKey (schema name) range) = none ∧
        ∃ table, insertOrdered (schema name) (target.tables name) range = .ok table ∧
          after = { target.setTable name table with
            receipts := target.receipts.insert (receiptOf (schema name) range) }) := by
  unfold batch at done
  cases found : target.receipts.lookup (name, batchKey (schema name) range) with
  | some prior =>
      simp only [found] at done
      split at done
      · cases done
      · split at done
        · rename_i agree
          cases done
          exact .inl ⟨prior, rfl, List.all_eq_true.mp agree, rfl⟩
        · cases done
  | none =>
      simp only [found] at done
      cases inserted : insertOrdered (schema name) (target.tables name) range with
      | error rejection =>
          rw [inserted] at done
          cases done
      | ok table =>
          rw [inserted] at done
          cases done
          exact .inr ⟨rfl, table, rfl, rfl⟩

/-- `_batch` adds the receipt of the range and touches no other one. -/
theorem batch_receipts (done : batch name phaseOneAllowed target range = .ok after) :
    HasReceipt name after range ∧
      (∀ key receipt, target.receipts.lookup key = some receipt →
        after.receipts.lookup key = some receipt) ∧
      (∀ key receipt, after.receipts.lookup key = some receipt →
        target.receipts.lookup key = some receipt ∨
          (key = (name, batchKey (schema name) range) ∧
            receipt = receiptOf (schema name) range)) := by
  rcases batch_cases done with ⟨prior, found, _, rfl⟩ | ⟨absent, table, _, rfl⟩
  · refine ⟨?_, fun _ _ isReceipt => isReceipt, fun _ _ isReceipt => .inl isReceipt⟩
    rw [HasReceipt, found]
    rfl
  · rw [← receiptOf_key] at absent
    refine ⟨?_, ?_, ?_⟩
    · rw [HasReceipt, ← receiptOf_key, Table.lookup_insert_self absent]
      rfl
    · exact fun key receipt isReceipt => Table.lookup_insert_of_lookup isReceipt
    · intro key receipt isReceipt
      rcases Table.lookup_insert_cases isReceipt with isOld | ⟨_, isKey, isNew⟩
      · exact .inl isOld
      · exact .inr ⟨isKey, isNew⟩

end Batch

/-! ## One table -/

/-- A connection of the import: what its last transaction has left, and every state a stop may
leave so far, in order. -/
structure Session (schema : Schema) where
  current : Target schema
  states : List (Target schema)

/-- The end of a transaction. Without `commit` it is a part of a larger one. -/
def Session.record (session : Session schema) (commit : Bool) (target : Target schema) :
    Session schema where
  current := target
  states := if commit then session.states ++ [target] else session.states

/-- One turn of the loop of `_table_batches`. -/
def tryBatch (name : String) (commit phaseOneAllowed : Bool) (session : Session schema)
    (expected : List Row) : Except Rejection (Option (Session schema)) :=
  if selfParentsAvailable (schema name) (session.current.tables name) expected then
    match batch name phaseOneAllowed session.current expected with
    | .error rejection => .error rejection
    | .ok target => .ok (some (session.record commit target))
  else .ok none

/-- `_table_batches`. A range that is finished is not looked at again. -/
def tableBatches (name : String) (commit phaseOneAllowed : Bool) (session : Session schema)
    (batches : List (List Row)) : Session schema × Except Rejection Unit :=
  rounds (tryBatch name commit phaseOneAllowed) .unresolvedSelfReferenceCycle batches.length
    session batches

theorem tryBatch_eq_some {commit phaseOneAllowed : Bool} {session next : Session schema}
    {range : List Row} :
    tryBatch name commit phaseOneAllowed session range = .ok (some next) ↔
      selfParentsAvailable (schema name) (session.current.tables name) range = true ∧
        ∃ after, batch name phaseOneAllowed session.current range = .ok after ∧
          next = session.record commit after := by
  unfold tryBatch
  cases available : selfParentsAvailable (schema name) (session.current.tables name) range with
  | false => simp
  | true =>
      cases done : batch name phaseOneAllowed session.current range with
      | error rejection => simp
      | ok after => simp [eq_comm]

/-- `BATCH_SIZE`. -/
def batchSize : Nat := 128

/-- `SourceRows.batches`: the rows in key order, `size` at a time. -/
def pagesFrom (size : Nat) : (fuel : Nat) → List Row → List (List Row)
  | 0, _ => []
  | fuel + 1, rows =>
      if rows = [] then [] else rows.take size :: pagesFrom size fuel (rows.drop size)

def pages (size : Nat) (rows : List Row) : List (List Row) := pagesFrom size rows.length rows

theorem pagesFrom_flatten {size : Nat} (positive : 0 < size) (fuel : Nat) {rows : List Row}
    (enough : rows.length ≤ fuel) : (pagesFrom size fuel rows).flatten = rows := by
  induction fuel generalizing rows with
  | zero =>
      rw [List.eq_nil_of_length_eq_zero (Nat.le_zero.mp enough)]
      rfl
  | succ fuel inductionHypothesis =>
      rw [pagesFrom]
      split
      · rename_i isEmpty
        rw [isEmpty]
        rfl
      · rename_i filled
        have some_ : 0 < rows.length := List.length_pos_iff.mpr filled
        rw [List.flatten_cons, inductionHypothesis, List.take_append_drop]
        rw [List.length_drop]
        omega

theorem pages_flatten {size : Nat} (positive : 0 < size) (rows : List Row) :
    (pages size rows).flatten = rows :=
  pagesFrom_flatten positive rows.length le_rfl

theorem pagesFrom_filled {size : Nat} (positive : 0 < size) (fuel : Nat) (rows : List Row) :
    ∀ page ∈ pagesFrom size fuel rows, page ≠ [] := by
  induction fuel generalizing rows with
  | zero =>
      intro page absurdity
      cases absurdity
  | succ fuel inductionHypothesis =>
      intro page isPage
      rw [pagesFrom] at isPage
      split at isPage
      · cases isPage
      · rename_i filled
        rcases List.mem_cons.mp isPage with rfl | isPage
        · intro isEmpty
          rcases List.take_eq_nil_iff.mp isEmpty with isZero | isNil
          · omega
          · exact filled isNil
        · exact inductionHypothesis _ page isPage

end Shiliu.Migration

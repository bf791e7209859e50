/-
Module: Shiliu.Migration.Resumption
Purpose: Invocations of the import that stop anywhere and start again. Every state a stop can leave
  holds converted rows and phase-one forms only, with a receipt for exactly the batches that are
  there, and no sequence is lowered. An invocation that returns has compared every row, so the target
  is the source; one that finds a row that is neither form of its source row is refused before it
  writes into that table.
Trusted boundary: none
Main exports: Kept, Resumable, Exact, import_resumes, terminal_pointer_kept
-/
import Mathlib.Data.List.Pairwise
import Shiliu.Migration.Import

set_option linter.all false

namespace Shiliu.Migration

open Shiliu.Library

variable {schema : Schema} {package : Package schema} {target : Target schema}

/-! ## What an invocation keeps -/

/-- The current state and all states of a session have a property. -/
def Throughout (Keeps : Target schema → Prop) (session : Session schema) : Prop :=
  Keeps session.current ∧ ∀ state ∈ session.states, Keeps state

/-- Every batch of the package keeps a property. -/
def KeptByBatches (package : Package schema) (Keeps : Target schema → Prop) : Prop :=
  ∀ name phaseOneAllowed target range after, range ∈ package.batches name → Keeps target →
    batch name phaseOneAllowed target range = .ok after → Keeps after

/-- Every transaction of an invocation keeps a property, also when it is stopped inside. -/
structure Kept (package : Package schema) (Keeps : Target schema → Prop) : Prop where
  opened : ∀ target begun opening, Keeps target →
    beginImport package target = .ok (begun, opening) → Keeps begun
  batches : KeptByBatches package Keeps
  stopped : ∀ target, Keeps target →
    ∀ state ∈ closingStops package target (restorePointers package target), Keeps state
  closed : ∀ target, Keeps target →
    Keeps ((identityColumns package).foldl (calibrateColumn package)
      (restorePointers package target))
  status : ∀ target status, Keeps target → Keeps (target.setStatus status)

section Keeps

variable {Keeps : Target schema → Prop} {session : Session schema}

theorem Throughout.record (holds : Throughout Keeps session) (commit : Bool)
    (next : Keeps target) : Throughout Keeps (session.record commit target) := by
  refine ⟨next, ?_⟩
  intro state isState
  cases commit with
  | false => exact holds.2 state isState
  | true =>
      rcases List.mem_append.mp isState with isOld | isNew
      · exact holds.2 state isOld
      · rw [List.mem_singleton.mp isNew]
        exact next

theorem tableBatches_keeps (kept : KeptByBatches package Keeps) (name : String)
    (commit phaseOneAllowed : Bool) (holds : Throughout Keeps session) :
    Throughout Keeps
      (tableBatches name commit phaseOneAllowed session (package.batches name)).1 := by
  apply rounds_keeps fun last => Throughout Keeps last
  · intro last range next isRange holds tried
    obtain ⟨_, after, done, rfl⟩ := tryBatch_eq_some.mp tried
    exact holds.record commit
      (kept name phaseOneAllowed last.current range after isRange holds.1 done)
  · exact holds

theorem importGroup_keeps (kept : KeptByBatches package Keeps) (group : List String)
    (holds : Throughout Keeps session) : Throughout Keeps (importGroup package group session).1 := by
  induction group generalizing session with
  | nil => exact holds
  | cons name rest inductionHypothesis =>
      have written := tableBatches_keeps kept name false true holds
      rcases isWritten : tableBatches name false true session (package.batches name) with
        ⟨after, rejection | ⟨⟩⟩
      · rw [importGroup, isWritten]
        rw [isWritten] at written
        exact written
      · rw [importGroup, isWritten]
        rw [isWritten] at written
        exact inductionHypothesis written

theorem terminalResearchGroup_keeps (kept : KeptByBatches package Keeps)
    (holds : Throughout Keeps session) :
    Throughout Keeps (terminalResearchGroup package session).1 := by
  have written := importGroup_keeps kept (terminalGroup.filter (· ∈ package.names)) holds
  rcases isWritten : importGroup package (terminalGroup.filter (· ∈ package.names)) session with
    ⟨after, rejection | ⟨⟩⟩
  · rw [terminalResearchGroup, isWritten]
    exact holds
  · rw [terminalResearchGroup, isWritten]
    rw [isWritten] at written
    exact holds.record true written.1

theorem importRound_keeps (kept : KeptByBatches package Keeps) (phaseOneAllowed : Bool)
    (names pending : List String) (holds : Throughout Keeps session) :
    Throughout Keeps (importRound package phaseOneAllowed names session pending).1 := by
  induction names generalizing session pending with
  | nil => exact holds
  | cons name rest inductionHypothesis =>
      rw [importRound]
      split
      · have written := tableBatches_keeps kept name true phaseOneAllowed holds
        rcases isWritten : tableBatches name true phaseOneAllowed session (package.batches name)
          with ⟨after, rejection | ⟨⟩⟩
        · rw [isWritten] at written
          exact written
        · rw [isWritten] at written
          exact inductionHypothesis (pending.erase name) written
      · exact inductionHypothesis pending holds

theorem importTables_keeps (kept : KeptByBatches package Keeps) (phaseOneAllowed : Bool)
    (fuel : Nat) (pending : List String) (holds : Throughout Keeps session) :
    Throughout Keeps (importTables package phaseOneAllowed fuel session pending).1 := by
  induction fuel generalizing session pending with
  | zero =>
      cases pending with
      | nil => exact holds
      | cons name rest => exact holds
  | succ fuel inductionHypothesis =>
      cases pending with
      | nil => exact holds
      | cons name rest =>
          have round := importRound_keeps kept phaseOneAllowed (name :: rest) (name :: rest) holds
          rcases isRound : importRound package phaseOneAllowed (name :: rest) session (name :: rest)
            with ⟨after, left, rejection | ⟨⟩⟩
          · rw [importTables, isRound]
            rw [isRound] at round
            exact round
          · rw [importTables, isRound]
            rw [isRound] at round
            simp only
            split
            · exact round
            · exact inductionHypothesis left round

theorem closeImport_keeps (kept : Kept package Keeps) (holds : Throughout Keeps session) :
    Throughout Keeps (closeImport package session) := by
  have closed := kept.status _ .imported (kept.closed session.current holds.1)
  refine ⟨closed, ?_⟩
  intro state isState
  rcases List.mem_append.mp isState with isOpen | isClosed
  · rcases List.mem_append.mp isOpen with isOld | isStopped
    · exact holds.2 state isOld
    · exact kept.stopped session.current holds.1 state isStopped
  · rw [List.mem_singleton.mp isClosed]
    exact closed

theorem importTerminal_keeps (kept : KeptByBatches package Keeps)
    (holds : Throughout Keeps session) : Throughout Keeps (importTerminal package session).1 := by
  unfold importTerminal
  split
  · exact terminalResearchGroup_keeps kept holds
  · exact holds

theorem finishImport_keeps (kept : Kept package Keeps) (holds : Throughout Keeps session) :
    Throughout Keeps (finishImport package session).1 := by
  have closed := closeImport_keeps kept holds
  have validating := closed.record true (kept.status _ .validating closed.1)
  unfold finishImport
  simp only
  split
  · exact validating
  · exact validating.record true (kept.status _ .ready validating.1)

/-- What the transactions keep holds in every state of an invocation. -/
theorem Kept.throughout (kept : Kept package Keeps) (holds : Keeps target) :
    Throughout Keeps (importSnapshot package target).1 := by
  unfold importSnapshot
  rcases isOpen : beginImport package target with rejection | ⟨begun, opening⟩
  · refine ⟨holds, ?_⟩
    intro state absurdity
    cases absurdity
  · have opened := kept.opened target begun opening holds isOpen
    have start : Throughout Keeps (⟨begun, [begun]⟩ : Session schema) := by
      refine ⟨opened, ?_⟩
      intro state isState
      rw [List.mem_singleton.mp isState]
      exact opened
    simp only
    split
    · exact start
    · have grouped := importTerminal_keeps kept.batches start
      rcases isGrouped : importTerminal package ⟨begun, [begun]⟩ with ⟨after, rejection | ⟨⟩⟩
      · rw [isGrouped] at grouped
        exact grouped
      · rw [isGrouped] at grouped
        have tables := importTables_keeps kept.batches opening.phaseOneAllowed
          (pendingTables package).length (pendingTables package) grouped
        simp only
        rcases isTables : importTables package opening.phaseOneAllowed
          (pendingTables package).length after (pendingTables package) with
            ⟨last, rejection | ⟨⟩⟩
        · rw [isTables] at tables
          exact tables
        · rw [isTables] at tables
          exact finishImport_keeps kept tables

/-- What all states of an invocation have, the state a stop leaves has. -/
theorem leftAfter_keeps (holds : Keeps target)
    (throughout : Throughout Keeps (importSnapshot package target).1) (stop : Option Nat) :
    Keeps (leftAfter package target stop) := by
  cases stop with
  | none => exact throughout.1
  | some count =>
      simp only [leftAfter]
      cases found : (target :: (importSnapshot package target).1.states)[count]? with
      | none => exact holds
      | some state =>
          rcases List.mem_cons.mp (List.mem_of_getElem? found) with rfl | isState
          · exact holds
          · exact throughout.2 state isState

theorem runImport_keeps
    (throughout : ∀ target, Keeps target → Throughout Keeps (importSnapshot package target).1)
    (holds : Keeps target) (stops : List (Option Nat)) : Keeps (runImport package target stops) := by
  induction stops generalizing target with
  | nil => exact holds
  | cons stop rest inductionHypothesis =>
      exact inductionHypothesis (leftAfter_keeps holds (throughout target holds) stop)

theorem Kept.runImport (kept : Kept package Keeps) (holds : Keeps target)
    (stops : List (Option Nat)) : Keeps (runImport package target stops) :=
  runImport_keeps (fun _ holds => kept.throughout holds) holds stops

end Keeps

/-! ## What every state holds -/

/-- Every row is a converted row or its phase-one form, a batch has its receipt exactly when all its
rows are there, and no row of a batch is there alone. -/
structure Resumable (package : Package schema) (target : Target schema) : Prop where
  rows : ∀ name ∈ package.mapped, ∀ entry ∈ target.tables name,
    ∃ row ∈ package.rows name, entry = row ∨ entry = initial name row
  receipts : ∀ name, ∀ range ∈ package.batches name, HasReceipt name target range ↔
    ∀ row ∈ range, Committed (schema name) (target.tables name) row
  whole : ∀ name, ∀ range ∈ package.batches name, ∀ row ∈ range,
    Committed (schema name) (target.tables name) row → HasReceipt name target range

section Batches

variable {name : String} {range other : List Row}

theorem Package.mem_rows (isRange : range ∈ package.batches name) {row : Row}
    (isRow : row ∈ range) : row ∈ package.rows name :=
  List.mem_flatten.mpr ⟨range, isRange, isRow⟩

theorem Package.apart_of_ne (isRange : range ∈ package.batches name)
    (isOther : other ∈ package.batches name) (different : range ≠ other) :
    ∀ row ∈ range, ∀ row' ∈ other, (schema name).key row ≠ (schema name).key row' := by
  have symmetric : Std.Symm fun one other : List Row =>
      ∀ row ∈ one, ∀ row' ∈ other, (schema name).key row ≠ (schema name).key row' :=
    ⟨fun _ _ apart row isRow row' isRow' same => apart row' isRow' row isRow same.symm⟩
  exact (package.apart name).forall isRange isOther different

theorem Package.batchKey_inj (isRange : range ∈ package.batches name)
    (isOther : other ∈ package.batches name)
    (same : batchKey (schema name) range = batchKey (schema name) other) : range = other := by
  obtain ⟨head, rest, rfl⟩ := List.exists_cons_of_ne_nil (package.filled name range isRange)
  obtain ⟨otherHead, otherRest, rfl⟩ :=
    List.exists_cons_of_ne_nil (package.filled name other isOther)
  by_contra different
  exact Package.apart_of_ne isRange isOther different head List.mem_cons_self otherHead
    List.mem_cons_self (Prod.mk.inj same).1

theorem written_elsewhere {phaseOneAllowed : Bool} {after : Target schema}
    (isRange : range ∈ package.batches name)
    (done : batch name phaseOneAllowed target range = .ok after) {reached : String}
    {reachedRange : List Row} (isReached : reachedRange ∈ package.batches reached)
    (different : ¬ (reached = name ∧ reachedRange = range)) :
    (HasReceipt reached after reachedRange ↔ HasReceipt reached target reachedRange) ∧
      ∀ row ∈ reachedRange, (Committed (schema reached) (after.tables reached) row ↔
        Committed (schema reached) (target.tables reached) row) := by
  obtain ⟨_, keeps, receipts⟩ := batch_receipts done
  constructor
  · simp only [HasReceipt, Option.isSome_iff_exists]
    constructor
    · rintro ⟨receipt, isReceipt⟩
      rcases receipts _ receipt isReceipt with isOld | ⟨isKey, _⟩
      · exact ⟨receipt, isOld⟩
      · obtain ⟨rfl, isKey⟩ := Prod.mk.inj isKey
        exact absurd ⟨rfl, Package.batchKey_inj isReached isRange isKey⟩ different
    · rintro ⟨receipt, isReceipt⟩
      exact ⟨receipt, keeps _ receipt isReceipt⟩
  · intro row isRow
    rcases batch_cases done with ⟨_, _, _, rfl⟩ | ⟨_, table, inserted, rfl⟩
    · exact Iff.rfl
    · have grown := insertOrdered_grows inserted
      by_cases sameName : reached = name
      · subst sameName
        rw [Target.tables_setTable_self]
        constructor
        · rintro ⟨entry, isEntry, isKey⟩
          rcases grown.only entry isEntry with isOld | ⟨new, isNew, rfl⟩
          · exact ⟨entry, isOld, isKey⟩
          · rw [key_initial] at isKey
            have apart : reachedRange ≠ range := fun sameRange => different ⟨rfl, sameRange⟩
            exact absurd isKey.symm
              (Package.apart_of_ne isReached isRange apart row isRow new isNew)
        · rintro ⟨entry, isEntry, isKey⟩
          exact ⟨entry, grown.kept entry isEntry, isKey⟩
      · rw [Target.tables_setTable_of_ne target table sameName]

theorem Resumable.batch_kept : KeptByBatches package (Resumable package) := by
  intro name phaseOneAllowed target range after isRange holds done
  have hasReceipt := (batch_receipts done).1
  have committed : ∀ row ∈ range, Committed (schema name) (after.tables name) row := by
    rcases batch_cases done with ⟨prior, found, _, rfl⟩ | ⟨_, table, inserted, rfl⟩
    · exact (holds.receipts name range isRange).mp hasReceipt
    · rw [Target.tables_setTable_self]
      exact (insertOrdered_grows inserted).committed
  constructor
  · intro reached isMapped entry isEntry
    rcases batch_cases done with ⟨_, _, _, rfl⟩ | ⟨_, table, inserted, rfl⟩
    · exact holds.rows reached isMapped entry isEntry
    · by_cases same : reached = name
      · subst same
        rw [Target.tables_setTable_self] at isEntry
        rcases (insertOrdered_grows inserted).only entry isEntry with isOld | ⟨row, isRow, isForm⟩
        · exact holds.rows reached isMapped entry isOld
        · exact ⟨row, Package.mem_rows isRange isRow, .inr isForm⟩
      · rw [Target.tables_setTable_of_ne target table same] at isEntry
        exact holds.rows reached isMapped entry isEntry
  · intro reached reachedRange isReached
    by_cases same : reached = name ∧ reachedRange = range
    · obtain ⟨rfl, rfl⟩ := same
      exact ⟨fun _ => committed, fun _ => hasReceipt⟩
    · obtain ⟨sameReceipt, sameRows⟩ := written_elsewhere isRange done isReached same
      rw [sameReceipt, holds.receipts reached reachedRange isReached]
      exact forall₂_congr fun row isRow => (sameRows row isRow).symm
  · intro reached reachedRange isReached row isRow isCommitted
    by_cases same : reached = name ∧ reachedRange = range
    · obtain ⟨rfl, rfl⟩ := same
      exact hasReceipt
    · obtain ⟨sameReceipt, sameRows⟩ := written_elsewhere isRange done isReached same
      rw [sameReceipt]
      exact holds.whole reached reachedRange isReached row isRow ((sameRows row isRow).mp isCommitted)

end Batches

/-! ### Pointers -/

section Pointers

variable {name : String} {contract : Contract name} {source : Row}

theorem restored_self (row : Row) : Row.restored name row row = row := by
  apply Row.rewrite_eq_self
  intro column value isCell
  rw [Row.get_of_mem isCell, Option.or_self, ite_self]

/-- The pointers of a phase-one form are those of the source again. -/
theorem restored_initial (row : Row) : Row.restored name row (initial name row) = row := by
  rw [Row.restored, initial, Row.rewrite_rewrite]
  apply Row.rewrite_eq_self
  intro column value isCell
  rw [Row.get_of_mem isCell]
  split
  · split
    · rw [Option.or_self]
    · rw [Option.or_none]
  · rfl

theorem restored_of_no_pointers (noPointers : pointers name = []) (row : Row) :
    Row.restored name source row = row := by
  apply Row.rewrite_eq_self
  intro column value _
  rw [noPointers, if_neg List.not_mem_nil]

/-- What is there stays there under its key. -/
def SameKeys (contract : Contract name) (before after : Table contract.key) : Prop :=
  ∀ row, Committed contract after row ↔ Committed contract before row

theorem sameKeys_modify (table : Table contract.key) (key : List (Option Value))
    (change : Change contract.key) : SameKeys contract table (table.modify key change) := by
  intro row
  constructor
  · rintro ⟨entry, isEntry, isKey⟩
    obtain ⟨before, isBefore, rfl⟩ := Table.mem_updateWhere.mp isEntry
    refine ⟨before, isBefore, ?_⟩
    split at isKey
    · rwa [change.keeps] at isKey
    · exact isKey
  · rintro ⟨entry, isEntry, isKey⟩
    refine ⟨_, Table.mem_updateWhere.mpr ⟨entry, isEntry, rfl⟩, ?_⟩
    split
    · rwa [change.keeps]
    · exact isKey

/-- The rows of a table are converted rows or their phase-one forms. -/
def Forms (package : Package schema) (name : String) (table : Table (schema name).key) : Prop :=
  ∀ entry ∈ table, ∃ row ∈ package.rows name, entry = row ∨ entry = initial name row

theorem Forms.restored {table : Table (schema name).key} (forms : Forms package name table)
    (isSource : source ∈ package.rows name) :
    Forms package name
      (table.modify ((schema name).key source) (restoreChange (schema name) source)) := by
  intro entry isEntry
  obtain ⟨before, isBefore, rfl⟩ := Table.mem_updateWhere.mp isEntry
  obtain ⟨row, isRow, isForm⟩ := forms before isBefore
  split
  · rename_i isKey
    by_cases noPointers : pointers name = []
    · refine ⟨row, isRow, ?_⟩
      have same : (restoreChange (schema name) source).apply before = before :=
        restored_of_no_pointers noPointers before
      rw [same]
      exact isForm
    · have sameKey : (schema name).key row = (schema name).key source := by
        rw [decide_eq_true_eq] at isKey
        rcases isForm with rfl | rfl
        · exact isKey
        · rwa [key_initial] at isKey
      have sameRow := List.inj_on_of_nodup_map (package.pointed name noPointers) isRow isSource
        sameKey
      subst sameRow
      refine ⟨row, isRow, .inl ?_⟩
      rcases isForm with rfl | rfl
      · exact restored_self before
      · exact restored_initial row
  · exact ⟨row, isRow, isForm⟩

theorem restoreTable_forms {table : Table (schema name).key} (sources : List Row)
    (among : ∀ source ∈ sources, source ∈ package.rows name) (forms : Forms package name table) :
    Forms package name (sources.foldl (fun table row => table.modify ((schema name).key row)
        (restoreChange (schema name) row)) table) ∧
      SameKeys (schema name) table (sources.foldl (fun table row =>
        table.modify ((schema name).key row) (restoreChange (schema name) row)) table) := by
  induction sources generalizing table with
  | nil => exact ⟨forms, fun _ => Iff.rfl⟩
  | cons source rest inductionHypothesis =>
      obtain ⟨formsRest, sameRest⟩ := inductionHypothesis
        (fun source isSource => among source (List.mem_cons_of_mem _ isSource))
        (forms.restored (among source List.mem_cons_self))
      refine ⟨formsRest, fun row => ?_⟩
      exact (sameRest row).trans (sameKeys_modify table _ _ row)

end Pointers

theorem Resumable.congr {after : Target schema} (holds : Resumable package target)
    (tables : after.tables = target.tables) (receipts : after.receipts = target.receipts) :
    Resumable package after := by
  constructor
  · rw [tables]
    exact holds.rows
  · intro name range isRange
    rw [HasReceipt, receipts, tables]
    exact holds.receipts name range isRange
  · intro name range isRange
    rw [HasReceipt, receipts, tables]
    exact holds.whole name range isRange

theorem Resumable.restoreTable_kept (holds : Resumable package target) (name : String) :
    Resumable package (restoreTable package target name) := by
  by_cases isMapped : name ∈ package.mapped
  · obtain ⟨forms, same⟩ := restoreTable_forms (package.rows name) (fun _ isRow => isRow)
      (holds.rows name isMapped)
    have sameReceipt : ∀ reached range, HasReceipt reached (restoreTable package target name) range ↔
        HasReceipt reached target range := fun _ _ => Iff.rfl
    have sameRows : ∀ reached row,
        (Committed (schema reached) ((restoreTable package target name).tables reached) row ↔
          Committed (schema reached) (target.tables reached) row) := by
      intro reached row
      by_cases sameName : reached = name
      · subst sameName
        rw [restoreTable, Target.tables_setTable_self]
        exact same row
      · rw [restoreTable, Target.tables_setTable_of_ne _ _ sameName]
    constructor
    · intro reached reachedMapped entry isEntry
      by_cases sameName : reached = name
      · subst sameName
        rw [restoreTable, Target.tables_setTable_self] at isEntry
        exact forms entry isEntry
      · rw [restoreTable, Target.tables_setTable_of_ne _ _ sameName] at isEntry
        exact holds.rows reached reachedMapped entry isEntry
    · intro reached range isRange
      rw [sameReceipt, holds.receipts reached range isRange]
      exact forall₂_congr fun row _ => (sameRows reached row).symm
    · intro reached range isRange row isRow committed
      exact holds.whole reached range isRange row isRow ((sameRows reached row).mp committed)
  · have noBatches := package.absent name fun isName => isMapped (package.among name isName)
    have unchanged : restoreTable package target name =
        target.setTable name (target.tables name) := by
      rw [restoreTable, Package.rows, noBatches]
      rfl
    apply holds.congr
    · rw [unchanged, Target.setTable]
      exact Function.update_eq_self name target.tables
    · rfl

theorem Resumable.restorePointers_kept (holds : Resumable package target) :
    Resumable package (restorePointers package target) := by
  unfold restorePointers
  generalize ["assistant_source_heads", "research_tasks", "research_attempts", "research_goals"] =
    names
  induction names generalizing target with
  | nil => exact holds
  | cons name rest inductionHypothesis => exact inductionHypothesis (holds.restoreTable_kept name)

/-- `check` writes sequences only. -/
theorem calibrate_frame (package : Package schema) (target : Target schema)
    (columns : List (String × String)) :
    (columns.foldl (calibrateColumn package) target).tables = target.tables ∧
      (columns.foldl (calibrateColumn package) target).receipts = target.receipts := by
  induction columns generalizing target with
  | nil => exact ⟨rfl, rfl⟩
  | cons column rest inductionHypothesis =>
      have one : (calibrateColumn package target column).tables = target.tables ∧
          (calibrateColumn package target column).receipts = target.receipts := by
        simp only [calibrateColumn]
        split
        · exact ⟨rfl, rfl⟩
        · exact ⟨rfl, rfl⟩
      obtain ⟨tables, receipts⟩ := inductionHypothesis (calibrateColumn package target column)
      exact ⟨tables.trans one.1, receipts.trans one.2⟩

/-- Opening a run writes the row of the run only. -/
theorem beginImport_frame {begun : Target schema} {opening : Opening}
    (opened : beginImport package target = .ok (begun, opening)) :
    begun.tables = target.tables ∧ begun.receipts = target.receipts ∧
      begun.sequences = target.sequences := by
  unfold beginImport at opened
  split at opened
  · split at opened
    · cases opened
    · simp only at opened
      split at opened
      · cases opened
        exact ⟨rfl, rfl, rfl⟩
      · cases opened
        exact ⟨rfl, rfl, rfl⟩
  · split at opened
    · cases opened
    · cases opened
      exact ⟨rfl, rfl, rfl⟩

theorem resumable_kept : Kept package (Resumable package) where
  opened target begun opening holds opened := by
    obtain ⟨tables, receipts, _⟩ := beginImport_frame opened
    exact holds.congr tables receipts
  batches := Resumable.batch_kept
  stopped target holds state isState := by
    obtain ⟨done, _, rfl⟩ := List.mem_map.mp isState
    exact holds.congr rfl rfl
  closed target holds := by
    obtain ⟨tables, receipts⟩ :=
      calibrate_frame package (restorePointers package target) (identityColumns package)
    exact holds.restorePointers_kept.congr tables receipts
  status target status holds := holds.congr rfl rfl

/-! ## Sequences -/

/-- No sequence is below a bound. -/
def NotBelow (bound : String → String → Int) (target : Target schema) : Prop :=
  ∀ name column, bound name column ≤ (target.sequences name column).following

theorem NotBelow.calibrateColumn {bound : String → String → Int} (holds : NotBelow bound target)
    (column : String × String) : NotBelow bound (calibrateColumn package target column) := by
  intro name other
  simp only [Migration.calibrateColumn]
  split
  · rename_i low
    simp only
    split
    · rename_i same
      subst same
      apply (holds name other).trans
      simp only [Sequence.following, if_true] at low ⊢
      exact low.trans (by omega)
    · exact holds name other
  · exact holds name other

theorem NotBelow.calibrate {bound : String → String → Int} (holds : NotBelow bound target)
    (columns : List (String × String)) :
    NotBelow bound (columns.foldl (Migration.calibrateColumn package) target) := by
  induction columns generalizing target with
  | nil => exact holds
  | cons column rest inductionHypothesis => exact inductionHypothesis (holds.calibrateColumn column)

theorem notBelow_kept (bound : String → String → Int) : Kept package (NotBelow bound) where
  opened target begun opening holds opened := by
    obtain ⟨_, _, sequences⟩ := beginImport_frame opened
    intro name column
    rw [sequences]
    exact holds name column
  batches := by
    intro name phaseOneAllowed target range after _ holds done
    rcases batch_cases done with ⟨_, _, _, rfl⟩ | ⟨_, _, _, rfl⟩
    · exact holds
    · exact holds
  stopped target holds state isState := by
    obtain ⟨done, _, rfl⟩ := List.mem_map.mp isState
    have restored : NotBelow bound (restorePointers package target) := holds
    exact restored.calibrate done
  closed target holds := by
    have restored : NotBelow bound (restorePointers package target) := holds
    exact restored.calibrate (identityColumns package)
  status target status holds := holds

/-! ## Invocations that return -/

/-- The target is the source: every mapped table holds exactly the converted rows, and every
identity sequence is above the keys and above the counter of the source. -/
structure Exact (package : Package schema) (target : Target schema) : Prop where
  rows : ∀ name ∈ package.mapped, ∀ row,
    row ∈ target.tables name ↔ row ∈ package.rows name
  aboveKeys : ∀ name ∈ package.mapped, ∀ column ∈ (schema name).identity,
    ∀ row ∈ target.tables name, ∀ key, row.get column = some (.integer key) →
      key < (target.sequences name column).following
  aboveCounter : ∀ name ∈ package.mapped, ∀ column ∈ (schema name).identity,
    ∀ sourceKey ∈ (schema name).sourceKey, column ∈ sourceKey →
      ∀ counter ∈ package.counters name,
        (counter : Int) < (target.sequences name column).following

theorem validateSnapshot_ok (checked : validateSnapshot package target = .ok ()) :
    (∀ name ∈ package.names, ∀ row ∈ package.rows name,
        (target.tables name).lookup ((schema name).key row) = some row) ∧
      (∀ name ∈ package.mapped, name ∉ package.names → (target.tables name).rows = []) ∧
      sequencesChecked package target = true := by
  unfold validateSnapshot at checked
  split at checked
  · cases checked
  · split at checked
    · cases checked
    · split at checked
      · cases checked
      · split at checked
        · cases checked
        · rename_i same
          split at checked
          · cases checked
          · split at checked
            · cases checked
            · rename_i empty
              split at checked
              · cases checked
              · rename_i sequences
                refine ⟨?_, ?_, by simpa using sequences⟩
                · simpa using same
                · intro name isMapped notName
                  have empty : ∀ name ∈ package.mapped, name ∉ package.names →
                      (target.tables name).rows = [] := by simpa using empty
                  exact empty name isMapped notName

theorem le_max_integers {rows : List Row} {column : String} {row : Row} (isRow : row ∈ rows)
    {key : Int} (isKey : row.get column = some (.integer key)) :
    key ≤ (integers rows column).max?.getD 0 := by
  have member : key ∈ integers rows column := by
    apply List.mem_filterMap.mpr
    refine ⟨row, isRow, ?_⟩
    rw [isKey]
    rfl
  cases isMax : (integers rows column).max? with
  | none =>
      rw [List.max?_eq_none_iff] at isMax
      rw [isMax] at member
      cases member
  | some most => exact (List.max?_eq_some_iff.mp isMax).2 key member

/-- A target that was compared is the source. -/
theorem Resumable.exact (holds : Resumable package target)
    (checked : validateSnapshot package target = .ok ()) : Exact package target := by
  obtain ⟨same, empty, sequences⟩ := validateSnapshot_ok checked
  have above : ∀ name ∈ package.mapped, ∀ column ∈ (schema name).identity,
      identityFloor package target name column < (target.sequences name column).following := by
    intro name isMapped column isColumn
    have member : (name, column) ∈ identityColumns package :=
      List.mem_flatMap.mpr ⟨name, isMapped, List.mem_map_of_mem isColumn⟩
    exact of_decide_eq_true (List.all_eq_true.mp sequences _ member)
  constructor
  · intro name isMapped row
    by_cases isName : name ∈ package.names
    · constructor
      · intro isEntry
        obtain ⟨source, isSource, isForm⟩ := holds.rows name isMapped row isEntry
        have found := same name isName source isSource
        have sameKey : (schema name).key row = (schema name).key source := by
          rcases isForm with rfl | rfl
          · rfl
          · exact key_initial (schema name) source
        rw [← sameKey, Table.lookup_of_mem isEntry] at found
        rw [Option.some.inj found]
        exact isSource
      · exact fun isRow => Table.mem_of_lookup (same name isName row isRow)
    · rw [Table.mem_rows, empty name isMapped isName, Package.rows, package.absent name isName]
      exact Iff.rfl
  · intro name isMapped column isColumn row isRow key isKey
    exact ((le_max_integers isRow isKey).trans (le_max_left _ _)).trans_lt
      (above name isMapped column isColumn)
  · intro name isMapped column isColumn sourceKey isSourceKey inKey counter isCounter
    have isFloor : sourceFloor package name column = counter := by
      have found : (schema name).sourceKey.any (fun key => decide (column ∈ key)) = true := by
        rw [Option.mem_def.mp isSourceKey]
        exact decide_eq_true inKey
      rw [sourceFloor, if_pos found, Option.mem_def.mp isCounter]
      rfl
    rw [← isFloor]
    exact (le_max_right _ _).trans_lt (above name isMapped column isColumn)

theorem Exact.congr {after : Target schema} (exact_ : Exact package target)
    (tables : after.tables = target.tables) (sequences : after.sequences = target.sequences) :
    Exact package after := by
  constructor
  · rw [tables]
    exact exact_.rows
  · rw [tables, sequences]
    exact exact_.aboveKeys
  · rw [sequences]
    exact exact_.aboveCounter

/-- An invocation that returns leaves the source. -/
theorem Resumable.returned (holds : Resumable package target)
    (returned : (importSnapshot package target).2 = .ok ()) :
    Exact package (importSnapshot package target).1.current := by
  have throughout := resumable_kept.throughout holds
  unfold importSnapshot at returned throughout ⊢
  rcases isOpen : beginImport package target with rejection | ⟨begun, opening⟩
  · rw [isOpen] at returned
    cases returned
  · rw [isOpen] at returned throughout
    simp only at returned throughout ⊢
    split at returned
    · rename_i replay
      rw [if_pos replay] at throughout ⊢
      exact throughout.1.exact returned
    · rename_i replay
      rw [if_neg replay] at throughout ⊢
      rcases isGrouped : importTerminal package ⟨begun, [begun]⟩ with ⟨after, rejection | ⟨⟩⟩
      · rw [isGrouped] at returned
        cases returned
      · rw [isGrouped] at returned throughout
        simp only at returned throughout ⊢
        rcases isTables : importTables package opening.phaseOneAllowed
          (pendingTables package).length after (pendingTables package) with
            ⟨last, rejection | ⟨⟩⟩
        · rw [isTables] at returned
          cases returned
        · rw [isTables] at returned throughout
          simp only at returned throughout ⊢
          unfold finishImport at returned throughout ⊢
          simp only at returned throughout ⊢
          split at returned
          · cases returned
          · rename_i checked
            rw [checked] at throughout
            have compared : Resumable package ((closeImport package last).current.setStatus
                .validating) := throughout.1.congr rfl rfl
            exact (compared.exact checked).congr rfl rfl

/-! ## Rows that were changed in the meantime -/

/-- A batch has its receipt, one of its rows is not there in either form, and some entries are. -/
structure Altered (name : String) (range : List Row) (row : Row) (entries : List Row)
    (target : Target schema) : Prop where
  kept : ∀ entry ∈ entries, entry ∈ target.tables name
  receipt : HasReceipt name target range
  changed : (target.tables name).lookup ((schema name).key row) ≠ some row ∧
    (target.tables name).lookup ((schema name).key row) ≠ some (initial name row)

section Altered

variable {name : String} {range : List Row} {row : Row} {entries : List Row}

theorem Altered.congr {after : Target schema} (altered : Altered name range row entries target)
    (tables : after.tables = target.tables) (receipts : after.receipts = target.receipts) :
    Altered name range row entries after := by
  constructor
  · rw [tables]
    exact altered.kept
  · rw [HasReceipt, receipts]
    exact altered.receipt
  · rw [tables]
    exact altered.changed

theorem Altered.refused (altered : Altered name range row entries target) (isRow : row ∈ range)
    (phaseOneAllowed : Bool) (after : Target schema) :
    batch name phaseOneAllowed target range ≠ .ok after := by
  intro done
  rcases batch_cases done with ⟨prior, _, agree, _⟩ | ⟨absent, _⟩
  · have agrees := agree row isRow
    unfold rowAgrees at agrees
    cases found : (target.tables name).lookup ((schema name).key row) with
    | none =>
        rw [found] at agrees
        cases agrees
    | some entry =>
        rw [found] at agrees
        rcases of_decide_eq_true agrees with rfl | ⟨_, rfl⟩
        · exact altered.changed.1 found
        · exact altered.changed.2 found
  · have hasReceipt := altered.receipt
    rw [HasReceipt, absent] at hasReceipt
    cases hasReceipt

theorem Altered.batch_kept (isRange : range ∈ package.batches name) (isRow : row ∈ range) :
    KeptByBatches package fun target : Target schema => Altered name range row entries target := by
  intro reached phaseOneAllowed target other after isOther altered done
  have notRange : ¬ (reached = name ∧ other = range) := by
    rintro ⟨rfl, rfl⟩
    exact altered.refused isRow phaseOneAllowed after done
  obtain ⟨_, keeps, _⟩ := batch_receipts done
  rcases batch_cases done with ⟨_, _, _, rfl⟩ | ⟨absent, table, inserted, isAfter⟩
  · exact altered
  · have hasReceipt : HasReceipt name after range := by
      obtain ⟨receipt, isReceipt⟩ := Option.isSome_iff_exists.mp altered.receipt
      exact Option.isSome_iff_exists.mpr ⟨receipt, keeps _ receipt isReceipt⟩
    by_cases sameName : reached = name
    · subst sameName
      have different : other ≠ range := fun same => notRange ⟨rfl, same⟩
      have isTable : after.tables reached = table := by
        rw [isAfter]
        exact target.tables_setTable_self reached table
      have grown := insertOrdered_grows inserted
      have sameLookup : table.lookup ((schema reached).key row) =
          (target.tables reached).lookup ((schema reached).key row) := by
        cases found : (target.tables reached).lookup ((schema reached).key row) with
        | some entry =>
            have isEntry := Table.lookup_eq_some.mp found
            exact Table.lookup_eq_some.mpr ⟨grown.kept entry isEntry.1, isEntry.2⟩
        | none =>
            apply Table.lookup_eq_none.mpr
            intro entry isEntry isKey
            rcases grown.only entry isEntry with isOld | ⟨new, isNew, rfl⟩
            · exact Table.lookup_eq_none.mp found entry isOld isKey
            · rw [key_initial] at isKey
              exact Package.apart_of_ne isOther isRange different new isNew row isRow isKey
      constructor
      · rw [isTable]
        exact fun entry isEntry => grown.kept entry (altered.kept entry isEntry)
      · exact hasReceipt
      · rw [isTable, sameLookup]
        exact altered.changed
    · have isElse : after.tables name = target.tables name := by
        rw [isAfter]
        exact target.tables_setTable_of_ne table fun same => sameName same.symm
      constructor
      · rw [isElse]
        exact altered.kept
      · exact hasReceipt
      · rw [isElse]
        exact altered.changed

variable {session : Session schema}

theorem Altered.tableBatches_refused (isRange : range ∈ package.batches name) (isRow : row ∈ range)
    (altered : Altered name range row entries session.current) (commit phaseOneAllowed : Bool) :
    (tableBatches name commit phaseOneAllowed session (package.batches name)).2 ≠ .ok () := by
  apply rounds_stuck fun last : Session schema => Altered name range row entries last.current
  case kept =>
    intro last other next isOther holds tried
    obtain ⟨_, after, done, rfl⟩ := tryBatch_eq_some.mp tried
    exact Altered.batch_kept isRange isRow name phaseOneAllowed last.current other after isOther
      holds done
  case never =>
    intro last next holds tried
    obtain ⟨_, after, done, _⟩ := tryBatch_eq_some.mp tried
    exact holds.refused isRow phaseOneAllowed after done
  case holds => exact altered
  case isJob => exact isRange

theorem Altered.importGroup_refused (isRange : range ∈ package.batches name) (isRow : row ∈ range)
    {group : List String} (isMember : name ∈ group)
    (altered : Throughout (Altered name range row entries) session) :
    (importGroup package group session).2 ≠ .ok () := by
  induction group generalizing session with
  | nil => cases isMember
  | cons other rest inductionHypothesis =>
      have written := tableBatches_keeps (Altered.batch_kept isRange isRow) other false true altered
      rcases isWritten : tableBatches other false true session (package.batches other) with
        ⟨after, rejection | ⟨⟩⟩
      · rw [importGroup, isWritten]
        intro absurdity
        cases absurdity
      · rw [importGroup, isWritten]
        rw [isWritten] at written
        rcases List.mem_cons.mp isMember with rfl | isMember
        · have refused := altered.1.tableBatches_refused isRange isRow false true
          rw [isWritten] at refused
          exact absurd rfl refused
        · exact inductionHypothesis isMember written

theorem Altered.importRound_refused (isRange : range ∈ package.batches name) (isRow : row ∈ range)
    (phaseOneAllowed : Bool) (names : List String) {pending : List String}
    (isPending : name ∈ pending)
    (altered : Throughout (Altered name range row entries) session)
    (passed : (importRound package phaseOneAllowed names session pending).2.2 = .ok ()) :
    name ∈ (importRound package phaseOneAllowed names session pending).2.1 := by
  induction names generalizing session pending with
  | nil => exact isPending
  | cons other rest inductionHypothesis =>
      rw [importRound] at passed ⊢
      split at passed
      · rename_i ready
        rw [if_pos ready]
        have written := tableBatches_keeps (Altered.batch_kept isRange isRow) other true
          phaseOneAllowed altered
        rcases isWritten : tableBatches other true phaseOneAllowed session (package.batches other)
          with ⟨after, rejection | ⟨⟩⟩
        · rw [isWritten] at passed
          cases passed
        · rw [isWritten] at passed written
          have different : name ≠ other := by
            intro same
            subst same
            have refused := altered.1.tableBatches_refused isRange isRow true phaseOneAllowed
            rw [isWritten] at refused
            exact refused rfl
          exact inductionHypothesis ((List.mem_erase_of_ne different).mpr isPending) written passed
      · rename_i waiting
        rw [if_neg waiting]
        exact inductionHypothesis isPending altered passed

theorem Altered.importTables_refused (isRange : range ∈ package.batches name) (isRow : row ∈ range)
    (phaseOneAllowed : Bool) (fuel : Nat) {pending : List String} (isPending : name ∈ pending)
    (altered : Throughout (Altered name range row entries) session) :
    (importTables package phaseOneAllowed fuel session pending).2 ≠ .ok () := by
  induction fuel generalizing session pending with
  | zero =>
      cases pending with
      | nil => cases isPending
      | cons first others =>
          intro absurdity
          cases absurdity
  | succ fuel inductionHypothesis =>
      cases pending with
      | nil => cases isPending
      | cons first others =>
          have round := importRound_keeps (Altered.batch_kept isRange isRow) phaseOneAllowed
            (first :: others) (first :: others) altered
          have still := Altered.importRound_refused isRange isRow phaseOneAllowed
            (first :: others) isPending altered
          rcases isRound : importRound package phaseOneAllowed (first :: others) session
            (first :: others) with ⟨after, left, rejection | ⟨⟩⟩
          · rw [importTables, isRound]
            intro absurdity
            cases absurdity
          · rw [isRound] at round still
            rw [importTables, isRound]
            simp only
            split
            · intro absurdity
              cases absurdity
            · exact inductionHypothesis (still rfl) round

theorem Altered.pending (isRange : range ∈ package.batches name) (isRow : row ∈ range)
    (isName : name ∈ package.names)
    (altered : Throughout (Altered name range row entries) session)
    (grouped : (importTerminal package session).2 = .ok ()) : name ∈ pendingTables package := by
  unfold importTerminal at grouped
  unfold pendingTables
  split at grouped
  · rename_i hasTerminal
    rw [if_pos hasTerminal]
    apply List.mem_filter.mpr
    refine ⟨isName, decide_eq_true ?_⟩
    intro inGroup
    have isMember : name ∈ terminalGroup.filter (· ∈ package.names) :=
      List.mem_filter.mpr ⟨inGroup, decide_eq_true isName⟩
    have refused := Altered.importGroup_refused isRange isRow isMember altered
    unfold terminalResearchGroup at grouped
    rcases isWritten : importGroup package (terminalGroup.filter (· ∈ package.names)) session with
      ⟨after, rejection | ⟨⟩⟩
    · rw [isWritten] at grouped
      cases grouped
    · rw [isWritten] at refused
      exact refused rfl
  · rename_i noTerminal
    rw [if_neg noTerminal]
    exact isName

/-- An invocation is refused before it restores pointers, so it changes no row. -/
theorem Altered.importSnapshot_refused (isRange : range ∈ package.batches name)
    (isRow : row ∈ range) (altered : Altered name range row entries target) :
    Throughout (Altered name range row entries) (importSnapshot package target).1 ∧
      (importSnapshot package target).2 ≠ .ok () := by
  have isName : name ∈ package.names := by
    by_contra notName
    rw [package.absent name notName] at isRange
    cases isRange
  have kept : KeptByBatches package (Altered name range row entries) :=
    Altered.batch_kept isRange isRow
  unfold importSnapshot
  rcases isOpen : beginImport package target with rejection | ⟨begun, opening⟩
  · refine ⟨⟨altered, ?_⟩, ?_⟩
    · intro state absurdity
      cases absurdity
    · intro absurdity
      cases absurdity
  · obtain ⟨tables, receipts, _⟩ := beginImport_frame isOpen
    have start : Throughout (Altered name range row entries) ⟨begun, [begun]⟩ := by
      refine ⟨altered.congr tables receipts, ?_⟩
      intro state isState
      rw [List.mem_singleton.mp isState]
      exact altered.congr tables receipts
    simp only
    split
    · refine ⟨start, ?_⟩
      intro checked
      obtain ⟨same, _⟩ := validateSnapshot_ok checked
      exact start.1.changed.1 (same name isName row (Package.mem_rows isRange isRow))
    · have grouped := importTerminal_keeps kept start
      rcases isGrouped : importTerminal package ⟨begun, [begun]⟩ with ⟨after, rejection | ⟨⟩⟩
      · rw [isGrouped] at grouped
        refine ⟨grouped, ?_⟩
        intro absurdity
        cases absurdity
      · have isPending := Altered.pending isRange isRow isName start (by rw [isGrouped])
        rw [isGrouped] at grouped
        have imported := importTables_keeps kept opening.phaseOneAllowed
          (pendingTables package).length (pendingTables package) grouped
        have refused := Altered.importTables_refused isRange isRow opening.phaseOneAllowed
          (pendingTables package).length isPending grouped
        simp only
        rcases isTables : importTables package opening.phaseOneAllowed
          (pendingTables package).length after (pendingTables package) with
            ⟨last, rejection | ⟨⟩⟩
        · rw [isTables] at imported
          refine ⟨imported, ?_⟩
          intro absurdity
          cases absurdity
        · rw [isTables] at refused
          exact absurd rfl refused

end Altered

/-! ## All runs of the import -/

/-- A target that the run has not touched, as the opening transaction asks for it. -/
structure Fresh (package : Package schema) (target : Target schema) : Prop where
  run : target.run = none
  receipts : target.receipts = Table.empty _
  tables : ∀ name ∈ package.mapped, (target.tables name).rows = []

theorem Fresh.resumable (fresh : Fresh package target) : Resumable package target := by
  have isMapped : ∀ {name range}, range ∈ package.batches name → name ∈ package.mapped := by
    intro name range isRange
    apply package.among
    by_contra notName
    rw [package.absent name notName] at isRange
    cases isRange
  have nothing : ∀ {name range}, range ∈ package.batches name → ∀ row,
      ¬ Committed (schema name) (target.tables name) row := by
    rintro name range isRange row ⟨entry, isEntry, _⟩
    rw [Table.mem_rows, fresh.tables name (isMapped isRange)] at isEntry
    cases isEntry
  constructor
  · intro name isMapped entry isEntry
    rw [Table.mem_rows, fresh.tables name isMapped] at isEntry
    cases isEntry
  · intro name range isRange
    rw [HasReceipt, fresh.receipts]
    constructor
    · intro absurdity
      cases absurdity
    · intro committed
      obtain ⟨row, rest, rfl⟩ := List.exists_cons_of_ne_nil (package.filled name range isRange)
      exact absurd (committed row List.mem_cons_self) (nothing isRange row)
  · intro name range isRange row isRow committed
    exact absurd committed (nothing isRange row)

/-- However invocations stop and start again: rows are converted rows or their phase-one forms, with
receipts for exactly the committed batches; an invocation that returns leaves exactly the source;
no sequence is lowered; and once a committed row was changed into neither form, whatever else was
changed, every further invocation is refused and leaves the rows of that table as they are. -/
theorem import_resumes (package : Package schema) {start : Target schema}
    (fresh : Fresh package start) (stops : List (Option Nat)) :
    Resumable package (runImport package start stops) ∧
      ((importSnapshot package (runImport package start stops)).2 = .ok () →
        Exact package (importSnapshot package (runImport package start stops)).1.current) ∧
      (∀ more name column, ((runImport package start stops).sequences name column).following ≤
        ((runImport package start (stops ++ more)).sequences name column).following) ∧
      ∀ (changed : Target schema) (more : List (Option Nat)),
        changed.receipts = (runImport package start stops).receipts →
        ∀ name, ∀ range ∈ package.batches name, ∀ row ∈ range,
          Committed (schema name) ((runImport package start stops).tables name) row →
          (changed.tables name).lookup ((schema name).key row) ≠ some row →
          (changed.tables name).lookup ((schema name).key row) ≠ some (initial name row) →
          (importSnapshot package (runImport package changed more)).2 ≠ .ok () ∧
            ∀ entry ∈ changed.tables name,
              entry ∈ (runImport package changed more).tables name := by
  have resumable : Resumable package (runImport package start stops) :=
    resumable_kept.runImport fresh.resumable stops
  refine ⟨resumable, resumable.returned, ?_, ?_⟩
  · intro more name column
    have isRun : runImport package start (stops ++ more) =
        runImport package (runImport package start stops) more :=
      List.foldl_append
    rw [isRun]
    let bound := fun name column =>
      ((runImport package start stops).sequences name column).following
    have notBelow : NotBelow bound (runImport package start stops) := fun _ _ => le_rfl
    exact (notBelow_kept bound).runImport notBelow more name column
  · intro changed more sameReceipts name range isRange row isRow committed notRow notForm
    have hasReceipt := resumable.whole name range isRange row isRow committed
    have altered : Altered name range row (changed.tables name).rows changed := by
      constructor
      · exact fun entry isEntry => isEntry
      · rw [HasReceipt, sameReceipts]
        exact hasReceipt
      · exact ⟨notRow, notForm⟩
    have reached : Altered name range row (changed.tables name).rows
        (runImport package changed more) :=
      runImport_keeps (fun _ holds => (holds.importSnapshot_refused isRange isRow).1) altered more
    exact ⟨(reached.importSnapshot_refused isRange isRow).2, reached.kept⟩

/-! ### A terminal task with its result -/

/-- The keys of the research tables, and `assistant_spaces` with its identity column. -/
def researchSchema (name : String) : Contract name where
  pk :=
    match name with
    | "research_tasks" => ["task_id"]
    | "research_goals" => ["goal_id"]
    | "research_results" => ["result_id"]
    | _ => ["id"]
  fixed := by
    intro column isColumn
    unfold pointers
    split at isColumn <;> rw [List.mem_singleton.mp isColumn]
    · decide
    · decide
    · decide
    · split <;> decide
  foreignKeys := []
  scopeGuards := []
  identity := if name = "assistant_spaces" then ["id"] else []
  sourceKey := some ["id"]

def terminalTask : Row where
  cells := [("task_id", some (.text "task")), ("status", some (.text "terminal")),
    ("active_goal_id", some (.text "goal")), ("terminal_result_id", some (.text "result"))]
  distinct := by decide

def activeGoal : Row where
  cells := [("goal_id", some (.text "goal")), ("created_by_event_id", none)]
  distinct := by decide

def terminalResult : Row where
  cells := [("result_id", some (.text "result"))]
  distinct := by decide

def generalSpace : Row where
  cells := [("id", some (.integer 3))]
  distinct := by decide

def researchBatches (name : String) : List (List Row) :=
  match name with
  | "research_tasks" => [[terminalTask]]
  | "research_goals" => [[activeGoal]]
  | "research_results" => [[terminalResult]]
  | "assistant_spaces" => [[generalSpace]]
  | _ => []

theorem researchBatches_cases (name : String) :
    researchBatches name = [] ∨ ∃ row, researchBatches name = [[row]] := by
  unfold researchBatches
  split
  · exact .inr ⟨_, rfl⟩
  · exact .inr ⟨_, rfl⟩
  · exact .inr ⟨_, rfl⟩
  · exact .inr ⟨_, rfl⟩
  · exact .inl rfl

/-- One terminal task with its goal and its result, and a space above which keys were used. -/
def terminalPackage : Package researchSchema where
  manifestHash := "manifest"
  names := ["assistant_spaces", "research_goals", "research_results", "research_tasks"]
  batches := researchBatches
  mapped := ["assistant_spaces", "research_goals", "research_results", "research_tasks"]
  counters name := if name = "assistant_spaces" then some 7 else none
  distinct := by decide
  among _ isName := isName
  absent := by
    intro name notName
    unfold researchBatches
    split
    · exact absurd (by decide) notName
    · exact absurd (by decide) notName
    · exact absurd (by decide) notName
    · exact absurd (by decide) notName
    · rfl
  filled := by
    intro name range isRange
    rcases researchBatches_cases name with none | ⟨row, one⟩
    · rw [none] at isRange
      cases isRange
    · rw [one] at isRange
      rw [List.mem_singleton.mp isRange]
      exact List.cons_ne_nil row []
  apart := by
    intro name
    rcases researchBatches_cases name with none | ⟨row, one⟩
    · rw [none]
      exact List.Pairwise.nil
    · rw [one]
      exact List.pairwise_singleton _ _
  pointed := by
    intro name _
    rcases researchBatches_cases name with none | ⟨row, one⟩
    · rw [none]
      exact List.nodup_nil
    · rw [one]
      exact List.nodup_singleton _

def untouchedTarget : Target researchSchema where
  tables := fun _ => Table.empty _
  receipts := Table.empty _
  run := none
  sequences := fun _ _ => ⟨1, false⟩

theorem untouchedTarget_fresh : Fresh terminalPackage untouchedTarget where
  run := rfl
  receipts := rfl
  tables _ _ := rfl

/-- The invocation after two that stopped returns, and the sequence of the spaces is above the
counter; with the space deleted it would have been refused. -/
theorem import_resumes_terminal :
    Exact terminalPackage (importSnapshot terminalPackage
        (runImport terminalPackage untouchedTarget [some 2, some 3])).1.current ∧
      (importSnapshot terminalPackage (runImport terminalPackage
        ((runImport terminalPackage untouchedTarget [some 2, some 3]).setTable "assistant_spaces"
          (Table.empty _)) [])).2 ≠ .ok () := by
  obtain ⟨_, returned, _, refused⟩ :=
    import_resumes terminalPackage untouchedTarget_fresh [some 2, some 3]
  constructor
  · exact returned (by decide +kernel)
  · refine (refused _ [] ?_ "assistant_spaces" [generalSpace] ?_ generalSpace ?_ ?_ ?_ ?_).1
    · rfl
    · decide
    · decide
    · exact ⟨generalSpace, Table.mem_rows.mpr (by decide +kernel), rfl⟩
    · rw [Target.tables_setTable_self, Table.lookup_empty]
      intro absurdity
      cases absurdity
    · rw [Target.tables_setTable_self, Table.lookup_empty]
      intro absurdity
      cases absurdity

/-- The form of a row with all its pointers NULL. -/
def withoutPointers (table : String) (row : Row) : Row :=
  row.rewrite fun column value => if column ∈ pointers table then none else value

/-- Between two transactions a terminal task has its result but not its goal. -/
theorem terminal_pointer_kept :
    ∃ entry ∈ (runImport terminalPackage untouchedTarget [some 2]).tables "research_tasks",
      ∀ row ∈ terminalPackage.rows "research_tasks",
        entry ≠ row ∧ entry ≠ withoutPointers "research_tasks" row :=
  ⟨initial "research_tasks" terminalTask, Table.mem_rows.mpr (by decide +kernel),
    by decide +kernel⟩

end Shiliu.Migration

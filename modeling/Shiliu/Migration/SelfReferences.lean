/-
Module: Shiliu.Migration.SelfReferences
Purpose: Tables whose rows refer to rows of the same table. The rows of a range are put in order by
  their references, but a range is written as a whole, after every row it refers to outside itself.
  So an acyclic table is imported exactly when its ranges do not refer to each other in a circle,
  and revision chains that run forth and back between two ranges are never imported.
Trusted boundary: none
Main exports: Refers, SelfReferencing, self_references_imported_iff, crossing_chains_not_imported
-/
import Mathlib.Data.List.Pairwise
import Shiliu.Migration.Batches

set_option linter.all false

namespace Shiliu.Migration

open Shiliu.Library

variable {schema : Schema} {name : String} {contract : Contract name}

/-! ## References -/

/-- A row refers to another one. -/
def Refers (contract : Contract name) (row parent : Row) : Prop :=
  ∃ key ∈ contract.selfKeys, key.complete row = true ∧
    parent.select key.references = row.select key.columns

/-- A set of rows with immutable references to each other: keys are distinct, a reference is no
pointer and names a unique key of a row of the set. -/
structure SelfReferencing (contract : Contract name) (rows : List Row) : Prop where
  distinct : (rows.map contract.key).Nodup
  immutable : ∀ key ∈ contract.selfKeys, ∀ column ∈ key.columns ++ key.references,
    column ∉ pointers name
  unique : ∀ key ∈ contract.selfKeys, ∀ one ∈ rows, ∀ other ∈ rows,
    (one.select key.references).all Option.isSome = true →
      one.select key.references = other.select key.references → one = other
  resolved : ∀ key ∈ contract.selfKeys, ∀ row ∈ rows, key.complete row = true →
    key.found rows row = true

/-- A row of the set refers to another one of it. -/
def RefersIn (contract : Contract name) (rows : List Row) (row parent : Row) : Prop :=
  row ∈ rows ∧ parent ∈ rows ∧ Refers contract row parent

/-- No row refers to itself, directly or through others. -/
def RowsAcyclic (contract : Contract name) (rows : List Row) : Prop :=
  ∀ row, ¬ Relation.TransGen (RefersIn contract rows) row row

/-- A range has a row that refers to a row of another range. -/
def Needs (contract : Contract name) (ranges : List (List Row)) (range other : List Row) : Prop :=
  range ∈ ranges ∧ other ∈ ranges ∧ range ≠ other ∧
    ∃ row ∈ range, ∃ parent ∈ other, Refers contract row parent

/-- No range needs itself through others. -/
def RangesAcyclic (contract : Contract name) (ranges : List (List Row)) : Prop :=
  ∀ range, ¬ Relation.TransGen (Needs contract ranges) range range

/-- Every row was inserted once, and none before a row it refers to. The rows of a table stand in
the order they were inserted in. -/
structure Imported (contract : Contract name) (rows : List Row) (table : Table contract.key) :
    Prop where
  once : table.rows.Perm (rows.map (initial name))
  ordered : table.rows.Pairwise fun earlier later => ¬ Refers contract earlier later

/-! ## Phase one keeps the references -/

section Phase

variable {rows : List Row}

variable {key : ForeignKey} {row : Row}

theorem SelfReferencing.select_columns (self : SelfReferencing contract rows)
    (isKey : key ∈ contract.selfKeys) (row : Row) :
    (initial name row).select key.columns = row.select key.columns := by
  apply List.map_congr_left
  intro column isColumn
  exact get_initial_of_not_pointer row
    (self.immutable key isKey column (List.mem_append_left key.references isColumn))

theorem SelfReferencing.select_references (self : SelfReferencing contract rows)
    (isKey : key ∈ contract.selfKeys) (row : Row) :
    (initial name row).select key.references = row.select key.references := by
  apply List.map_congr_left
  intro column isColumn
  exact get_initial_of_not_pointer row
    (self.immutable key isKey column (List.mem_append_right key.columns isColumn))

theorem SelfReferencing.refers_initial (self : SelfReferencing contract rows) {parent : Row} :
    Refers contract (initial name row) (initial name parent) ↔ Refers contract row parent := by
  constructor
  · rintro ⟨key, isKey, complete, same⟩
    refine ⟨key, isKey, ?_, ?_⟩
    · rwa [ForeignKey.complete, self.select_columns isKey] at complete
    · rwa [self.select_references isKey, self.select_columns isKey] at same
  · rintro ⟨key, isKey, complete, same⟩
    refine ⟨key, isKey, ?_, ?_⟩
    · rwa [ForeignKey.complete, self.select_columns isKey]
    · rwa [self.select_references isKey, self.select_columns isKey]

theorem SelfReferencing.eq_of_key (self : SelfReferencing contract rows) {one other : Row}
    (isOne : one ∈ rows) (isOther : other ∈ rows) (same : contract.key one = contract.key other) :
    one = other :=
  List.inj_on_of_nodup_map self.distinct isOne isOther same

theorem SelfReferencing.parent_unique (self : SelfReferencing contract rows)
    (isKey : key ∈ contract.selfKeys) {one other : Row} (complete : key.complete row = true)
    (isOne : one ∈ rows) (isOther : other ∈ rows)
    (named : one.select key.references = row.select key.columns)
    (alsoNamed : other.select key.references = row.select key.columns) : one = other := by
  apply self.unique key isKey one isOne other isOther
  · rw [named]
    exact complete
  · rw [named, alsoNamed]

theorem SelfReferencing.parent (self : SelfReferencing contract rows)
    (isKey : key ∈ contract.selfKeys) (isRow : row ∈ rows) (complete : key.complete row = true) :
    ∃ parent ∈ rows, parent.select key.references = row.select key.columns := by
  have found := self.resolved key isKey row isRow complete
  simpa [ForeignKey.found] using found

end Phase

/-! ## Inside a range -/

section Range

variable {rows range : List Row} {table : Table contract.key}

/-- What the table holds while a table is imported: phase-one forms of rows of the set, each after
the rows it refers to. -/
structure Filling (contract : Contract name) (rows : List Row) (table : Table contract.key) :
    Prop where
  stored : ∀ entry ∈ table, ∃ row ∈ rows, entry = initial name row
  closed : ∀ row ∈ rows, initial name row ∈ table → ∀ parent ∈ rows,
    Refers contract row parent → initial name parent ∈ table
  ordered : table.rows.Pairwise fun earlier later => ¬ Refers contract earlier later

variable {row : Row}

theorem mem_of_lookup_initial (self : SelfReferencing contract rows)
    (stored : ∀ entry ∈ table, ∃ row ∈ rows, entry = initial name row) (isRow : row ∈ rows)
    {existing : Row} (found : table.lookup (contract.key row) = some existing) :
    existing = initial name row := by
  obtain ⟨isEntry, sameKey⟩ := Table.lookup_eq_some.mp found
  obtain ⟨other, isOther, rfl⟩ := stored existing isEntry
  rw [key_initial] at sameKey
  rw [self.eq_of_key isOther isRow sameKey]

theorem initial_inj {other : Row} (self : SelfReferencing contract rows) (isRow : row ∈ rows)
    (isOther : other ∈ rows) (same : initial name row = initial name other) : row = other := by
  apply self.eq_of_key isRow isOther
  rw [← key_initial contract row, ← key_initial contract other, same]

theorem not_blocked_iff (self : SelfReferencing contract rows)
    (stored : ∀ entry ∈ table, ∃ row ∈ rows, entry = initial name row) (isRow : row ∈ rows) :
    blockedBy contract table (initial name row) = false ↔
      ∀ parent ∈ rows, Refers contract row parent →
        parent = row ∨ initial name parent ∈ table := by
  simp only [blockedBy, List.any_eq_false, Bool.and_eq_true, Bool.not_eq_true', not_and,
    decide_eq_false_iff_not, Bool.not_eq_false]
  constructor
  · rintro unblocked parent isParent ⟨key, isKey, complete, named⟩
    have startComplete : key.complete (initial name row) = true := by
      rwa [ForeignKey.complete, self.select_columns isKey]
    by_cases own : row.select key.references = row.select key.columns
    · exact .inl (self.parent_unique isKey complete isParent isRow named own)
    · have found := unblocked key isKey ⟨startComplete, by
        rwa [self.select_references isKey, self.select_columns isKey]⟩
      obtain ⟨entry, isEntry, sameEntry⟩ := List.any_eq_true.mp found
      obtain ⟨other, isOther, rfl⟩ := stored entry isEntry
      rw [decide_eq_true_eq, self.select_references isKey, self.select_columns isKey] at sameEntry
      rw [self.parent_unique isKey complete isParent isOther named sameEntry]
      exact .inr isEntry
  · rintro parents key isKey ⟨startComplete, notOwn⟩
    have complete : key.complete row = true := by
      rwa [ForeignKey.complete, self.select_columns isKey] at startComplete
    obtain ⟨parent, isParent, named⟩ := self.parent isKey isRow complete
    rcases parents parent isParent ⟨key, isKey, complete, named⟩ with rfl | isStored
    · rw [self.select_references isKey, self.select_columns isKey] at notOwn
      exact absurd named notOwn
    · apply List.any_eq_true.mpr
      refine ⟨initial name parent, isStored, ?_⟩
      rw [decide_eq_true_eq, self.select_references isKey, self.select_columns isKey]
      exact named

theorem available_iff (self : SelfReferencing contract rows)
    (stored : ∀ entry ∈ table, ∃ row ∈ rows, entry = initial name row)
    (among : ∀ row ∈ range, row ∈ rows) :
    selfParentsAvailable contract table range = true ↔
      ∀ row ∈ range, ∀ parent ∈ rows, Refers contract row parent →
        parent ∈ range ∨ initial name parent ∈ table := by
  simp only [selfParentsAvailable, List.all_eq_true, Bool.or_eq_true, Bool.not_eq_true']
  constructor
  · rintro available row isRow parent isParent ⟨key, isKey, complete, named⟩
    rcases available key isKey row isRow with (incomplete | isLocal) | isFound
    · rw [complete] at incomplete
      cases incomplete
    · obtain ⟨other, isOther, sameOther⟩ := List.any_eq_true.mp isLocal
      rw [decide_eq_true_eq] at sameOther
      rw [self.parent_unique isKey complete isParent (among other isOther) named sameOther]
      exact .inl isOther
    · obtain ⟨entry, isEntry, sameEntry⟩ := List.any_eq_true.mp isFound
      obtain ⟨other, isOther, rfl⟩ := stored entry isEntry
      rw [decide_eq_true_eq, self.select_references isKey] at sameEntry
      rw [self.parent_unique isKey complete isParent isOther named sameEntry]
      exact .inr isEntry
  · intro parents key isKey row isRow
    cases complete : key.complete row with
    | false => exact .inl (.inl rfl)
    | true =>
        obtain ⟨parent, isParent, named⟩ := self.parent isKey (among row isRow) complete
        rcases parents row isRow parent isParent ⟨key, isKey, complete, named⟩ with isLocal | isFound
        · refine .inl (.inr (List.any_eq_true.mpr ⟨parent, isLocal, ?_⟩))
          rw [decide_eq_true_eq]
          exact named
        · refine .inr (List.any_eq_true.mpr ⟨initial name parent, isFound, ?_⟩)
          rw [decide_eq_true_eq, self.select_references isKey]
          exact named

/-! ### One row -/

theorem insertRow_filling {next : Table contract.key} (self : SelfReferencing contract rows)
    (filling : Filling contract rows table) (isRow : row ∈ rows)
    (done : insertRow contract table row = .ok (some next)) :
    Filling contract rows next := by
  unfold insertRow at done
  cases found : table.lookup (contract.key row) with
  | some existing =>
      simp only [found] at done
      rw [if_pos (.inr (mem_of_lookup_initial self filling.stored isRow found))] at done
      cases done
      exact filling
  | none =>
      simp only [found] at done
      cases blocked : blockedBy contract table (initial name row) with
      | true =>
          rw [blocked, if_pos rfl] at done
          cases done
      | false =>
          rw [blocked, if_neg Bool.false_ne_true] at done
          cases done
          have absent : table.lookup (contract.key (initial name row)) = none := by
            rwa [key_initial]
          have parents := (not_blocked_iff self filling.stored isRow).mp blocked
          have member : ∀ entry, entry ∈ table.insert (initial name row) ↔
              entry ∈ table ∨ entry = initial name row := fun entry => Table.mem_insert absent
          constructor
          · intro entry isEntry
            rcases (member entry).mp isEntry with isEntry | isNew
            · exact filling.stored entry isEntry
            · exact ⟨row, isRow, isNew⟩
          · intro child isChild isStored parent isParent refers
            rcases (member _).mp isStored with isStored | isNew
            · exact (member _).mpr
                (.inl (filling.closed child isChild isStored parent isParent refers))
            · have same := initial_inj self isChild isRow isNew
              subst same
              rcases parents parent isParent refers with rfl | isOld
              · exact (member _).mpr (.inr rfl)
              · exact (member _).mpr (.inl isOld)
          · rw [Table.rows_insert absent]
            apply List.pairwise_append.mpr
            refine ⟨filling.ordered, List.pairwise_singleton _ _, ?_⟩
            intro earlier isEarlier later isLater refers
            rw [List.mem_singleton.mp isLater] at refers
            obtain ⟨child, isChild, rfl⟩ := filling.stored earlier isEarlier
            have isStored := filling.closed child isChild isEarlier row isRow
              (self.refers_initial.mp refers)
            exact Table.lookup_eq_none.mp found _ isStored (key_initial contract row)

theorem insertRow_sound {rejection : Rejection} (self : SelfReferencing contract rows)
    (filling : Filling contract rows table) (isRow : row ∈ rows) :
    insertRow contract table row ≠ .error rejection := by
  unfold insertRow
  cases found : table.lookup (contract.key row) with
  | some existing =>
      have isInitial := mem_of_lookup_initial self filling.stored isRow found
      simp only
      rw [if_pos (.inr isInitial)]
      intro absurdity
      cases absurdity
  | none =>
      simp only
      split
      · intro absurdity
        cases absurdity
      · intro absurdity
        cases absurdity

/-! ### The rows of a range -/

theorem Filling.stored_of_key (self : SelfReferencing contract rows)
    (filling : Filling contract rows table) (isRow : row ∈ rows)
    (hasKey : Committed contract table row) : initial name row ∈ table := by
  obtain ⟨entry, isEntry, sameKey⟩ := hasKey
  have found := Table.lookup_eq_some.mpr ⟨isEntry, sameKey⟩
  rw [← mem_of_lookup_initial self filling.stored isRow found]
  exact isEntry

theorem insertOrdered_filling {after : Table contract.key} (self : SelfReferencing contract rows)
    (filling : Filling contract rows table) (among : ∀ row ∈ range, row ∈ rows)
    (done : insertOrdered contract table range = .ok after) : Filling contract rows after := by
  rw [← (insertOrdered_eq_ok.mp done).1]
  apply rounds_keeps fun last => Filling contract rows last
  · intro last row next isRow filled inserted
    exact insertRow_filling self filled (among row isRow) inserted
  · exact filling

theorem insertOrdered_exists (self : SelfReferencing contract rows)
    (acyclic : RowsAcyclic contract rows) (filling : Filling contract rows table)
    (among : ∀ row ∈ range, row ∈ rows) (different : range.Nodup)
    (available : selfParentsAvailable contract table range = true) :
    ∃ after, insertOrdered contract table range = .ok after := by
  refine ⟨_, insertOrdered_eq_ok.mpr ⟨rfl, ?_⟩⟩
  have parents := (available_iff self filling.stored among).mp available
  apply rounds_complete
    (fun last => Filling contract rows last ∧ ∀ entry ∈ table, entry ∈ last)
    (fun _ _ => True)
    (fun last row => Committed contract last row)
  case kept =>
    intro state row next isRow holds inserted
    refine ⟨insertRow_filling self holds.1 (among row isRow) inserted, ?_⟩
    exact fun entry isEntry => (insertRow_grows inserted).kept entry (holds.2 entry isEntry)
  case waits => exact fun _ _ _ _ _ _ _ _ _ => trivial
  case sound => exact fun state row rejection isRow holds _ =>
      insertRow_sound self holds.1 (among row isRow)
  case does => exact fun state row next inserted =>
      (insertRow_grows inserted).committed row (List.mem_singleton_self row)
  case stays =>
    rintro state row next other inserted ⟨entry, isEntry, sameKey⟩
    exact ⟨entry, (insertRow_grows inserted).kept entry isEntry, sameKey⟩
  case progress =>
    intro last left holds isLeft filled others
    obtain ⟨first, isFirst, waitsForNone⟩ := exists_first acyclic filled
    refine ⟨first, isFirst, ?_⟩
    intro blocked
    have isRow := among first (isLeft.subset isFirst)
    have free : blockedBy contract last (initial name first) = false := by
      apply (not_blocked_iff self holds.1.stored isRow).mpr
      intro parent isParent refers
      rcases parents first (isLeft.subset isFirst) parent isParent refers with isLocal | isStored
      · rcases others parent isLocal with isWaiting | hasKey
        · exact absurd ⟨isRow, isParent, refers⟩ (waitsForNone parent isWaiting)
        · exact .inr (holds.1.stored_of_key self isParent hasKey)
      · exact .inr (holds.2 _ isStored)
    unfold insertRow at blocked
    cases found : last.lookup (contract.key first) with
    | some existing =>
        simp only [found] at blocked
        split at blocked
        · cases blocked
        · cases blocked
    | none =>
        simp only [found, free] at blocked
        cases blocked
  case different => exact different
  case enough => exact le_rfl
  case among => exact List.Sublist.refl range
  case others => exact fun row isRow => .inl isRow
  case holds => exact ⟨filling, fun _ isEntry => isEntry⟩
  case waiting => exact fun _ _ => trivial

end Range

/-! ## Ranges -/

section Ranges

variable {rows : List Row} {ranges : List (List Row)} {range other : List Row}
  {commit phaseOneAllowed : Bool} {target : Target schema} {session : Session schema}

/-- The rows are read in ranges, none of them empty. -/
structure ReadAs (rows : List Row) (ranges : List (List Row)) : Prop where
  whole : ranges.flatten = rows
  filled : ∀ range ∈ ranges, range ≠ []

theorem readAs_pages {size : Nat} (positive : 0 < size) (rows : List Row) :
    ReadAs rows (pages size rows) :=
  ⟨pages_flatten positive rows, pagesFrom_filled positive rows.length rows⟩

variable {row : Row}

theorem ReadAs.mem (read : ReadAs rows ranges) (isRange : range ∈ ranges) (isRow : row ∈ range) :
    row ∈ rows := by
  rw [← read.whole]
  exact List.mem_flatten.mpr ⟨range, isRange, isRow⟩

theorem ReadAs.exists_range (read : ReadAs rows ranges) (isRow : row ∈ rows) :
    ∃ range ∈ ranges, row ∈ range := by
  rw [← read.whole] at isRow
  exact List.mem_flatten.mp isRow

theorem ReadAs.nodup (read : ReadAs rows ranges) (self : SelfReferencing contract rows) :
    (∀ range ∈ ranges, range.Nodup) ∧ ranges.Pairwise List.Disjoint := by
  have rowsNodup : rows.Nodup := List.Nodup.of_map contract.key self.distinct
  rw [← read.whole] at rowsNodup
  exact List.nodup_flatten.mp rowsNodup

theorem ReadAs.range_unique (read : ReadAs rows ranges) (self : SelfReferencing contract rows)
    (isRange : range ∈ ranges) (isOther : other ∈ ranges) (inRange : row ∈ range)
    (inOther : row ∈ other) : range = other := by
  by_contra different
  have symmetric : Std.Symm (List.Disjoint (α := Row)) := ⟨fun _ _ apart => apart.symm⟩
  exact (read.nodup self).2.forall isRange isOther different inRange inOther

theorem ReadAs.ranges_nodup (read : ReadAs rows ranges) (self : SelfReferencing contract rows) :
    ranges.Nodup := by
  apply List.Pairwise.imp_of_mem ?_ (read.nodup self).2
  rintro one other isOne isOther apart rfl
  obtain ⟨row, isRow⟩ := List.exists_mem_of_ne_nil one (read.filled one isOne)
  exact apart isRow isRow

theorem ReadAs.batchKey_inj (read : ReadAs rows ranges) (self : SelfReferencing contract rows)
    (isRange : range ∈ ranges) (isOther : other ∈ ranges)
    (same : batchKey contract range = batchKey contract other) : range = other := by
  obtain ⟨head, rest, rfl⟩ := List.exists_cons_of_ne_nil (read.filled range isRange)
  obtain ⟨otherHead, otherRest, rfl⟩ := List.exists_cons_of_ne_nil (read.filled other isOther)
  have heads := (Prod.mk.inj same).1
  have sameHead : head = otherHead :=
    self.eq_of_key (read.mem isRange List.mem_cons_self) (read.mem isOther List.mem_cons_self) heads
  subst sameHead
  exact read.range_unique self isRange isOther List.mem_cons_self List.mem_cons_self

/-- The table and the receipts while a table is imported. -/
structure Progressing (name : String) (rows : List Row) (ranges : List (List Row))
    (target : Target schema) : Prop where
  filling : Filling (schema name) rows (target.tables name)
  receipts : ∀ range ∈ ranges, ∀ prior,
    target.receipts.lookup (name, batchKey (schema name) range) = some prior →
      prior = receiptOf (schema name) range ∧
        ∀ row ∈ range, initial name row ∈ target.tables name

theorem batch_progressing {after : Target schema} (self : SelfReferencing (schema name) rows)
    (read : ReadAs rows ranges) (isRange : range ∈ ranges)
    (progressing : Progressing name rows ranges target)
    (done : batch name phaseOneAllowed target range = .ok after) :
    Progressing name rows ranges after ∧ ∀ entry ∈ after.tables name,
      entry ∈ target.tables name ∨ ∃ row ∈ range, entry = initial name row := by
  obtain ⟨_, _, receipts⟩ := batch_receipts done
  rcases batch_cases done with ⟨prior, _, _, rfl⟩ | ⟨_, table, inserted, rfl⟩
  · exact ⟨progressing, fun _ isEntry => .inl isEntry⟩
  · have grown := insertOrdered_grows inserted
    have filled := insertOrdered_filling self progressing.filling
      (fun row isRow => read.mem isRange isRow) inserted
    have isTable : ({ target.setTable name table with
        receipts := target.receipts.insert (receiptOf (schema name) range) } :
          Target schema).tables name = table := target.tables_setTable_self name table
    rw [isTable]
    refine ⟨⟨?_, ?_⟩, grown.only⟩
    · rw [isTable]
      exact filled
    · intro reached isReached prior isPrior
      rw [isTable]
      rcases receipts _ prior isPrior with isOld | ⟨isKey, isNew⟩
      · obtain ⟨isReceipt, stored⟩ := progressing.receipts reached isReached prior isOld
        exact ⟨isReceipt, fun row isRow => grown.kept _ (stored row isRow)⟩
      · have same := read.batchKey_inj self isReached isRange (Prod.mk.inj isKey).2
        subst same
        refine ⟨isNew, fun row isRow => ?_⟩
        exact filled.stored_of_key self (read.mem isReached isRow) (grown.committed row isRow)

/-! ### The whole table -/

/-- A target nothing of the table has been imported into. -/
structure Untouched (name : String) (target : Target schema) : Prop where
  empty : (target.tables name).rows = []
  unread : ∀ receipt ∈ target.receipts, receipt.tableName ≠ name

theorem Untouched.no_receipt (untouched : Untouched name target) (range : List Row) :
    target.receipts.lookup (name, batchKey (schema name) range) = none := by
  apply Table.lookup_eq_none.mpr
  intro receipt isReceipt sameKey
  exact untouched.unread receipt isReceipt (Prod.mk.inj sameKey).1

theorem Untouched.progressing (untouched : Untouched name target) (rows : List Row)
    (ranges : List (List Row)) : Progressing name rows ranges target := by
  have noEntry : ∀ entry, entry ∉ target.tables name := by
    intro entry isEntry
    rw [Table.mem_rows, untouched.empty] at isEntry
    cases isEntry
  constructor
  · constructor
    · exact fun entry isEntry => absurd isEntry (noEntry entry)
    · exact fun row _ isStored => absurd isStored (noEntry _)
    · rw [untouched.empty]
      exact List.Pairwise.nil
  · intro range _ prior isPrior
    rw [untouched.no_receipt range] at isPrior
    cases isPrior

theorem Progressing.imported (self : SelfReferencing (schema name) rows) (read : ReadAs rows ranges)
    (progressing : Progressing name rows ranges target)
    (done : ∀ range ∈ ranges, HasReceipt name target range) :
    Imported (schema name) rows (target.tables name) := by
  constructor
  · have distinct : (target.tables name).rows.Nodup :=
      List.Nodup.of_map _ (target.tables name).unique
    have forms : (rows.map (initial name)).Nodup := by
      apply List.Nodup.of_map (schema name).key
      rw [List.map_map]
      have keys : rows.map ((schema name).key ∘ initial name) = rows.map (schema name).key :=
        List.map_congr_left fun row _ => key_initial (schema name) row
      rw [keys]
      exact self.distinct
    apply (List.perm_ext_iff_of_nodup distinct forms).mpr
    intro entry
    rw [List.mem_map]
    constructor
    · intro isEntry
      obtain ⟨row, isRow, isForm⟩ := progressing.filling.stored entry isEntry
      exact ⟨row, isRow, isForm.symm⟩
    · rintro ⟨row, isRow, rfl⟩
      obtain ⟨range, isRange, inRange⟩ := read.exists_range isRow
      obtain ⟨prior, isPrior⟩ := Option.isSome_iff_exists.mp (done range isRange)
      exact (progressing.receipts range isRange prior isPrior).2 row inRange
  · exact progressing.filling.ordered

theorem tableBatches_ok (self : SelfReferencing (schema name) rows) (read : ReadAs rows ranges)
    (acyclic : RowsAcyclic (schema name) rows) (noCircle : RangesAcyclic (schema name) ranges)
    (untouched : Untouched name session.current) :
    (tableBatches name commit phaseOneAllowed session ranges).2 = .ok () := by
  apply rounds_complete
    (fun last : Session schema => Progressing name rows ranges last.current)
    (fun last range =>
      last.current.receipts.lookup (name, batchKey (schema name) range) = none)
    (fun last range => HasReceipt name last.current range)
  case kept =>
    intro last range next isRange holds tried
    obtain ⟨_, after, done, rfl⟩ := tryBatch_eq_some.mp tried
    exact (batch_progressing self read isRange holds done).1
  case waits =>
    intro last range next other isRange isOther tried different waiting
    obtain ⟨_, after, done, rfl⟩ := tryBatch_eq_some.mp tried
    cases isReceipt : after.receipts.lookup (name, batchKey (schema name) other) with
    | none => exact isReceipt
    | some receipt =>
        rcases (batch_receipts done).2.2 _ receipt isReceipt with isOld | ⟨isKey, _⟩
        · rw [waiting] at isOld
          cases isOld
        · exact absurd (read.batchKey_inj self isOther isRange (Prod.mk.inj isKey).2) different
  case sound =>
    intro last range rejection isRange holds waiting failed
    unfold tryBatch at failed
    cases available : selfParentsAvailable (schema name) (last.current.tables name) range with
    | false => simp [available] at failed
    | true =>
        obtain ⟨table, inserted⟩ := insertOrdered_exists self acyclic holds.filling
          (fun row isRow => read.mem isRange isRow) ((read.nodup self).1 range isRange) available
        simp [available, batch, waiting, inserted] at failed
  case does =>
    intro last range next tried
    obtain ⟨_, after, done, rfl⟩ := tryBatch_eq_some.mp tried
    exact (batch_receipts done).1
  case stays =>
    intro last range next other tried isDone
    obtain ⟨_, after, done, rfl⟩ := tryBatch_eq_some.mp tried
    obtain ⟨prior, isPrior⟩ := Option.isSome_iff_exists.mp isDone
    exact Option.isSome_iff_exists.mpr ⟨prior, (batch_receipts done).2.1 _ prior isPrior⟩
  case progress =>
    intro last left holds isLeft filled others
    obtain ⟨first, isFirst, needsNone⟩ := exists_first noCircle filled
    have isRange := isLeft.subset isFirst
    refine ⟨first, isFirst, ?_⟩
    have available : selfParentsAvailable (schema name) (last.current.tables name) first =
        true := by
      apply (available_iff self holds.filling.stored fun row isRow => read.mem isRange isRow).mpr
      intro row isRow parent isParent refers
      obtain ⟨other, isOther, inOther⟩ := read.exists_range isParent
      by_cases same : first = other
      · rw [same]
        exact .inl inOther
      · rcases others other isOther with isWaiting | isDone
        · exact absurd ⟨isRange, isOther, same, row, isRow, parent, inOther, refers⟩
            (needsNone other isWaiting)
        · obtain ⟨prior, isPrior⟩ := Option.isSome_iff_exists.mp isDone
          exact .inr ((holds.receipts other isOther prior isPrior).2 parent inOther)
    unfold tryBatch
    rw [if_pos available]
    split
    · intro absurdity
      cases absurdity
    · intro absurdity
      cases absurdity
  case different => exact read.ranges_nodup self
  case enough => exact le_rfl
  case among => exact List.Sublist.refl ranges
  case others => exact fun range isRange => .inl isRange
  case holds => exact untouched.progressing rows ranges
  case waiting => exact fun range _ => untouched.no_receipt range

theorem tableBatches_stuck (self : SelfReferencing (schema name) rows) (read : ReadAs rows ranges)
    {circular : List Row} (circle : Relation.TransGen (Needs (schema name) ranges) circular circular)
    (untouched : Untouched name session.current) :
    (tableBatches name commit phaseOneAllowed session ranges).2 ≠ .ok () := by
  -- a range of a circle needs another one of a circle, and neither has been written
  have onward : ∀ range, Relation.TransGen (Needs (schema name) ranges) range range →
      ∃ next, Needs (schema name) ranges range next ∧
        Relation.TransGen (Needs (schema name) ranges) next next := by
    intro range circle
    obtain ⟨next, needs, back⟩ := Relation.TransGen.head'_iff.mp circle
    refine ⟨next, needs, ?_⟩
    exact (Relation.TransGen.tail' back needs)
  have isCircular : circular ∈ ranges := by
    obtain ⟨next, needs, _⟩ := onward circular circle
    exact needs.1
  have never : ∀ (last : Session schema) range next,
      Relation.TransGen (Needs (schema name) ranges) range range →
      (Progressing name rows ranges last.current ∧ ∀ range row,
        Relation.TransGen (Needs (schema name) ranges) range range → row ∈ range →
          initial name row ∉ last.current.tables name) →
      tryBatch name commit phaseOneAllowed last range ≠ .ok (some next) := by
    rintro last range next circle ⟨holds, unwritten⟩ tried
    obtain ⟨available, _⟩ := tryBatch_eq_some.mp tried
    obtain ⟨other, ⟨isRange, isOther, different, row, isRow, parent, inOther, refers⟩, onCircle⟩ :=
      onward range circle
    have parents := (available_iff self holds.filling.stored
      fun row isRow => read.mem isRange isRow).mp available
    rcases parents row isRow parent (read.mem isOther inOther) refers with isLocal | isStored
    · exact different (read.range_unique self isRange isOther isLocal inOther)
    · exact unwritten other parent onCircle inOther isStored
  apply rounds_stuck
    (fun last : Session schema => Progressing name rows ranges last.current ∧ ∀ range row,
      Relation.TransGen (Needs (schema name) ranges) range range → row ∈ range →
        initial name row ∉ last.current.tables name)
  case kept =>
    intro last range next isRange holds tried
    have notCircular : ¬ Relation.TransGen (Needs (schema name) ranges) range range := fun circle =>
      never last range next circle holds tried
    obtain ⟨_, after, done, rfl⟩ := tryBatch_eq_some.mp tried
    obtain ⟨progressing, only⟩ := batch_progressing self read isRange holds.1 done
    refine ⟨progressing, ?_⟩
    intro other row onCircle isRow isStored
    rcases only _ isStored with isOld | ⟨new, isNew, sameForm⟩
    · exact holds.2 other row onCircle isRow isOld
    · obtain ⟨_, needs, _⟩ := onward other onCircle
      have sameRow := initial_inj self (read.mem needs.1 isRow) (read.mem isRange isNew) sameForm
      subst sameRow
      have sameRange := read.range_unique self needs.1 isRange isRow isNew
      exact notCircular (sameRange ▸ onCircle)
  case never => exact fun last next holds => never last circular next circle holds
  case holds =>
    refine ⟨untouched.progressing rows ranges, ?_⟩
    intro range row _ _ isStored
    rw [Table.mem_rows, untouched.empty] at isStored
    cases isStored
  case isJob => exact isCircular

/-- An acyclic table whose references resolve is imported, with every row once and after the rows
it refers to, exactly when the ranges it is read in do not need each other in a circle. -/
theorem self_references_imported_iff {size : Nat} (positive : 0 < size)
    (self : SelfReferencing (schema name) rows) (acyclic : RowsAcyclic (schema name) rows)
    (untouched : Untouched name session.current) :
    ((tableBatches name commit phaseOneAllowed session (pages size rows)).2 = .ok () ∧
      Imported (schema name) rows
        ((tableBatches name commit phaseOneAllowed session (pages size rows)).1.current.tables
          name)) ↔
      RangesAcyclic (schema name) (pages size rows) := by
  have read := readAs_pages positive rows
  constructor
  · rintro ⟨ended, _⟩ range circle
    exact tableBatches_stuck self read circle untouched ended
  · intro noCircle
    have ended : (tableBatches name commit phaseOneAllowed session (pages size rows)).2 = .ok () :=
      tableBatches_ok self read acyclic noCircle untouched
    refine ⟨ended, ?_⟩
    have progressing : Progressing name rows (pages size rows)
        (tableBatches name commit phaseOneAllowed session (pages size rows)).1.current := by
      apply rounds_keeps fun last : Session schema =>
        Progressing name rows (pages size rows) last.current
      · intro last range next isRange holds tried
        obtain ⟨_, after, done, rfl⟩ := tryBatch_eq_some.mp tried
        exact (batch_progressing self read isRange holds done).1
      · exact untouched.progressing rows (pages size rows)
    apply progressing.imported self read
    apply rounds_done fun (last : Session schema) range => HasReceipt name last.current range
    · intro last range next tried
      obtain ⟨_, after, done, rfl⟩ := tryBatch_eq_some.mp tried
      exact (batch_receipts done).1
    · intro last range next other tried isDone
      obtain ⟨_, after, done, rfl⟩ := tryBatch_eq_some.mp tried
      obtain ⟨prior, isPrior⟩ := Option.isSome_iff_exists.mp isDone
      exact Option.isSome_iff_exists.mpr ⟨prior, (batch_receipts done).2.1 _ prior isPrior⟩
    · exact ended

end Ranges

/-! ### Two revision chains across two ranges -/

/-- `knowledge_draft_revisions`, with the columns of its key and of its reference. -/
def draftRevisions (name : String) : Contract name where
  pk := ["draft_revision_id"]
  fixed := by
    intro column isColumn
    rw [List.mem_singleton] at isColumn
    subst isColumn
    unfold pointers
    split <;> decide
  foreignKeys := [⟨["parent_revision_id"], name, ["draft_revision_id"]⟩]
  scopeGuards := []
  identity := []
  sourceKey := some ["draft_revision_id"]

/-- A revision with its parent. -/
def revision (id : Nat) (parent : Option Nat) : Row where
  cells := [("draft_revision_id", some (.integer id)),
    ("parent_revision_id", parent.map fun (parent : Nat) => .integer parent)]
  distinct := by simp

/-- The revisions 0, 1, … with their parents. -/
def revisions (count : Nat) (parent : Nat → Option Nat) : List Row :=
  (List.range count).map fun id => revision id (parent id)

/-- The target before the import. -/
def emptyTarget : Target draftRevisions where
  tables := fun _ => Table.empty _
  receipts := Table.empty _
  run := none
  sequences := fun _ _ => ⟨1, false⟩

theorem revision_id (id : Nat) (parent : Option Nat) :
    (revision id parent).get "draft_revision_id" = some (.integer id) := by
  simp [Row.get, revision]

theorem revision_parent (id : Nat) (parent : Option Nat) :
    (revision id parent).get "parent_revision_id" =
      parent.map fun (parent : Nat) => .integer parent := by
  simp [Row.get, revision, List.lookup_cons]

theorem draftRevisions_selfKeys :
    (draftRevisions name).selfKeys = [⟨["parent_revision_id"], name, ["draft_revision_id"]⟩] := by
  simp [draftRevisions, Contract.selfKeys]

variable {count : Nat} {parent : Nat → Option Nat}

theorem mem_revisions {row : Row} :
    row ∈ revisions count parent ↔ ∃ id < count, revision id (parent id) = row := by
  simp [revisions]

theorem refers_revision {row other : Nat} {parent otherParent : Option Nat} :
    Refers (draftRevisions name) (revision row parent) (revision other otherParent) ↔
      parent = some other := by
  unfold Refers
  rw [draftRevisions_selfKeys]
  simp only [List.mem_singleton, exists_eq_left, ForeignKey.complete, Row.select, List.map_cons,
    List.map_nil, revision_id, revision_parent]
  cases parent with
  | none => simp
  | some parent =>
      simp only [Option.map_some, List.all_cons, Option.isSome_some, List.all_nil, Bool.and_true,
        true_and, List.cons.injEq, Option.some.injEq, Value.integer.injEq, and_true]
      constructor
      · intro same
        exact (Int.ofNat.inj same).symm
      · intro same
        rw [same]

theorem revisions_selfReferencing
    (inside : ∀ id < count, ∀ other, parent id = some other → other < count) :
    SelfReferencing (draftRevisions "knowledge_draft_revisions") (revisions count parent) := by
  have isKey : ∀ key ∈ (draftRevisions "knowledge_draft_revisions").selfKeys,
      key = ⟨["parent_revision_id"], "knowledge_draft_revisions", ["draft_revision_id"]⟩ := by
    intro key member
    rw [draftRevisions_selfKeys] at member
    exact List.mem_singleton.mp member
  constructor
  · rw [revisions, List.map_map]
    apply List.Nodup.map ?_ List.nodup_range
    intro one other same
    simpa [Contract.key, draftRevisions, Row.select, revision_id] using same
  · intro key member column _ isPointer
    cases isPointer
  · intro key member one isOne other isOther _ same
    obtain ⟨oneId, _, rfl⟩ := mem_revisions.mp isOne
    obtain ⟨otherId, _, rfl⟩ := mem_revisions.mp isOther
    rw [isKey key member] at same
    have sameId : oneId = otherId := by simpa [Row.select, revision_id] using same
    rw [sameId]
  · intro key member row isRow complete
    obtain ⟨id, isId, rfl⟩ := mem_revisions.mp isRow
    rw [isKey key member] at complete ⊢
    cases isParent : parent id with
    | none => simp [ForeignKey.complete, Row.select, revision_parent, isParent] at complete
    | some other =>
        apply List.any_eq_true.mpr
        refine ⟨revision other (parent other), ?_, ?_⟩
        · exact mem_revisions.mpr ⟨other, inside id isId other isParent, rfl⟩
        · simp [Row.select, revision_id, revision_parent]

/-- Parents without parents make no circle. -/
theorem revisions_acyclic (roots : ∀ id other, parent id = some other → parent other = none) :
    RowsAcyclic (draftRevisions name) (revisions count parent) := by
  intro row circle
  obtain ⟨second, first, _⟩ := Relation.TransGen.head'_iff.mp circle
  obtain ⟨before, _, last⟩ := Relation.TransGen.tail'_iff.mp circle
  obtain ⟨rowId, _, isRow⟩ := mem_revisions.mp first.1
  obtain ⟨secondId, _, isSecond⟩ := mem_revisions.mp first.2.1
  obtain ⟨beforeId, _, isBefore⟩ := mem_revisions.mp last.1
  have hasParent : parent rowId = some secondId := by
    rw [← @refers_revision name, isRow, isSecond]
    exact first.2.2
  have isParent : parent beforeId = some rowId := by
    rw [← @refers_revision name, isBefore, isRow]
    exact last.2.2
  rw [roots beforeId rowId isParent] at hasParent
  cases hasParent

/-- Revision 1 has revision 0 as its parent. -/
def chainParent : Nat → Option Nat
  | 1 => some 0
  | _ => none

/-- A chain inside one range is imported. -/
theorem self_references_imported_chain :
    (tableBatches "knowledge_draft_revisions" true true ⟨emptyTarget, []⟩
        (pages batchSize (revisions 2 chainParent))).2 = .ok () ∧
      Imported (draftRevisions "knowledge_draft_revisions") (revisions 2 chainParent)
        ((tableBatches "knowledge_draft_revisions" true true ⟨emptyTarget, []⟩
          (pages batchSize (revisions 2 chainParent))).1.current.tables
            "knowledge_draft_revisions") := by
  have parents : ∀ id other, chainParent id = some other → id = 1 ∧ other = 0 := by
    intro id other isParent
    unfold chainParent at isParent
    split at isParent
    · exact ⟨rfl, (Option.some.inj isParent).symm⟩
    · cases isParent
  have self : SelfReferencing (draftRevisions "knowledge_draft_revisions")
      (revisions 2 chainParent) := by
    apply revisions_selfReferencing
    intro id _ other isParent
    rw [(parents id other isParent).2]
    decide
  have acyclic : RowsAcyclic (draftRevisions "knowledge_draft_revisions")
      (revisions 2 chainParent) := by
    apply revisions_acyclic
    intro id other isParent
    rw [(parents id other isParent).2]
    rfl
  have untouched : Untouched "knowledge_draft_revisions"
      (⟨emptyTarget, []⟩ : Session draftRevisions).current := by
    constructor
    · rfl
    · intro receipt isReceipt
      cases isReceipt
  apply (self_references_imported_iff (by decide) self acyclic untouched).mpr
  have one : pages batchSize (revisions 2 chainParent) = [revisions 2 chainParent] := by
    decide +kernel
  rw [one]
  intro range circle
  obtain ⟨next, needs, _⟩ := Relation.TransGen.head'_iff.mp circle
  exact needs.2.2.1 ((List.mem_singleton.mp needs.1).trans (List.mem_singleton.mp needs.2.1).symm)

/-- Revision 0 is in the first range and its parent in the second, revision 129 is in the second and
its parent in the first. -/
def crossingParent : Nat → Option Nat
  | 0 => some 128
  | 129 => some 1
  | _ => none

theorem crossingParent_cases {id other : Nat} (isParent : crossingParent id = some other) :
    (id = 0 ∧ other = 128) ∨ (id = 129 ∧ other = 1) := by
  unfold crossingParent at isParent
  split at isParent
  · exact .inl ⟨rfl, (Option.some.inj isParent).symm⟩
  · exact .inr ⟨rfl, (Option.some.inj isParent).symm⟩
  · cases isParent

/-- 130 revisions with acyclic references inside the table, read 128 at a time, are refused as a
circle. -/
theorem crossing_chains_not_imported :
    SelfReferencing (draftRevisions "knowledge_draft_revisions") (revisions 130 crossingParent) ∧
      RowsAcyclic (draftRevisions "knowledge_draft_revisions") (revisions 130 crossingParent) ∧
      (tableBatches "knowledge_draft_revisions" true true ⟨emptyTarget, []⟩
        (pages batchSize (revisions 130 crossingParent))).2 =
          .error .unresolvedSelfReferenceCycle := by
  refine ⟨?_, ?_, by decide +kernel⟩
  · apply revisions_selfReferencing
    intro id _ other isParent
    rcases crossingParent_cases isParent with ⟨_, rfl⟩ | ⟨_, rfl⟩ <;> decide
  · apply revisions_acyclic
    intro id other isParent
    rcases crossingParent_cases isParent with ⟨_, rfl⟩ | ⟨_, rfl⟩ <;> rfl

end Shiliu.Migration

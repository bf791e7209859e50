/-
Module: Shiliu.Library.Table
Purpose: Tables with a primary key. A table is a list of rows together with the proof that no two
  rows share a key, and a change carries the proof that it leaves the key alone, so a table that
  breaks its key cannot be built. Queries by key, insertion, updates by predicate and sums over the rows,
  with the lemmas that say what each update does to each query.
Trusted boundary: none
Main exports: Table, Change, Table.lookup, Table.modify, Table.upsert, Table.assign, Table.total
-/
import Mathlib.Data.List.Nodup
import Mathlib.Algebra.BigOperators.Group.List.Basic
import Mathlib.Tactic.Abel

set_option linter.all false

namespace Shiliu.Library

variable {Row Key : Type*}

/-- A list of rows without duplicate keys. -/
structure Table (keyOf : Row → Key) where
  rows : List Row
  unique : (rows.map keyOf).Nodup

/-- A change of a row that leaves its key alone. -/
structure Change (keyOf : Row → Key) where
  apply : Row → Row
  keeps : ∀ row, keyOf (apply row) = keyOf row

namespace Table

variable {keyOf : Row → Key}

instance : Membership Row (Table keyOf) :=
  ⟨fun table row => row ∈ table.rows⟩

theorem mem_rows {table : Table keyOf} {row : Row} : row ∈ table ↔ row ∈ table.rows := Iff.rfl

def empty (keyOf : Row → Key) : Table keyOf :=
  ⟨[], List.nodup_nil⟩

@[simp] theorem rows_empty : (empty keyOf).rows = [] := rfl

@[simp] theorem not_mem_empty (row : Row) : row ∉ empty keyOf := List.not_mem_nil

theorem eq_of_key {table : Table keyOf} {first second : Row} (one : first ∈ table)
    (two : second ∈ table) (same : keyOf first = keyOf second) : first = second :=
  List.inj_on_of_nodup_map table.unique one two same

/-- Change the rows a predicate selects. -/
def updateWhere (table : Table keyOf) (select : Row → Bool) (change : Change keyOf) :
    Table keyOf where
  rows := table.rows.map fun row => if select row then change.apply row else row
  unique := by
    have same : (table.rows.map fun row => if select row then change.apply row else row).map
        keyOf = table.rows.map keyOf := by
      rw [List.map_map]
      refine List.map_congr_left fun row _ => ?_
      simp only [Function.comp_apply]
      split
      · exact change.keeps row
      · rfl
    rw [same]
    exact table.unique

theorem mem_updateWhere {table : Table keyOf} {select : Row → Bool} {change : Change keyOf}
    {after : Row} :
    after ∈ table.updateWhere select change ↔
      ∃ before ∈ table, (if select before then change.apply before else before) = after :=
  List.mem_map

variable [DecidableEq Key]

/-- The row with a key. -/
def lookup (table : Table keyOf) (key : Key) : Option Row :=
  table.rows.find? fun row => keyOf row = key

@[simp] theorem lookup_empty (key : Key) : (empty keyOf).lookup key = none := rfl

theorem mem_of_lookup {table : Table keyOf} {key : Key} {row : Row}
    (found : table.lookup key = some row) : row ∈ table :=
  List.mem_of_find?_eq_some found

theorem key_of_lookup {table : Table keyOf} {key : Key} {row : Row}
    (found : table.lookup key = some row) : keyOf row = key := by
  simpa using List.find?_some found

theorem lookup_of_mem {table : Table keyOf} {row : Row} (member : row ∈ table) :
    table.lookup (keyOf row) = some row := by
  cases found : table.lookup (keyOf row) with
  | some other => rw [eq_of_key (mem_of_lookup found) member (key_of_lookup found)]
  | none => simpa using List.find?_eq_none.mp found row member

theorem lookup_eq_some {table : Table keyOf} {key : Key} {row : Row} :
    table.lookup key = some row ↔ row ∈ table ∧ keyOf row = key := by
  constructor
  · exact fun found => ⟨mem_of_lookup found, key_of_lookup found⟩
  · rintro ⟨member, rfl⟩
    exact lookup_of_mem member

theorem lookup_eq_none {table : Table keyOf} {key : Key} :
    table.lookup key = none ↔ ∀ row ∈ table, keyOf row ≠ key := by
  simp only [lookup, List.find?_eq_none, decide_eq_true_eq]
  rfl

/-- `INSERT … ON CONFLICT DO NOTHING`. -/
def insert (table : Table keyOf) (row : Row) : Table keyOf :=
  if absent : table.lookup (keyOf row) = none then
    { rows := table.rows ++ [row]
      unique := by
        rw [List.map_append, List.nodup_append]
        refine ⟨table.unique, List.nodup_singleton _, ?_⟩
        intro key member other isRow same
        rw [List.map_singleton, List.mem_singleton] at isRow
        obtain ⟨present, isPresent, isKey⟩ := List.mem_map.mp member
        exact lookup_eq_none.mp absent present isPresent (isKey.trans (same.trans isRow)) }
  else table

theorem insert_of_lookup {table : Table keyOf} {row present : Row}
    (found : table.lookup (keyOf row) = some present) : table.insert row = table := by
  simp [insert, found]

theorem rows_insert {table : Table keyOf} {row : Row}
    (absent : table.lookup (keyOf row) = none) :
    (table.insert row).rows = table.rows ++ [row] := by
  simp [insert, absent]

theorem mem_insert {table : Table keyOf} {row other : Row}
    (absent : table.lookup (keyOf row) = none) :
    other ∈ table.insert row ↔ other ∈ table ∨ other = row := by
  rw [mem_rows, rows_insert absent, List.mem_append, List.mem_singleton]
  rfl

theorem mem_insert_of_mem {table : Table keyOf} {row other : Row} (member : other ∈ table) :
    other ∈ table.insert row := by
  cases found : table.lookup (keyOf row) with
  | some present => rwa [insert_of_lookup found]
  | none => exact (mem_insert found).mpr (Or.inl member)

theorem lookup_insert_self {table : Table keyOf} {row : Row}
    (absent : table.lookup (keyOf row) = none) :
    (table.insert row).lookup (keyOf row) = some row :=
  lookup_of_mem ((mem_insert absent).mpr (Or.inr rfl))

theorem lookup_insert_of_lookup {table : Table keyOf} {row present : Row} {key : Key}
    (found : table.lookup key = some present) :
    (table.insert row).lookup key = some present := by
  obtain ⟨member, rfl⟩ := lookup_eq_some.mp found
  exact lookup_of_mem (mem_insert_of_mem member)

theorem lookup_insert_of_ne {table : Table keyOf} {row : Row} {key : Key}
    (different : keyOf row ≠ key) : (table.insert row).lookup key = table.lookup key := by
  cases found : table.lookup (keyOf row) with
  | some present => rw [insert_of_lookup found]
  | none =>
      unfold lookup
      rw [rows_insert found, List.find?_append]
      simp [different]

theorem lookup_insert_cases {table : Table keyOf} {row found : Row} {key : Key}
    (isFound : (table.insert row).lookup key = some found) :
    table.lookup key = some found ∨ (table.lookup key = none ∧ key = keyOf row ∧ found = row) := by
  by_cases same : keyOf row = key
  · subst same
    cases before : table.lookup (keyOf row) with
    | some present =>
        rw [insert_of_lookup before, before] at isFound
        exact Or.inl isFound
    | none =>
        rw [lookup_insert_self before] at isFound
        exact Or.inr ⟨rfl, rfl, (Option.some.inj isFound).symm⟩
  · rw [lookup_insert_of_ne same] at isFound
    exact Or.inl isFound

/-- Change the row with a key, if there is one. -/
def modify (table : Table keyOf) (key : Key) (change : Change keyOf) : Table keyOf :=
  table.updateWhere (fun row => keyOf row = key) change

theorem lookup_updateWhere {table : Table keyOf} {select : Row → Bool} {change : Change keyOf}
    {key : Key} :
    (table.updateWhere select change).lookup key =
      (table.lookup key).map fun row => if select row then change.apply row else row := by
  have sameKey : ∀ row, keyOf (if select row then change.apply row else row) = keyOf row := by
    intro row
    split
    · exact change.keeps row
    · rfl
  unfold lookup updateWhere
  rw [List.find?_map]
  simp only [Function.comp_def, sameKey]

theorem lookup_modify_self {table : Table keyOf} {change : Change keyOf} {key : Key} :
    (table.modify key change).lookup key = (table.lookup key).map change.apply := by
  rw [modify, lookup_updateWhere]
  cases found : table.lookup key with
  | none => rfl
  | some row => simp [key_of_lookup found]

theorem lookup_modify_of_ne {table : Table keyOf} {change : Change keyOf} {key other : Key}
    (different : other ≠ key) : (table.modify key change).lookup other = table.lookup other := by
  rw [modify, lookup_updateWhere]
  cases found : table.lookup other with
  | none => rfl
  | some row => simp [key_of_lookup found, different]

theorem lookup_modify_cases {table : Table keyOf} {change : Change keyOf} {key other : Key}
    {found : Row} (isFound : (table.modify key change).lookup other = some found) :
    (other ≠ key ∧ table.lookup other = some found) ∨
      (other = key ∧ ∃ before, table.lookup key = some before ∧ found = change.apply before) := by
  by_cases same : other = key
  · subst same
    rw [lookup_modify_self] at isFound
    obtain ⟨before, isBefore, rfl⟩ := Option.map_eq_some_iff.mp isFound
    exact Or.inr ⟨rfl, before, isBefore, rfl⟩
  · rw [lookup_modify_of_ne same] at isFound
    exact Or.inl ⟨same, isFound⟩

theorem modify_of_absent {table : Table keyOf} {key : Key} (absent : table.lookup key = none)
    (change : Change keyOf) : table.modify key change = table := by
  have same : (table.rows.map fun row => if keyOf row = key then change.apply row else row) =
      table.rows := by
    refine (List.map_congr_left fun row isRow => ?_).trans table.rows.map_id
    rw [if_neg (lookup_eq_none.mp absent row isRow), id]
  cases table
  simpa [modify, updateWhere] using same

/-- An update loses no row. -/
theorem exists_lookup_modify {table : Table keyOf} {other : Key}
    (found : ∃ row, table.lookup other = some row) (key : Key) (change : Change keyOf) :
    ∃ row, (table.modify key change).lookup other = some row := by
  obtain ⟨row, isRow⟩ := found
  by_cases same : other = key
  · subst same
    exact ⟨change.apply row, by rw [lookup_modify_self, isRow]; rfl⟩
  · exact ⟨row, by rw [lookup_modify_of_ne same, isRow]⟩

theorem mem_modify {table : Table keyOf} {change : Change keyOf} {key : Key} {after : Row} :
    after ∈ table.modify key change ↔
      (∃ before ∈ table, keyOf before = key ∧ change.apply before = after) ∨
        (after ∈ table ∧ keyOf after ≠ key) := by
  rw [modify, mem_updateWhere]
  constructor
  · rintro ⟨before, member, rfl⟩
    by_cases same : keyOf before = key
    · exact Or.inl ⟨before, member, same, by simp [same]⟩
    · exact Or.inr (by simpa [same] using member)
  · rintro (⟨before, member, same, rfl⟩ | ⟨member, different⟩)
    · exact ⟨before, member, by simp [same]⟩
    · exact ⟨after, member, by simp [different]⟩

/-- `INSERT … ON CONFLICT DO UPDATE`: the row if its key is new, else the merge of the row that
has the key. -/
def upsert (table : Table keyOf) (row : Row) (merge : Change keyOf) : Table keyOf :=
  if (table.lookup (keyOf row)).isSome then table.modify (keyOf row) merge else table.insert row

/-- What the key of an upserted row then leads to. -/
def upserted (table : Table keyOf) (row : Row) (merge : Change keyOf) : Row :=
  ((table.lookup (keyOf row)).map merge.apply).getD row

theorem upserted_of_absent {table : Table keyOf} {row : Row} {merge : Change keyOf}
    (absent : table.lookup (keyOf row) = none) : table.upserted row merge = row := by
  rw [upserted, absent, Option.map_none, Option.getD_none]

theorem upserted_of_lookup {table : Table keyOf} {row present : Row} {merge : Change keyOf}
    (found : table.lookup (keyOf row) = some present) :
    table.upserted row merge = merge.apply present := by
  rw [upserted, found, Option.map_some, Option.getD_some]

theorem lookup_upsert_self {table : Table keyOf} {row : Row} {merge : Change keyOf} :
    (table.upsert row merge).lookup (keyOf row) = some (table.upserted row merge) := by
  cases found : table.lookup (keyOf row) with
  | none => simp [upsert, upserted, found, lookup_insert_self found]
  | some present => simp [upsert, upserted, found, lookup_modify_self]

theorem lookup_upsert_of_ne {table : Table keyOf} {row : Row} {merge : Change keyOf} {key : Key}
    (different : key ≠ keyOf row) : (table.upsert row merge).lookup key = table.lookup key := by
  unfold upsert
  split
  · exact lookup_modify_of_ne different
  · exact lookup_insert_of_ne (Ne.symm different)

theorem mem_iff_lookup {table : Table keyOf} {row : Row} :
    row ∈ table ↔ table.lookup (keyOf row) = some row :=
  ⟨lookup_of_mem, mem_of_lookup⟩

theorem key_upserted {table : Table keyOf} {row : Row} {merge : Change keyOf} :
    keyOf (table.upserted row merge) = keyOf row :=
  key_of_lookup lookup_upsert_self

theorem mem_upsert {table : Table keyOf} {row after : Row} {merge : Change keyOf} :
    after ∈ table.upsert row merge ↔
      after = table.upserted row merge ∨ (after ∈ table ∧ keyOf after ≠ keyOf row) := by
  by_cases same : keyOf after = keyOf row
  · have sameRow : after ∈ table.upsert row merge ↔ after = table.upserted row merge := by
      rw [mem_iff_lookup, same, lookup_upsert_self, Option.some_inj, eq_comm]
    simp [sameRow, same]
  · have other : after ≠ table.upserted row merge := fun isRow =>
      same (isRow ▸ key_upserted)
    rw [mem_iff_lookup, lookup_upsert_of_ne same, ← mem_iff_lookup]
    simp [other, same]

/-! ## Rows with the rows that belong to them -/

section Child

variable {Child : Type*}

/-- A join: the first row that has a child a predicate selects, with that child. -/
def child (table : Table keyOf) (children : Row → List Child) (select : Child → Bool) :
    Option (Row × Child) :=
  table.rows.findSome? fun row => ((children row).find? select).map (row, ·)

omit [DecidableEq Key] in
theorem child_eq_some {table : Table keyOf} {children : Row → List Child}
    {select : Child → Bool} {row : Row} {found : Child}
    (isFound : table.child children select = some (row, found)) :
    row ∈ table ∧ found ∈ children row ∧ select found = true := by
  obtain ⟨other, isRow, isChild⟩ := List.exists_of_findSome?_eq_some isFound
  obtain ⟨first, isFirst, same⟩ := Option.map_eq_some_iff.mp isChild
  cases same
  exact ⟨isRow, List.mem_of_find?_eq_some isFirst, List.find?_some isFirst⟩

omit [DecidableEq Key] in
theorem exists_child {table : Table keyOf} {children : Row → List Child}
    {select : Child → Bool} {row : Row} {present : Child} (isRow : row ∈ table)
    (isChild : present ∈ children row) (selected : select present = true) :
    ∃ found, table.child children select = some found := by
  rw [← Option.isSome_iff_exists, child, List.findSome?_isSome_iff]
  refine ⟨row, isRow, ?_⟩
  rw [Option.isSome_map, List.find?_isSome]
  exact ⟨present, isChild, selected⟩

end Child

/-! ## Whole rows -/

/-- `UPDATE … SET` every column to that of a row with the same key. -/
def put (table : Table keyOf) (row : Row) : Table keyOf :=
  table.modify (keyOf row)
    ⟨fun other => if keyOf other = keyOf row then row else other, fun other => by
      split
      · exact Eq.symm ‹_›
      · rfl⟩

theorem lookup_put_self {table : Table keyOf} {row present : Row}
    (found : table.lookup (keyOf row) = some present) :
    (table.put row).lookup (keyOf row) = some row := by
  rw [put, lookup_modify_self, found, Option.map_some]
  exact congrArg some (if_pos (key_of_lookup found))

theorem lookup_put_of_ne {table : Table keyOf} {row : Row} {key : Key}
    (different : key ≠ keyOf row) : (table.put row).lookup key = table.lookup key :=
  lookup_modify_of_ne different

/-- `d[key] = row` of a dictionary: in place of the row that has the key, else at the end. -/
def assign (table : Table keyOf) (row : Row) : Table keyOf :=
  if (table.lookup (keyOf row)).isSome then table.put row else table.insert row

theorem lookup_assign_self {table : Table keyOf} {row : Row} :
    (table.assign row).lookup (keyOf row) = some row := by
  cases found : table.lookup (keyOf row) with
  | none => simp [assign, found, lookup_insert_self found]
  | some present => simp [assign, found, lookup_put_self found]

theorem lookup_assign_of_ne {table : Table keyOf} {row : Row} {key : Key}
    (different : key ≠ keyOf row) : (table.assign row).lookup key = table.lookup key := by
  unfold assign
  split
  · exact lookup_put_of_ne different
  · exact lookup_insert_of_ne (Ne.symm different)

theorem mem_assign {table : Table keyOf} {row after : Row} :
    after ∈ table.assign row ↔ after = row ∨ (after ∈ table ∧ keyOf after ≠ keyOf row) := by
  by_cases same : keyOf after = keyOf row
  · rw [mem_iff_lookup, same, lookup_assign_self, Option.some_inj, eq_comm]
    simp
  · have other : after ≠ row := fun isRow => same (isRow ▸ rfl)
    rw [mem_iff_lookup, lookup_assign_of_ne same, ← mem_iff_lookup]
    simp [other, same]

/-- `DELETE … WHERE`. -/
def deleteWhere (table : Table keyOf) (select : Row → Bool) : Table keyOf where
  rows := table.rows.filter fun row => !select row
  unique := table.unique.sublist (List.filter_sublist.map keyOf)

omit [DecidableEq Key] in
theorem mem_deleteWhere {table : Table keyOf} {select : Row → Bool} {row : Row} :
    row ∈ table.deleteWhere select ↔ row ∈ table ∧ select row = false := by
  rw [mem_rows, deleteWhere, List.mem_filter, Bool.not_eq_true', ← mem_rows]

theorem lookup_deleteWhere_key {table : Table keyOf} {key other : Key} :
    (table.deleteWhere fun row => keyOf row = key).lookup other =
      if other = key then none else table.lookup other := by
  split
  case isTrue here =>
      rw [lookup_eq_none]
      intro row member isKey
      have kept := (mem_deleteWhere.mp member).2
      simp [isKey, here] at kept
  case isFalse elsewhere =>
      cases found : table.lookup other with
      | none =>
          rw [lookup_eq_none] at found ⊢
          intro row member
          exact found row (mem_deleteWhere.mp member).1
      | some row =>
          obtain ⟨member, isKey⟩ := lookup_eq_some.mp found
          rw [lookup_eq_some]
          refine ⟨mem_deleteWhere.mpr ⟨member, ?_⟩, isKey⟩
          simp [isKey, elsewhere]

/-! ## Sums over the rows a predicate selects -/

section Total

variable {Weight : Type*} [AddCommMonoid Weight]

/-- `SELECT sum(weight) … WHERE select`. -/
def total (table : Table keyOf) (select : Row → Bool) (weight : Row → Weight) : Weight :=
  ((table.rows.filter select).map weight).sum

theorem sum_filter_eq (rows : List Row) (select : Row → Bool) (weight : Row → Weight) :
    ((rows.filter select).map weight).sum =
      (rows.map fun row => if select row then weight row else 0).sum := by
  induction rows with
  | nil => rfl
  | cons row rest inductionHypothesis =>
      by_cases selected : select row <;> simp [selected, inductionHypothesis]

theorem total_insert {table : Table keyOf} {row : Row} (absent : table.lookup (keyOf row) = none)
    (select : Row → Bool) (weight : Row → Weight) :
    (table.insert row).total select weight =
      table.total select weight + if select row then weight row else 0 := by
  unfold total
  rw [rows_insert absent, List.filter_append, List.map_append, List.sum_append]
  by_cases selected : select row <;> simp [selected]

theorem sum_map_change {rows : List Row} (unique : (rows.map keyOf).Nodup) {row : Row}
    (member : row ∈ rows) (change : Row → Row) (weight : Row → Weight) :
    ((rows.map fun other => if keyOf other = keyOf row then change other else other).map
        weight).sum + weight row =
      (rows.map weight).sum + weight (change row) := by
  induction rows with
  | nil => cases member
  | cons head rest inductionHypothesis =>
      rw [List.map_cons, List.nodup_cons] at unique
      obtain ⟨fresh, unique⟩ := unique
      rcases List.mem_cons.mp member with rfl | member
      · have untouched :
            (rest.map fun other => if keyOf other = keyOf row then change other else other) =
              rest := by
          refine (List.map_congr_left fun other isOther => ?_).trans rest.map_id
          have different : keyOf other ≠ keyOf row := fun same =>
            fresh (same ▸ List.mem_map_of_mem isOther)
          rw [if_neg different, id]
        simp only [List.map_cons, if_true, List.sum_cons, untouched]
        abel
      · have different : keyOf head ≠ keyOf row := fun same =>
          fresh (same ▸ List.mem_map_of_mem member)
        simp only [List.map_cons, different, if_false, List.sum_cons, add_assoc,
          inductionHypothesis unique member]

/-- Changing one row moves a sum by the difference the row makes. -/
theorem total_modify {table : Table keyOf} {key : Key} {row : Row}
    (found : table.lookup key = some row) (change : Change keyOf) (select : Row → Bool)
    (weight : Row → Weight) :
    (table.modify key change).total select weight + (if select row then weight row else 0) =
      table.total select weight +
        (if select (change.apply row) then weight (change.apply row) else 0) := by
  obtain ⟨member, rfl⟩ := lookup_eq_some.mp found
  have changed := sum_map_change table.unique member change.apply
    fun other => if select other then weight other else 0
  unfold total
  rw [sum_filter_eq, sum_filter_eq, ← changed]
  simp [modify, updateWhere]

omit [DecidableEq Key] in
theorem total_ite (table : Table keyOf) (select among : Row → Bool) (weight : Row → Weight) :
    (table.total select fun row => if among row then weight row else 0) =
      table.total (fun row => select row && among row) weight := by
  unfold total
  rw [sum_filter_eq, sum_filter_eq]
  refine congrArg List.sum (List.map_congr_left fun row _ => ?_)
  cases select row <;> simp

omit [DecidableEq Key] in
/-- Sums commute with additive maps. -/
theorem map_total {Other : Type*} [AddCommMonoid Other] (image : Weight →+ Other)
    (table : Table keyOf) (select : Row → Bool) (weight : Row → Weight) :
    image (table.total select weight) = table.total select fun row => image (weight row) := by
  unfold total
  rw [map_list_sum, List.map_map]
  rfl

end Total

/-- `SELECT count(*) … WHERE select`. -/
def count (table : Table keyOf) (select : Row → Bool) : Nat :=
  (table.rows.filter select).length

omit [DecidableEq Key] in
theorem count_eq_total {Weight : Type*} [AddCommMonoidWithOne Weight] (table : Table keyOf)
    (select : Row → Bool) : (table.count select : Weight) = table.total select fun _ => 1 := by
  simp [count, total]

end Table

end Shiliu.Library

import Mathlib.Algebra.GroupWithZero.Nat
import Mathlib.Data.List.Induction
import Mathlib.Data.List.Nodup
import QueryText.Catalog.Table
import QueryText.Proofs.Numbering

/-!
# QueryText — grouping catalog rows

The rows of the catalog are taken one by one, and each puts its column at the end of its table, or
opens a table of its own behind the others. Rows of different tables may come in any order. What the
rows say stays: the tables are those of the rows, each with all of its columns, and a row that is
listed twice gives two columns.

## Main results

* `Groups.add`, `groups_groupRows` — what one row preserves, and all rows.
* `groupRows_flatMap_rows` — tables that are listed row by row are grouped into themselves.
* `groupRows_exact` — what the grouping of rows keeps of them.
-/

namespace QueryText

-- ---------------------------------------------------------------------------
-- Tables and their rows
-- ---------------------------------------------------------------------------

/-- What tells tables apart: the schema and the name. -/
abbrev TableKey := String × String

/-- The table that a row is about. -/
def CatalogRow.key (row : CatalogRow) : TableKey :=
  (row.tableSchema, row.tableName)

namespace Table

def key (table : Table) : TableKey :=
  (table.schema, table.name)

/-- The rows that list the columns of a table. -/
def rows (table : Table) : List CatalogRow :=
  table.columns.map fun column =>
    ⟨table.schema, table.name, column.name, column.dataType, column.nullable⟩

/-- The columns of the first table with a key, if there is one. -/
def columnsAt (key : TableKey) : List Table → List Column
  | [] => []
  | table :: tables => if table.key = key then table.columns else columnsAt key tables

/-- Where no table comes twice, every table is found by its key. -/
theorem columnsAt_of_mem {tables : List Table} (hDistinct : (tables.map key).Nodup)
    {table : Table} (hMem : table ∈ tables) : columnsAt table.key tables = table.columns := by
  induction tables with
  | nil => exact absurd hMem List.not_mem_nil
  | cons first tables ih =>
    obtain ⟨hFresh, hRest⟩ := List.nodup_cons.mp hDistinct
    rcases List.mem_cons.mp hMem with rfl | hLater
    · exact if_pos rfl
    · have hOther : first.key ≠ table.key :=
        fun hSame => hFresh (List.mem_map.mpr ⟨table, hLater, hSame.symm⟩)
      rw [columnsAt, if_neg hOther, ih hRest hLater]

theorem key_of_mem_rows {table : Table} {row : CatalogRow} (h : row ∈ table.rows) :
    row.key = table.key := by
  obtain ⟨column, -, rfl⟩ := List.mem_map.mp h
  rfl

end Table

-- ---------------------------------------------------------------------------
-- One row
-- ---------------------------------------------------------------------------

namespace CatalogRow

/-- A row belongs to a table exactly if they have the same key. -/
theorem isOf_iff {row : CatalogRow} {table : Table} : row.isOf table ↔ table.key = row.key := by
  rw [isOf, Bool.and_eq_true, beq_iff_eq, beq_iff_eq, Table.key, key, Prod.mk.injEq]

/-- A row goes to the table of its key, behind the columns that are there. -/
theorem addTo_cons_of_eq {row : CatalogRow} {table : Table} (h : table.key = row.key)
    (tables : List Table) :
    row.addTo (table :: tables) = table.withColumn row.column :: tables := by
  rw [addTo, if_pos (isOf_iff.mpr h)]

/-- A row leaves a table of another key as it is. -/
theorem addTo_cons_of_ne {row : CatalogRow} {table : Table} (h : table.key ≠ row.key)
    (tables : List Table) : row.addTo (table :: tables) = table :: row.addTo tables := by
  rw [addTo, if_neg (isOf_iff.not.mpr h)]

/-- A table stays where it is, and a new one comes behind the others. -/
theorem map_key_addTo (row : CatalogRow) (tables : List Table) :
    (row.addTo tables).map Table.key =
      if row.key ∈ tables.map Table.key then tables.map Table.key
      else tables.map Table.key ++ [row.key] := by
  induction tables with
  | nil => rfl
  | cons table tables ih =>
    by_cases h : table.key = row.key
    · rw [addTo_cons_of_eq h, if_pos (by simp [h])]
      rfl
    · have hMem : row.key ∈ (table :: tables).map Table.key ↔ row.key ∈ tables.map Table.key := by
        rw [List.map_cons, List.mem_cons, or_iff_right (Ne.symm h)]
      rw [addTo_cons_of_ne h, List.map_cons, ih]
      by_cases hOld : row.key ∈ tables.map Table.key
      · rw [if_pos hOld, if_pos (hMem.mpr hOld)]
        rfl
      · rw [if_neg hOld, if_neg (hMem.not.mpr hOld)]
        rfl

/-- The column of a row goes to the end of its table, and nowhere else. -/
theorem columnsAt_addTo (row : CatalogRow) (tables : List Table) (key : TableKey) :
    Table.columnsAt key (row.addTo tables) =
      Table.columnsAt key tables ++ if row.key = key then [row.column] else [] := by
  induction tables with
  | nil => rfl
  | cons table tables ih =>
    by_cases h : table.key = row.key
    · rw [addTo_cons_of_eq h]
      by_cases hKey : row.key = key
      · have hHere : table.key = key := h.trans hKey
        rw [if_pos hKey, Table.columnsAt, Table.columnsAt, if_pos hHere]
        exact if_pos hHere
      · have hElsewhere : table.key ≠ key := h ▸ hKey
        rw [if_neg hKey, List.append_nil, Table.columnsAt, Table.columnsAt, if_neg hElsewhere]
        exact if_neg hElsewhere
    · rw [addTo_cons_of_ne h, Table.columnsAt, Table.columnsAt]
      by_cases hHere : table.key = key
      · rw [if_pos hHere, if_pos hHere, if_neg (hHere ▸ Ne.symm h), List.append_nil]
      · rw [if_neg hHere, if_neg hHere, ih]

/-- What a row lists is added to what is listed already. -/
theorem perm_addTo (row : CatalogRow) (tables : List Table) :
    ((row.addTo tables).flatMap Table.rows).Perm (tables.flatMap Table.rows ++ [row]) := by
  induction tables with
  | nil => exact .refl _
  | cons table tables ih =>
    by_cases h : table.key = row.key
    · have hRows : (table.withColumn row.column).rows = table.rows ++ [row] := by
        obtain ⟨hSchema, hName⟩ := Prod.mk.inj h
        rw [Table.rows, Table.withColumn, List.map_append, List.map_singleton, hSchema, hName]
        exact congrArg (· ++ [row]) (by rw [Table.rows, hSchema, hName])
      rw [addTo_cons_of_eq h, List.flatMap_cons, List.flatMap_cons, hRows, List.append_assoc,
        List.append_assoc]
      exact List.perm_append_comm.append_left table.rows
    · rw [addTo_cons_of_ne h, List.flatMap_cons, List.flatMap_cons, List.append_assoc]
      exact ih.append_left table.rows

/-- A row of another table passes by. -/
theorem addTo_append {row : CatalogRow} {tables : List Table}
    (h : row.key ∉ tables.map Table.key) (more : List Table) :
    row.addTo (tables ++ more) = tables ++ row.addTo more := by
  induction tables with
  | nil => rfl
  | cons table tables ih =>
    rw [List.map_cons, List.mem_cons, not_or] at h
    rw [List.cons_append, addTo_cons_of_ne (Ne.symm h.1), ih h.2, List.cons_append]

end CatalogRow

-- ---------------------------------------------------------------------------
-- All rows
-- ---------------------------------------------------------------------------

/-- Tables that rows were grouped into. -/
structure Groups (rows : List CatalogRow) (tables : List Table) : Prop where
  /-- No table comes twice. -/
  distinct : (tables.map Table.key).Nodup
  /-- The tables are those of the rows, each at the place of its first row. -/
  order : tables.map Table.key = (rows.map CatalogRow.key).eraseDups
  /-- A table has the columns that its rows list, in the order of the rows. -/
  columns : ∀ key,
    Table.columnsAt key tables = (rows.filter fun row => row.key = key).map CatalogRow.column
  /-- The tables list the same rows. -/
  perm : (tables.flatMap Table.rows).Perm rows

/-- One more row is grouped with the others. -/
theorem Groups.add {rows : List CatalogRow} {tables : List Table} (h : Groups rows tables)
    (row : CatalogRow) : Groups (rows ++ [row]) (row.addTo tables) := by
  have hMem : row.key ∈ tables.map Table.key ↔ row.key ∈ rows.map CatalogRow.key := by
    rw [h.order, List.mem_eraseDups]
  constructor
  case distinct =>
    rw [row.map_key_addTo]
    split
    · exact h.distinct
    · rw [← List.concat_eq_append]
      exact h.distinct.concat ‹_›
  case order =>
    rw [row.map_key_addTo, List.map_append, List.map_singleton]
    by_cases hOld : row.key ∈ tables.map Table.key
    · rw [if_pos hOld, eraseDups_concat_of_mem (hMem.mp hOld), h.order]
    · rw [if_neg hOld, eraseDups_concat_of_notMem (hMem.not.mp hOld), h.order]
  case columns =>
    intro key
    rw [row.columnsAt_addTo, h.columns, List.filter_append, List.map_append]
    by_cases hKey : row.key = key
    · rw [if_pos hKey, List.filter_cons_of_pos (by simpa using hKey)]
      rfl
    · rw [if_neg hKey, List.filter_cons_of_neg (by simpa using hKey)]
      rfl
  case perm => exact (row.perm_addTo tables).trans (h.perm.append_right [row])

/-- The tables group the rows. -/
theorem groups_groupRows (rows : List CatalogRow) : Groups rows (groupRows rows) := by
  induction rows using List.reverseRecOn with
  | nil => exact ⟨List.nodup_nil, rfl, fun key => rfl, .refl []⟩
  | append_singleton rows row ih =>
    have hStep : groupRows (rows ++ [row]) = row.addTo (groupRows rows) := List.foldl_concat ..
    rw [hStep]
    exact ih.add row

namespace Groups

variable {rows : List CatalogRow} {tables : List Table}

/-- The columns of a table are those of the rows with its key, in order. -/
theorem columns_eq (h : Groups rows tables) {table : Table} (hMem : table ∈ tables) :
    table.columns = (rows.filter fun row => row.key = table.key).map CatalogRow.column :=
  (Table.columnsAt_of_mem h.distinct hMem).symm.trans (h.columns table.key)

/-- A table that a row opened has a column. -/
theorem columns_ne_nil (h : Groups rows tables) {table : Table} (hMem : table ∈ tables) :
    table.columns ≠ [] := by
  have hKey : table.key ∈ rows.map CatalogRow.key := by
    rw [← List.mem_eraseDups, ← h.order]
    exact List.mem_map_of_mem hMem
  obtain ⟨row, hRow, hSame⟩ := List.mem_map.mp hKey
  rw [h.columns_eq hMem]
  refine List.ne_nil_of_mem (List.mem_map_of_mem (f := CatalogRow.column) (a := row) ?_)
  exact List.mem_filter.mpr ⟨hRow, by simpa using hSame⟩

end Groups

-- ---------------------------------------------------------------------------
-- Grouping again
-- ---------------------------------------------------------------------------

/-- Adds rows to tables, one after the other. -/
def addRows (tables : List Table) (rows : List CatalogRow) : List Table :=
  rows.foldl (fun tables row => row.addTo tables) tables

/-- Rows of other tables pass by. -/
theorem addRows_append {tables : List Table} {rows : List CatalogRow}
    (h : ∀ row ∈ rows, row.key ∉ tables.map Table.key) (more : List Table) :
    addRows (tables ++ more) rows = tables ++ addRows more rows := by
  induction rows generalizing more with
  | nil => rfl
  | cons row rows ih =>
    obtain ⟨hFirst, hRest⟩ := List.forall_mem_cons.mp h
    show addRows (row.addTo (tables ++ more)) rows = _
    rw [CatalogRow.addTo_append hFirst, ih hRest]
    rfl

/-- The rows of a table that is there give it their columns. -/
theorem addRows_singleton (table : Table) (columns : List Column) :
    addRows [table] { table with columns }.rows =
      [{ table with columns := table.columns ++ columns }] := by
  induction columns generalizing table with
  | nil =>
    show [table] = _
    rw [List.append_nil]
  | cons column columns ih =>
    have hFirst : CatalogRow.addTo
        ⟨table.schema, table.name, column.name, column.dataType, column.nullable⟩ [table] =
          [table.withColumn column] :=
      CatalogRow.addTo_cons_of_eq rfl []
    show addRows (CatalogRow.addTo _ [table]) _ = _
    rw [hFirst, List.append_cons]
    exact ih (table.withColumn column)

/-- Tables without repetition that all have columns are grouped into themselves. -/
theorem groupRows_flatMap_rows {tables : List Table} (hDistinct : (tables.map Table.key).Nodup)
    (hColumns : ∀ table ∈ tables, table.columns ≠ []) :
    groupRows (tables.flatMap Table.rows) = tables := by
  induction tables using List.reverseRecOn with
  | nil => rfl
  | append_singleton tables table ih =>
    rw [List.map_append, List.map_singleton, ← List.concat_eq_append,
      List.nodup_concat] at hDistinct
    rw [List.forall_mem_append, List.forall_mem_singleton] at hColumns
    have hFresh : ∀ row ∈ table.rows, row.key ∉ tables.map Table.key :=
      fun row hRow => Table.key_of_mem_rows hRow ▸ hDistinct.1
    -- the first row opens the table, the others find it
    have hTable : addRows [] table.rows = [table] := by
      obtain ⟨first, rest, hSplit⟩ := List.exists_cons_of_ne_nil hColumns.2
      have hRest := addRows_singleton { table with columns := [first] } rest
      rw [Table.rows, hSplit, List.map_cons]
      refine hRest.trans ?_
      rw [List.singleton_append, ← hSplit]
    have hFold : groupRows ((tables ++ [table]).flatMap Table.rows) =
        addRows (groupRows (tables.flatMap Table.rows)) table.rows := by
      rw [List.flatMap_append, List.flatMap_singleton]
      exact List.foldl_append
    rw [hFold, ih hDistinct.2 hColumns.1]
    have hLast := addRows_append hFresh []
    rw [List.append_nil, hTable] at hLast
    exact hLast

-- ---------------------------------------------------------------------------
-- The grouping
-- ---------------------------------------------------------------------------

/-- What a grouping keeps of its rows. -/
structure GroupsExactly (rows : List CatalogRow) (tables : List Table) : Prop where
  /-- No table comes twice. -/
  distinct : (tables.map Table.key).Nodup
  /-- The tables are those of the rows. -/
  occur : ∀ key, key ∈ tables.map Table.key ↔ key ∈ rows.map CatalogRow.key
  /-- They stand in the order of their first rows. -/
  order : tables.map Table.key = (rows.map CatalogRow.key).eraseDups
  /-- The columns of a table are those of its rows, in their order and as often as they come. -/
  columns : ∀ table ∈ tables,
    table.columns = (rows.filter fun row => row.key = table.key).map CatalogRow.column
  /-- There are as many columns as rows. -/
  count : (tables.map fun table => table.columns.length).sum = rows.length
  /-- The tables list the rows, each as often as it came. -/
  listed : (tables.flatMap Table.rows).Perm rows
  /-- Grouping what the tables list gives the tables. -/
  regrouped : groupRows (tables.flatMap Table.rows) = tables

/-- Grouping rows, in whatever order they come, loses nothing of them and adds nothing to them. -/
theorem groupRows_exact (rows : List CatalogRow) : GroupsExactly rows (groupRows rows) := by
  have h := groups_groupRows rows
  constructor
  case distinct => exact h.distinct
  case occur =>
    intro key
    rw [h.order, List.mem_eraseDups]
  case order => exact h.order
  case columns => exact fun table hMem => h.columns_eq hMem
  case count =>
    rw [← h.perm.length_eq, List.length_flatMap]
    simp only [Table.rows, List.length_map]
  case listed => exact h.perm
  case regrouped => exact groupRows_flatMap_rows h.distinct fun table hMem => h.columns_ne_nil hMem

-- The rows of two tables come in turns, and one row comes twice.
example :
    groupRows [⟨"public", "a", "x", "int4", false⟩, ⟨"public", "b", "y", "text", true⟩,
      ⟨"public", "a", "z", "date", true⟩, ⟨"public", "b", "y", "text", true⟩] =
    [⟨"public", "a", [⟨"x", "int4", false⟩, ⟨"z", "date", true⟩]⟩,
      ⟨"public", "b", [⟨"y", "text", true⟩, ⟨"y", "text", true⟩]⟩] := by
  rfl

end QueryText

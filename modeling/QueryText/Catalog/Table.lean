import QueryText.Json.Tree
import QueryText.Text.CamelCase

/-!
# QueryText — descriptions of tables

What a database catalog tells about a table and its columns, with the JSON form of it, and the
grouping of catalog rows by table.
-/

namespace QueryText

structure Column where
  name : String
  dataType : String := ""
  nullable : Bool := false
  deriving DecidableEq, Repr

/-- The name of a column as a member of generated code. -/
def Column.memberName (column : Column) : String :=
  Text.upperCamelCase column.name

/-- The schema of tables that name none. -/
def defaultSchema : String := "public"

structure Table where
  schema : String := defaultSchema
  name : String
  columns : List Column := []
  deriving DecidableEq, Repr

namespace Table

/-- The name of a table after its schema. -/
def qualifiedName (table : Table) : String :=
  table.schema ++ "." ++ table.name

/-- Adds a column at the end. -/
def withColumn (table : Table) (column : Column) : Table :=
  { table with columns := table.columns ++ [column] }

end Table

/-- A row of the catalog: one column of one table. -/
structure CatalogRow where
  tableSchema : String
  tableName : String
  columnName : String
  dataType : String
  isNullable : Bool
  deriving DecidableEq, Repr

namespace CatalogRow

def column (row : CatalogRow) : Column :=
  ⟨row.columnName, row.dataType, row.isNullable⟩

def isOf (row : CatalogRow) (table : Table) : Bool :=
  table.schema == row.tableSchema && table.name == row.tableName

/-- Adds a row to the first table that it belongs to, or to a new table at the end. -/
def addTo (row : CatalogRow) : List Table → List Table
  | [] => [⟨row.tableSchema, row.tableName, [row.column]⟩]
  | table :: tables =>
    if row.isOf table then table.withColumn row.column :: tables
    else table :: row.addTo tables

end CatalogRow

/-- The tables that catalog rows describe, in the order of their first rows. -/
def groupRows (rows : List CatalogRow) : List Table :=
  rows.foldl (fun tables row => row.addTo tables) []

/-! ## JSON forms -/

open Json (Tree)

def Column.ofTree? (tree : Tree) : Option Column := do
  match ← tree.fields? ["name", "data_type", "nullable"] with
  | [name, dataType, nullable] =>
    return ⟨← Tree.required? Tree.text? name, ← Tree.optional? Tree.text? "" dataType,
      ← Tree.optional? Tree.boolean? false nullable⟩
  | _ => none

def Column.listOfTree? (tree : Tree) : Option (List Column) := do
  (← tree.items?).mapM Column.ofTree?

def Table.ofTree? (tree : Tree) : Option Table := do
  match ← tree.fields? ["schema", "name", "columns"] with
  | [schema, name, columns] =>
    return ⟨← Tree.optional? Tree.text? defaultSchema schema, ← Tree.required? Tree.text? name,
      ← Tree.optional? Column.listOfTree? [] columns⟩
  | _ => none

def CatalogRow.ofTree? (tree : Tree) : Option CatalogRow := do
  match ← tree.fields? ["table_schema", "table_name", "column_name", "data_type", "is_nullable"]
    with
  | [tableSchema, tableName, columnName, dataType, isNullable] =>
    return ⟨← Tree.required? Tree.text? tableSchema, ← Tree.required? Tree.text? tableName,
      ← Tree.required? Tree.text? columnName, ← Tree.required? Tree.text? dataType,
      ← Tree.required? Tree.boolean? isNullable⟩
  | _ => none

/-- Reads a table from its JSON text. -/
def Table.parse? (text : String) : Option Table :=
  (Tree.parse? text).bind Table.ofTree?

/-- Reads catalog rows from their JSON text. -/
def CatalogRow.parseList? (text : String) : Option (List CatalogRow) := do
  (← (← Tree.parse? text).items?).mapM CatalogRow.ofTree?

end QueryText

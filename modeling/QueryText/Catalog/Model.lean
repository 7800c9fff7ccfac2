import QueryText.Catalog.Table
import QueryText.Error
import QueryText.Relation

/-!
# QueryText — models

A model is a relation together with the names of its columns. It hands out only columns that it
has, and under another name it qualifies them by that name.
-/

namespace QueryText

/-- A type that stands for a table. -/
class TableType (α : Type) where
  tableName : String
  schemaName : String := defaultSchema
  columnNames : List String

/-- A relation whose columns are known. -/
structure Model where
  relation : Relation
  columnNames : List String

namespace Model

/-- The model of a described table. -/
def ofTable (table : Table) : Model :=
  ⟨.table (some table.schema) table.name, table.columns.map Column.name⟩

/-- The model of a type that stands for a table. -/
def ofType (α : Type) [TableType α] : Model :=
  ⟨.table (some (TableType.schemaName α)) (TableType.tableName α), TableType.columnNames α⟩

def hasColumn (model : Model) (name : String) : Bool :=
  model.columnNames.contains name

def column (model : Model) (name : String) : Except Error Expr :=
  if model.hasColumn name then .ok (model.relation.column name)
  else .error (.unknownColumn model.relation.name name)

/-- All columns, in the order in which they are declared. -/
def columns (model : Model) : List Expr :=
  model.columnNames.map model.relation.column

/-- The same model under another name. -/
def rename (model : Model) (name : String) : Model :=
  { model with relation := model.relation.rename name }

/-- All columns at once. -/
def star (model : Model) : Expr :=
  .allOf model.relation

end Model

end QueryText

import QueryText.Expr
import QueryText.Relation
import QueryText.Statement.Select

/-!
# QueryText — the query of the catalog

The query whose rows describe the columns of every table, sorted by table and by place in it.
-/

namespace QueryText

/-- The catalog relation with one row for each column of each table. -/
def catalogColumns : Relation :=
  .table (some "information_schema") "columns"

/-- The query for the columns of all tables outside the given schemas. -/
def catalogQuery (excludedSchemas : List String) : Select :=
  let query : Select :=
    { items := ["table_schema", "table_name", "column_name", "data_type"].map
        catalogColumns.column ++
        [.named
          (.binary .equal (catalogColumns.column "is_nullable") (.ofDatum (.text "YES")))
          "is_nullable"]
      order := ["table_schema", "table_name", "ordinal_position"].map fun name =>
        (catalogColumns.column name).ascending }
  if excludedSchemas.isEmpty then query
  else
    query.withFilter
      (.binary .notIn (catalogColumns.column "table_schema")
        (.tuple (excludedSchemas.map Datum.text)))

end QueryText

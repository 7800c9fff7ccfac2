import QueryText.Render.Query

/-!
# QueryText — DELETE

Removes rows of a target table. Relations that the predicates or the returned items mention are
added to USING, unless they are listed there or are the target.
-/

namespace QueryText

structure Delete where
  target : Relation
  tables : List FromItem := []
  filters : List Expr := []
  returning : List Expr := []

namespace Delete

def withTables (delete : Delete) (tables : List FromItem) : Delete :=
  { delete with tables := delete.tables ++ tables }

/-- Adds a predicate that rows have to satisfy. -/
def withFilter (delete : Delete) (predicate : Expr) : Delete :=
  { delete with filters := delete.filters ++ [predicate] }

def withReturning (delete : Delete) (items : List Expr) : Delete :=
  { delete with returning := delete.returning ++ items }

/-- The relations that the clauses mention, USING apart. -/
def mentions (delete : Delete) : List Relation :=
  Expr.mentionsAll delete.filters ++ Expr.mentionsAll delete.returning

/-- The set of the relations that the statement mentions. -/
def referenced (delete : Delete) : RelationSet :=
  .ofList delete.mentions

/-- The target and what USING declares. -/
def declared (delete : Delete) : RelationSet :=
  .ofList (delete.target :: delete.tables.flatMap FromItem.declares)

/-- The relations that are mentioned but not declared. -/
def inferred (delete : Delete) : List Relation :=
  delete.referenced.difference delete.declared

def write (delete : Delete) : Writer := do
  let missing := if (← get).options.inferring then delete.inferred else []
  Writer.within .reference do
    Writer.clause "DELETE FROM" delete.target.declare
    Writer.tableClause "USING" (delete.tables.map FromItem.write) (missing.map Relation.entry)
    Writer.conditionClause "WHERE" (delete.filters.map Expr.write)
    Writer.itemClause "RETURNING" (delete.returning.map Expr.write)

end Delete

end QueryText

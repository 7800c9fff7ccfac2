import QueryText.Statement.Assignments

/-!
# QueryText — UPDATE

Changes rows of a target table. Relations that the assigned values, the predicates or the
returned items mention are added to FROM, unless they are listed there or are the target.
-/

namespace QueryText

structure Update where
  target : Relation
  assignments : Assignments := {}
  tables : List FromItem := []
  filters : List Expr := []
  returning : List Expr := []

namespace Update

def set (update : Update) (column : String) (value : Expr) : Update :=
  { update with assignments := update.assignments.set column value }

def withTables (update : Update) (tables : List FromItem) : Update :=
  { update with tables := update.tables ++ tables }

/-- Adds a predicate that rows have to satisfy. -/
def withFilter (update : Update) (predicate : Expr) : Update :=
  { update with filters := update.filters ++ [predicate] }

def withReturning (update : Update) (items : List Expr) : Update :=
  { update with returning := update.returning ++ items }

/-- The relations that the clauses mention, FROM apart. -/
def mentions (update : Update) : List Relation :=
  Expr.mentionsAll update.assignments.values ++ Expr.mentionsAll update.filters ++
    Expr.mentionsAll update.returning

/-- The set of the relations that the statement mentions. -/
def referenced (update : Update) : RelationSet :=
  .ofList update.mentions

/-- The target and what FROM declares. -/
def declared (update : Update) : RelationSet :=
  .ofList (update.target :: update.tables.flatMap FromItem.declares)

/-- The relations that are mentioned but not declared. -/
def inferred (update : Update) : List Relation :=
  update.referenced.difference update.declared

/-- Writes the statement. Without an assignment there is nothing to write. -/
def write (update : Update) : Writer := do
  if update.assignments.isEmpty then throw (.misuse .updateWithoutAssignment)
  let missing := if (← get).options.inferring then update.inferred else []
  Writer.within .reference do
    Writer.clause "UPDATE" update.target.declare
    update.assignments.write
    Writer.tableClause "FROM" (update.tables.map FromItem.write) (missing.map Relation.entry)
    Writer.conditionClause "WHERE" (update.filters.map Expr.write)
    Writer.itemClause "RETURNING" (update.returning.map Expr.write)

end Update

end QueryText

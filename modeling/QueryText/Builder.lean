import QueryText.Statement

/-!
# QueryText — statements while they are built

A clause that collects something is absent until the first step is taken on it. From then on it is
there, and it may well be empty, since a step can pass an empty list. Here a statement is kept with
its clauses in this form, and all that is done with a statement is done with it as it is kept.

Whether a clause is absent or empty makes no difference to what is written or to what is in scope.
So a statement stands for one whose clauses are plain lists, and that is what other trees hold of
it.
-/

namespace QueryText

-- ---------------------------------------------------------------------------
-- Clauses
-- ---------------------------------------------------------------------------

/-- A clause that steps add to: absent before the first of them. -/
abbrev Clause (α : Type) := Option (List α)

namespace Clause

variable {α : Type}

/-- What was added to a clause. -/
def entries (clause : Clause α) : List α :=
  clause.getD []

/-- A clause after a step, which leaves it there even if nothing was passed. -/
def add (clause : Clause α) (passed : List α) : Clause α :=
  some (clause.entries ++ passed)

/-- Writes a clause that is there. -/
def write (clause : Clause α) (body : List α → Writer) : Writer :=
  match clause with
  | none => Writer.nothing
  | some entries => body entries

/-- Adds to a set what the entries of a clause mention, or declare. -/
def gather (clause : Clause α) (relations : α → List Relation) (set : RelationSet) :
    RelationSet :=
  match clause with
  | none => set
  | some entries => set.insertAll (entries.flatMap relations)

/-- Writes a FROM or USING clause. It can be missing from a statement and still be written, for the
tables that are inferred. -/
def writeTables (keyword : String) (clause : Clause FromItem) (missing : List Relation) :
    Writer :=
  match clause with
  | none => Writer.tableClause keyword [] (missing.map Relation.entry)
  | some tables =>
    Writer.tableClause keyword (tables.map FromItem.write) (missing.map Relation.entry)

def writeFilters (keyword : String) (clause : Clause Expr) : Writer :=
  clause.write fun filters => Writer.conditionClause keyword (filters.map Expr.write)

def writeReturning (clause : Clause Expr) : Writer :=
  clause.write fun items => Writer.itemClause "RETURNING" (items.map Expr.write)

/-- The clause of a list, which is absent if there is nothing in the list. -/
def ofList : List α → Clause α
  | [] => none
  | entries => some entries

end Clause

-- ---------------------------------------------------------------------------
-- SELECT
-- ---------------------------------------------------------------------------

/-- A SELECT while it is built. -/
structure Select.Builder where
  items : Clause Expr := none
  tables : Clause FromItem := none
  filters : Clause Expr := none
  groups : Clause Expr := none
  groupFilters : Clause Expr := none
  order : Clause SortKey := none
  limit : Option Nat := none
  offset : Option Nat := none

namespace Select.Builder

def withItems (builder : Builder) (items : List Expr) : Builder :=
  { builder with items := builder.items.add items }

def withTables (builder : Builder) (tables : List FromItem) : Builder :=
  { builder with tables := builder.tables.add tables }

/-- Adds a predicate that rows have to satisfy. -/
def withFilter (builder : Builder) (predicate : Expr) : Builder :=
  { builder with filters := builder.filters.add [predicate] }

def withGroups (builder : Builder) (groups : List Expr) : Builder :=
  { builder with groups := builder.groups.add groups }

/-- Adds a predicate that groups have to satisfy. -/
def withGroupFilter (builder : Builder) (predicate : Expr) : Builder :=
  { builder with groupFilters := builder.groupFilters.add [predicate] }

def withOrder (builder : Builder) (keys : List SortKey) : Builder :=
  { builder with order := builder.order.add keys }

def withLimit (builder : Builder) (count : Nat) : Builder :=
  { builder with limit := some count }

/-- Skips rows at the start. -/
def withOffset (builder : Builder) (count : Nat) : Builder :=
  { builder with offset := some count }

/-- The set of the relations that the clauses mention, FROM apart. -/
def referenced (builder : Builder) : RelationSet :=
  let set := builder.items.gather Expr.mentions {}
  let set := builder.filters.gather Expr.mentions set
  let set := builder.groups.gather Expr.mentions set
  let set := builder.groupFilters.gather Expr.mentions set
  builder.order.gather SortKey.mentions set

/-- The set of the relations in FROM. -/
def declared (builder : Builder) : RelationSet :=
  builder.tables.gather FromItem.declares {}

/-- The relations that are mentioned but not declared. -/
def inferred (builder : Builder) : List Relation :=
  builder.referenced.difference builder.declared

/-- Writes the SELECT clause, which is there even without items. -/
def writeItems (items : Clause Expr) : Writer :=
  match items with
  | none => Writer.keywordClause "SELECT"
  | some items =>
    if items.isEmpty then Writer.keywordClause "SELECT"
    else Writer.itemClause "SELECT" (items.map Expr.write)

def write (builder : Builder) : Writer := do
  let missing := if (← get).options.inferring then builder.inferred else []
  Writer.within .reference do
    writeItems builder.items
    builder.tables.writeTables "FROM" missing
    builder.filters.writeFilters "WHERE"
    builder.groups.write fun groups => Writer.listClause "GROUP BY" (groups.map Expr.write)
    builder.groupFilters.writeFilters "HAVING"
    builder.order.write fun keys => Writer.listClause "ORDER BY" (keys.map SortKey.write)
    Writer.countClause "LIMIT" builder.limit
    Writer.countClause "OFFSET" builder.offset

/-- The query that is built, as it is held by other trees. -/
def query (builder : Builder) : Select where
  items := builder.items.entries
  tables := builder.tables.entries
  filters := builder.filters.entries
  groups := builder.groups.entries
  groupFilters := builder.groupFilters.entries
  order := builder.order.entries
  limit := builder.limit
  offset := builder.offset

/-- Goes on building from a query, whose empty clauses are absent. -/
def ofQuery (query : Select) : Builder where
  items := .ofList query.items
  tables := .ofList query.tables
  filters := .ofList query.filters
  groups := .ofList query.groups
  groupFilters := .ofList query.groupFilters
  order := .ofList query.order
  limit := query.limit
  offset := query.offset

end Select.Builder

-- ---------------------------------------------------------------------------
-- UPDATE
-- ---------------------------------------------------------------------------

/-- An UPDATE while it is built. -/
structure Update.Builder where
  target : Relation
  assignments : Option Assignments := none
  tables : Clause FromItem := none
  filters : Clause Expr := none
  returning : Clause Expr := none

namespace Update.Builder

def set (builder : Builder) (column : String) (value : Expr) : Builder :=
  { builder with assignments := some ((builder.assignments.getD {}).set column value) }

def withTables (builder : Builder) (tables : List FromItem) : Builder :=
  { builder with tables := builder.tables.add tables }

/-- Adds a predicate that rows have to satisfy. -/
def withFilter (builder : Builder) (predicate : Expr) : Builder :=
  { builder with filters := builder.filters.add [predicate] }

def withReturning (builder : Builder) (items : List Expr) : Builder :=
  { builder with returning := builder.returning.add items }

/-- The set of the relations that the clauses mention, FROM apart. -/
def referenced (builder : Builder) : RelationSet :=
  let values : Clause Expr := builder.assignments.map Assignments.values
  let set := values.gather Expr.mentions {}
  let set := builder.filters.gather Expr.mentions set
  builder.returning.gather Expr.mentions set

/-- The target and what FROM declares. -/
def declared (builder : Builder) : RelationSet :=
  builder.tables.gather FromItem.declares (RelationSet.insert {} builder.target)

/-- The relations that are mentioned but not declared. -/
def inferred (builder : Builder) : List Relation :=
  builder.referenced.difference builder.declared

/-- Writes the statement. Without an assignment there is nothing to write. -/
def write (builder : Builder) : Writer :=
  match builder.assignments.filter fun assignments => !assignments.isEmpty with
  | none => throw (.misuse .updateWithoutAssignment)
  | some assignments => do
    let missing := if (← get).options.inferring then builder.inferred else []
    Writer.within .reference do
      Writer.clause "UPDATE" builder.target.declare
      assignments.write
      builder.tables.writeTables "FROM" missing
      builder.filters.writeFilters "WHERE"
      builder.returning.writeReturning

/-- The statement that is built. -/
def statement (builder : Builder) : Update where
  target := builder.target
  assignments := builder.assignments.getD {}
  tables := builder.tables.entries
  filters := builder.filters.entries
  returning := builder.returning.entries

end Update.Builder

-- ---------------------------------------------------------------------------
-- DELETE
-- ---------------------------------------------------------------------------

/-- A DELETE while it is built. -/
structure Delete.Builder where
  target : Relation
  tables : Clause FromItem := none
  filters : Clause Expr := none
  returning : Clause Expr := none

namespace Delete.Builder

def withTables (builder : Builder) (tables : List FromItem) : Builder :=
  { builder with tables := builder.tables.add tables }

/-- Adds a predicate that rows have to satisfy. -/
def withFilter (builder : Builder) (predicate : Expr) : Builder :=
  { builder with filters := builder.filters.add [predicate] }

def withReturning (builder : Builder) (items : List Expr) : Builder :=
  { builder with returning := builder.returning.add items }

/-- The set of the relations that the clauses mention, USING apart. -/
def referenced (builder : Builder) : RelationSet :=
  let set := builder.filters.gather Expr.mentions {}
  builder.returning.gather Expr.mentions set

/-- The target and what USING declares. -/
def declared (builder : Builder) : RelationSet :=
  builder.tables.gather FromItem.declares (RelationSet.insert {} builder.target)

/-- The relations that are mentioned but not declared. -/
def inferred (builder : Builder) : List Relation :=
  builder.referenced.difference builder.declared

def write (builder : Builder) : Writer := do
  let missing := if (← get).options.inferring then builder.inferred else []
  Writer.within .reference do
    Writer.clause "DELETE FROM" builder.target.declare
    builder.tables.writeTables "USING" missing
    builder.filters.writeFilters "WHERE"
    builder.returning.writeReturning

/-- The statement that is built. -/
def statement (builder : Builder) : Delete where
  target := builder.target
  tables := builder.tables.entries
  filters := builder.filters.entries
  returning := builder.returning.entries

end Delete.Builder

-- ---------------------------------------------------------------------------
-- Statements of any kind
-- ---------------------------------------------------------------------------

/-- A statement while it is built. -/
inductive Builder where
  | select (builder : Select.Builder)
  | insert (insert : Insert)
  | update (builder : Update.Builder)
  | delete (builder : Delete.Builder)

namespace Builder

/-- The statement that is built. -/
def statement : Builder → Statement
  | select builder => .select builder.query
  | insert built => .insert built
  | update builder => .update builder.statement
  | delete builder => .delete builder.statement

def kind : Builder → StatementKind
  | select _ => .select
  | insert _ => .insert
  | update _ => .update
  | delete _ => .delete

def write : Builder → Writer
  | select builder => builder.write
  | insert built => built.write
  | update builder => builder.write
  | delete builder => builder.write

/-- Renders a statement and tells how. -/
def report (builder : Builder) (options : Options) : Report :=
  builder.write.report builder.kind options

def render (builder : Builder) (options : Options) : Except Error Rendering :=
  (builder.report options).outcome

/-- The text of a statement. -/
def toSql (builder : Builder) (options : Options) : Except Error String :=
  (builder.render options).map Rendering.sql

end Builder

end QueryText

import QueryText.Statement.Assignments

/-!
# QueryText — INSERT

Adds rows to a target table. The rows come from exactly one origin: VALUES, a query or the
column defaults. A step that does not fit leaves the rows as they are; the first such step is
kept as the statement's misuse, and rendering reports it.
-/

namespace QueryText

/-- Where the rows of an INSERT come from. -/
inductive Rows where
  | values (rows : List (List Expr))
  | query (query : Select)
  | defaults

/-- The kind of origin. -/
def Rows.origin : Rows → RowOrigin
  | values _ => .values
  | query _ => .query
  | defaults => .defaults

/-- What an upsert does to the row that is there already. -/
structure Upsert where
  assignments : Assignments := {}
  filters : List Expr := []

namespace Upsert

def set (upsert : Upsert) (column : String) (value : Expr) : Upsert :=
  { upsert with assignments := upsert.assignments.set column value }

/-- Adds a predicate that the row has to satisfy. -/
def withFilter (upsert : Upsert) (predicate : Expr) : Upsert :=
  { upsert with filters := upsert.filters ++ [predicate] }

end Upsert

/-- What to do about a conflict. -/
inductive ConflictAction where
  | nothing
  | update (upsert : Upsert)

/-- An ON CONFLICT clause. -/
structure Conflict where
  targets : List Expr
  action : ConflictAction

structure Insert where
  target : Relation
  columns : List String := []
  rows : Option Rows := none
  conflict : Option Conflict := none
  returning : List Expr := []
  /-- The first step that did not fit. -/
  misuse : Option Misuse := none

namespace Insert

/-! ## Steps -/

/-- Keeps a misuse, if it is the first. -/
def report (insert : Insert) (cause : Misuse) : Insert :=
  { insert with misuse := some (insert.misuse.getD cause) }

/-- An INSERT into a target, with the columns that the rows fill; no columns stands for all of
them. Neither a derived table nor the excluded row can be a target. -/
def into (target : Relation) (columns : List String) : Insert :=
  let insert : Insert := { target, columns }
  match target with
  | .table .. | .aliased .. => insert
  | .derived .. | .excluded => insert.report (.notATable target.name)

/-- Sets where the rows come from, once. -/
def withRows (insert : Insert) (rows : Rows) : Insert :=
  match insert.rows with
  | some present => insert.report (.secondOrigin present.origin rows.origin)
  | none => { insert with rows := some rows }

/-- The length that a row must have: that of the column list, or of the first row if no columns
are listed. -/
def rowLength? (insert : Insert) : Option Nat :=
  if insert.columns.isEmpty then
    match insert.rows with
    | some (.values rows) => rows.head?.map List.length
    | _ => none
  else some insert.columns.length

/-- Adds a row after the earlier ones. -/
def appendRow (insert : Insert) (row : List Expr) : Insert :=
  match insert.rows with
  | some (.values rows) => { insert with rows := some (.values (rows ++ [row])) }
  | _ => insert.withRows (.values [row])

def withRow (insert : Insert) (row : List Expr) : Insert :=
  if row.isEmpty then insert.report .emptyRow
  else
    -- The length is checked before the origin: a row that fits neither has the wrong length.
    match insert.rowLength? with
    | some expected =>
      if row.length = expected then insert.appendRow row
      else insert.report (.rowLength row.length expected)
    | none => insert.appendRow row

def withQuery (insert : Insert) (query : Select) : Insert :=
  insert.withRows (.query query)

/-- Adds one row of column defaults. -/
def withDefaults (insert : Insert) : Insert :=
  insert.withRows .defaults

/-- Leaves the existing row alone when a new one conflicts with it. -/
def onConflictDoNothing (insert : Insert) (targets : List Expr) : Insert :=
  { insert with conflict := some ⟨targets, .nothing⟩ }

/-- Changes the existing row when a new one conflicts with it. The clause needs a target and an
assignment. -/
def onConflictDoUpdate (insert : Insert) (targets : List Expr) (upsert : Upsert) : Insert :=
  let insert :=
    if upsert.assignments.isEmpty then insert.report .conflictWithoutAssignment else insert
  let insert := if targets.isEmpty then insert.report .conflictWithoutTarget else insert
  { insert with conflict := some ⟨targets, .update upsert⟩ }

def withReturning (insert : Insert) (items : List Expr) : Insert :=
  { insert with returning := insert.returning ++ items }

/-! ## Text -/

/-- Writes the target, with `AS` before the name of an alias. -/
def writeTarget : Relation → Writer
  | .aliased relation name => do
    relation.declare
    Writer.text " AS "
    Writer.name name
  | relation => relation.declare

def writeColumns (columns : List String) : Writer := do
  unless columns.isEmpty do
    Writer.parenthesized (Writer.separated "," (columns.map Writer.name))
    Writer.gap

def writeRow (row : List Expr) : Writer :=
  Writer.parenthesized (Writer.separated ", " (row.map Expr.write))

/-- Writes where the rows come from. -/
def writeRows : Option Rows → Writer
  | some (.values rows) => Writer.clause "VALUES" (Writer.separated ", " (rows.map writeRow))
  | some (.query query) => query.write
  | some .defaults => Writer.keywordClause "DEFAULT VALUES"
  | none => throw (.misuse .insertWithoutRows)

/-- Writes the targets of a conflict clause: a column there has no qualifier. -/
def writeTargets (targets : List Expr) : Writer := do
  unless targets.isEmpty do
    Writer.parenthesized (Writer.within .bare (Writer.separated "," (targets.map Expr.write)))
    Writer.gap

/-- Writes what to do about a conflict. -/
def writeAction : ConflictAction → Writer
  | .nothing => Writer.keywordClause "DO NOTHING"
  | .update upsert => do
    Writer.text "DO UPDATE "
    upsert.assignments.write
    Writer.conditionClause "WHERE" (upsert.filters.map Expr.write)

/-- Writes the conflict clause, if there is one. -/
def writeConflict : Option Conflict → Writer
  | none => Writer.nothing
  | some conflict => do
    Writer.text "ON CONFLICT "
    writeTargets conflict.targets
    writeAction conflict.action

/-- Writes the statement, unless a step did not fit. -/
def write (insert : Insert) : Writer := do
  if let some cause := insert.misuse then throw (.misuse cause)
  Writer.clause "INSERT INTO" (writeTarget insert.target)
  writeColumns insert.columns
  writeRows insert.rows
  writeConflict insert.conflict
  Writer.itemClause "RETURNING" (insert.returning.map Expr.write)

end Insert

end QueryText

import QueryText.Proofs.Layout.Tree

/-!
# QueryText — the layouts of statements

A statement is laid out with the space that ends its last clause. A statement that was put
together wrongly has a fault, and its layout goes as far as writing it gets.
-/

namespace QueryText

open Layout (text)

def Assignments.layouts (auto : Bool) (assignments : Assignments) : List Layout :=
  assignments.entries.map fun entry =>
    Layout.name entry.1 ++ text " = " ++ entry.2.layout auto .reference

-- ---------------------------------------------------------------------------
-- UPDATE and DELETE
-- ---------------------------------------------------------------------------

/-- The relations that an UPDATE has in its FROM list beyond the listed ones. -/
def Update.completion (update : Update) (infer : Bool) : List Relation :=
  if infer then update.inferred else []

/-- FROM is completed with nothing but what is inferred. -/
theorem Update.completion_subset (update : Update) (infer : Bool) :
    update.completion infer ⊆ update.inferred := by
  cases infer with
  | false => exact List.nil_subset _
  | true => exact List.Subset.refl _

def Update.clauses (auto : Bool) (update : Update) : List Layout :=
  [Layout.clause "UPDATE" (update.target.layout auto)] ++
    Layout.listClause "SET" (update.assignments.layouts auto) ++
    Layout.tableClause "FROM" (update.tables.map (·.layout auto))
      ((update.completion auto).map (Relation.draft auto)) ++
    Layout.conditionClause "WHERE" (update.filters.map (·.layout auto .reference)) ++
    Layout.listClause "RETURNING" (update.returning.map (·.layout auto .declaration))

def Update.layout (auto : Bool) (update : Update) : Layout :=
  if update.assignments.isEmpty then []
  else Layout.inside .change (Layout.closed (update.clauses auto))

/-- The relations that a DELETE has in its USING list beyond the listed ones. -/
def Delete.completion (delete : Delete) (infer : Bool) : List Relation :=
  if infer then delete.inferred else []

/-- USING is completed with nothing but what is inferred. -/
theorem Delete.completion_subset (delete : Delete) (infer : Bool) :
    delete.completion infer ⊆ delete.inferred := by
  cases infer with
  | false => exact List.nil_subset _
  | true => exact List.Subset.refl _

def Delete.clauses (auto : Bool) (delete : Delete) : List Layout :=
  [Layout.clause "DELETE FROM" (delete.target.layout auto)] ++
    Layout.tableClause "USING" (delete.tables.map (·.layout auto))
      ((delete.completion auto).map (Relation.draft auto)) ++
    Layout.conditionClause "WHERE" (delete.filters.map (·.layout auto .reference)) ++
    Layout.listClause "RETURNING" (delete.returning.map (·.layout auto .declaration))

def Delete.layout (auto : Bool) (delete : Delete) : Layout :=
  Layout.inside .change (Layout.closed (delete.clauses auto))

-- ---------------------------------------------------------------------------
-- INSERT
-- ---------------------------------------------------------------------------

namespace Insert

def targetLayout (auto : Bool) : Relation → Layout
  | .aliased relation name =>
    (relation.layout auto).anonymized ++ text " AS " ++ Layout.declaration name
  | relation => relation.layout auto

def columnsClause (columns : List String) : List Layout :=
  if columns.isEmpty then []
  else [Layout.parenthesized (Layout.separated "," (columns.map Layout.name))]

def rowLayout (auto : Bool) (row : List Expr) : Layout :=
  Layout.parenthesized (Layout.separated ", " (row.map (·.layout auto .reference)))

def rowsLayout (auto : Bool) : Rows → Layout
  | .values rows => Layout.clause "VALUES" (Layout.separated ", " (rows.map (rowLayout auto)))
  | .query query => Layout.inside (.query query) (query.layout auto auto)
  | .defaults => text "DEFAULT VALUES"

def targetsClause (auto : Bool) (targets : List Expr) : List Layout :=
  if targets.isEmpty then []
  else [Layout.parenthesized (Layout.separated "," (targets.map (·.layout auto .bare)))]

def actionLayout (auto : Bool) : ConflictAction → Layout
  | .nothing => Layout.closed [text "DO NOTHING"]
  | .update upsert =>
    text "DO UPDATE " ++
      Layout.closed (Layout.listClause "SET" (upsert.assignments.layouts auto) ++
        Layout.conditionClause "WHERE" (upsert.filters.map (·.layout auto .reference)))

def conflictLayout (auto : Bool) : Option Conflict → Layout
  | none => []
  | some conflict =>
    text "ON CONFLICT " ++ Layout.closed (targetsClause auto conflict.targets) ++
      actionLayout auto conflict.action

/-- The clauses before the rows. -/
def head (auto : Bool) (insert : Insert) : List Layout :=
  [Layout.clause "INSERT INTO" (targetLayout auto insert.target)] ++ columnsClause insert.columns

/-- The rows and the clauses after them. -/
def tail (auto : Bool) (insert : Insert) (rows : Rows) : Layout :=
  Layout.closed [rowsLayout auto rows] ++ conflictLayout auto insert.conflict ++
    Layout.closed (Layout.listClause "RETURNING"
      (insert.returning.map (·.layout auto .declaration)))

def layout (auto : Bool) (insert : Insert) : Layout :=
  match insert.misuse, insert.rows with
  | some _, _ => []
  | none, none => Layout.closed (insert.head auto)
  | none, some rows => Layout.closed (insert.head auto) ++ insert.tail auto rows

/-- What keeps an INSERT from being written. -/
def fault (insert : Insert) : Option Misuse :=
  match insert.misuse, insert.rows with
  | some cause, _ => some cause
  | none, none => some .insertWithoutRows
  | none, some _ => none

/-- An INSERT can be written to its end exactly if no step failed to fit and it has rows. -/
theorem fault_eq_none_iff (insert : Insert) :
    insert.fault = none ↔ insert.misuse = none ∧ insert.rows.isSome := by
  unfold fault
  cases insert.misuse <;> cases insert.rows <;> simp

end Insert

-- ---------------------------------------------------------------------------
-- Statements
-- ---------------------------------------------------------------------------

/-- The layout of a statement, as far as it can be written. -/
def Statement.layout (auto : Bool) : Statement → Layout
  | .select query => Layout.inside (.query query) (query.layout auto auto) ++ Layout.gap
  | .insert statement => statement.layout auto
  | .update statement => statement.layout auto
  | .delete statement => statement.layout auto

/-- What keeps a statement from being written. -/
def Statement.fault : Statement → Option Misuse
  | .insert statement => statement.fault
  | .update statement =>
    if statement.assignments.isEmpty then some .updateWithoutAssignment else none
  | .select _ | .delete _ => none

end QueryText

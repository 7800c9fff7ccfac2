import QueryText.Proofs.Explicit

/-!
# QueryText — revising the expressions of a statement

An expression stands in a clause under a naming of its own: the items of a SELECT or RETURNING list
under declaration naming, the targets of a conflict under bare naming, all others under reference
naming. Here the expressions of a statement are replaced, each by one for its place. If no
replacement can be told from the original where it stands, neither in its text nor by the
relations that it mentions, then the whole statement is written as before.

## Main results

* `Expr.Unnoticed.layout_select` — a query whose expressions were replaced is written as before.
* `Expr.Unnoticed.render_statement` — and so is a statement.
-/

namespace QueryText

-- ---------------------------------------------------------------------------
-- Replacing expressions
-- ---------------------------------------------------------------------------

/-- A replacement for every expression under every naming. -/
abbrev Expr.Revision := Naming → Expr → Expr

variable (revise : Expr.Revision)

/-- An entry of a list of tables with its `ON` predicates revised. -/
def FromItem.revised : FromItem → FromItem
  | .relation r => .relation r
  | .join kind left right predicate =>
    .join kind left.revised right.revised (predicate.map (revise .reference))

def SortKey.revised (key : SortKey) : SortKey :=
  ⟨revise .reference key.expr, key.direction⟩

/-- A query with the expressions of its clauses revised. The queries inside of them are not looked
into. -/
def Select.revised (query : Select) : Select where
  items := query.items.map (revise .declaration)
  tables := query.tables.map (FromItem.revised revise)
  filters := query.filters.map (revise .reference)
  groups := query.groups.map (revise .reference)
  groupFilters := query.groupFilters.map (revise .reference)
  order := query.order.map (SortKey.revised revise)
  limit := query.limit
  offset := query.offset

def Assignments.revised (assignments : Assignments) : Assignments :=
  ⟨assignments.entries.map fun entry => (entry.1, revise .reference entry.2)⟩

def Update.revised (update : Update) : Update where
  target := update.target
  assignments := update.assignments.revised revise
  tables := update.tables.map (FromItem.revised revise)
  filters := update.filters.map (revise .reference)
  returning := update.returning.map (revise .declaration)

def Delete.revised (delete : Delete) : Delete where
  target := delete.target
  tables := delete.tables.map (FromItem.revised revise)
  filters := delete.filters.map (revise .reference)
  returning := delete.returning.map (revise .declaration)

def Rows.revised : Rows → Rows
  | .values rows => .values (rows.map (·.map (revise .reference)))
  | .query q => .query (q.revised revise)
  | .defaults => .defaults

def ConflictAction.revised : ConflictAction → ConflictAction
  | .nothing => .nothing
  | .update upsert =>
    .update ⟨upsert.assignments.revised revise, upsert.filters.map (revise .reference)⟩

def Conflict.revised (conflict : Conflict) : Conflict :=
  ⟨conflict.targets.map (revise .bare), conflict.action.revised revise⟩

def Insert.revised (insert : Insert) : Insert where
  target := insert.target
  columns := insert.columns
  rows := insert.rows.map (Rows.revised revise)
  conflict := insert.conflict.map (Conflict.revised revise)
  returning := insert.returning.map (revise .declaration)
  misuse := insert.misuse

/-- A statement with the expressions of its clauses revised, each for the naming of its place. -/
def Statement.revised : Statement → Statement
  | .select statement => .select (statement.revised revise)
  | .insert statement => .insert (statement.revised revise)
  | .update statement => .update (statement.revised revise)
  | .delete statement => .delete (statement.revised revise)

-- ---------------------------------------------------------------------------
-- Replacements that nothing shows
-- ---------------------------------------------------------------------------

/-- A revision that shows neither in the text of an expression, where it stands, nor in the
relations that it mentions. -/
structure Expr.Unnoticed (revise : Expr.Revision) : Prop where
  layout : ∀ auto naming e, (revise naming e).layout auto naming = e.layout auto naming
  mentions : ∀ naming e, (revise naming e).mentions = e.mentions
  /-- Parentheses are put around the same operands. -/
  isCompound : ∀ naming e, (revise naming e).isCompound = e.isCompound

/-- A revised entry declares the same relations: only its predicates are revised. -/
theorem FromItem.declares_revised (f : FromItem) : (f.revised revise).declares = f.declares := by
  match f with
  | .relation r => rfl
  | .join kind left right predicate =>
    rw [revised, declares, declares, declares_revised left, declares_revised right]

theorem FromItem.isJoin_revised (f : FromItem) : (f.revised revise).isJoin = f.isJoin := by
  cases f <;> rfl

/-- The predicates of joins declare nothing. -/
theorem FromItem.flatMap_declares_revised (tables : List FromItem) :
    (tables.map (FromItem.revised revise)).flatMap FromItem.declares =
      tables.flatMap FromItem.declares := by
  rw [List.flatMap_map]
  exact List.flatMap_congr fun f _ => f.declares_revised revise

theorem Assignments.isEmpty_revised (assignments : Assignments) :
    (assignments.revised revise).isEmpty = assignments.isEmpty := by
  rw [isEmpty, revised, List.isEmpty_map]
  rfl

/-- What keeps a statement from being written is no matter of its expressions. -/
theorem Statement.fault_revised (statement : Statement) :
    (statement.revised revise).fault = statement.fault := by
  cases statement with
  | select query => rfl
  | insert insert =>
    have hMisuse : (insert.revised revise).misuse = insert.misuse := rfl
    have hRows : (insert.revised revise).rows = insert.rows.map (Rows.revised revise) := rfl
    show (insert.revised revise).fault = insert.fault
    rw [Insert.fault, Insert.fault, hMisuse, hRows]
    cases insert.misuse with
    | some cause => rfl
    | none => cases insert.rows <;> rfl
  | update update =>
    have hEmpty := update.assignments.isEmpty_revised revise
    show (if (update.assignments.revised revise).isEmpty then _ else _) = _
    rw [hEmpty]
    rfl
  | delete delete => rfl

namespace Expr.Unnoticed

variable {revise : Expr.Revision} {auto : Bool}

-- ---------------------------------------------------------------------------
-- Lists of expressions and tables
-- ---------------------------------------------------------------------------

/-- A revision that goes unnoticed does so in every list of expressions. -/
theorem map_layout (h : Unnoticed revise) (naming : Naming) (exprs : List Expr) :
    (exprs.map (revise naming)).map (·.layout auto naming) = exprs.map (·.layout auto naming) := by
  rw [List.map_map]
  exact List.map_congr_left fun e _ => h.layout auto naming e

/-- A revision that goes unnoticed leaves the relations that a list mentions. -/
theorem mentionsAll (h : Unnoticed revise) (naming : Naming) (exprs : List Expr) :
    Expr.mentionsAll (exprs.map (revise naming)) = Expr.mentionsAll exprs := by
  rw [Expr.mentionsAll_eq_flatMap, Expr.mentionsAll_eq_flatMap, List.flatMap_map]
  exact List.flatMap_congr fun e _ => h.mentions naming e

theorem map_layout_keys (h : Unnoticed revise) (keys : List SortKey) :
    (keys.map (SortKey.revised revise)).map (·.layout auto) = keys.map (·.layout auto) := by
  rw [List.map_map]
  refine List.map_congr_left ?_
  rintro ⟨expr, direction⟩ _
  simp only [Function.comp_apply, SortKey.revised, SortKey.layout, h.layout, h.isCompound]

theorem mentionsAll_keys (h : Unnoticed revise) (keys : List SortKey) :
    SortKey.mentionsAll (keys.map (SortKey.revised revise)) = SortKey.mentionsAll keys := by
  rw [SortKey.mentionsAll_eq_flatMap_expr, SortKey.mentionsAll_eq_flatMap_expr, List.flatMap_map]
  exact List.flatMap_congr fun key _ => h.mentions .reference key.expr

/-- A revision that goes unnoticed is not seen in an entry of a list of tables. -/
theorem layout_fromItem (h : Unnoticed revise) (f : FromItem) :
    (f.revised revise).layout auto = f.layout auto := by
  match f with
  | .relation r => rfl
  | .join kind left right predicate =>
    have hLeft := h.layout_fromItem left
    have hRight := h.layout_fromItem right
    cases predicate with
    | none =>
      simp only [FromItem.revised, FromItem.layout, hLeft, hRight, FromItem.isJoin_revised,
        Option.map_none]
    | some predicate =>
      simp only [FromItem.revised, FromItem.layout, hLeft, hRight, FromItem.isJoin_revised,
        Option.map_some, h.layout]

theorem map_layout_tables (h : Unnoticed revise) (tables : List FromItem) :
    (tables.map (FromItem.revised revise)).map (·.layout auto) = tables.map (·.layout auto) := by
  rw [List.map_map]
  exact List.map_congr_left fun f _ => h.layout_fromItem f

-- ---------------------------------------------------------------------------
-- SELECT
-- ---------------------------------------------------------------------------

/-- A revised query infers the same relations. -/
theorem inferred_select (h : Unnoticed revise) (query : Select) :
    (query.revised revise).inferred = query.inferred := by
  have hMentions : (query.revised revise).mentions = query.mentions := by
    simp only [Select.mentions, Select.revised, h.mentionsAll, h.mentionsAll_keys]
  have hDeclared : (query.revised revise).declared = query.declared := by
    simp only [Select.declared, declaredBy, Select.revised, FromItem.flatMap_declares_revised]
  rw [Select.inferred_eq, Select.inferred_eq, Select.referenced, Select.referenced, hMentions,
    hDeclared]

/-- A query is written as before: its clauses are, and it infers the same relations. -/
theorem layout_select (h : Unnoticed revise) (query : Select) (infer : Bool) :
    (query.revised revise).layout auto infer = query.layout auto infer := by
  have hCompletion : (query.revised revise).completion infer = query.completion infer := by
    rw [Select.completion, Select.completion, h.inferred_select]
  rw [Select.layout_eq, Select.layout_eq, Select.clauses, Select.clauses, hCompletion]
  simp only [Select.revised, h.map_layout, h.map_layout_tables, h.map_layout_keys]

-- ---------------------------------------------------------------------------
-- UPDATE and DELETE
-- ---------------------------------------------------------------------------

/-- A revision goes unnoticed in the values of assignments. -/
theorem layouts_assignments (h : Unnoticed revise) (assignments : Assignments) :
    (assignments.revised revise).layouts auto = assignments.layouts auto := by
  rw [Assignments.layouts, Assignments.layouts, Assignments.revised, List.map_map]
  refine List.map_congr_left fun entry _ => ?_
  rw [Function.comp_apply, h.layout]

theorem mentionsAll_values (h : Unnoticed revise) (assignments : Assignments) :
    Expr.mentionsAll (assignments.revised revise).values =
      Expr.mentionsAll assignments.values := by
  have hValues : (assignments.revised revise).values =
      assignments.values.map (revise .reference) := by
    simp only [Assignments.values, Assignments.revised, List.map_map, Function.comp_def]
  rw [hValues, h.mentionsAll]

/-- The FROM list of a revised UPDATE is completed by the same relations. -/
theorem completion_update (h : Unnoticed revise) (update : Update) (infer : Bool) :
    (update.revised revise).completion infer = update.completion infer := by
  have hInferred : (update.revised revise).inferred = update.inferred := by
    simp only [Update.inferred, Update.referenced, Update.declared, Update.mentions,
      Update.revised, h.mentionsAll_values, h.mentionsAll, FromItem.flatMap_declares_revised]
  rw [Update.completion, Update.completion, hInferred]

/-- A revised UPDATE is laid out alike. -/
theorem layout_update (h : Unnoticed revise) (update : Update) :
    (update.revised revise).layout auto = update.layout auto := by
  have hEmpty : (update.revised revise).assignments.isEmpty = update.assignments.isEmpty :=
    update.assignments.isEmpty_revised revise
  have hClauses : (update.revised revise).clauses auto = update.clauses auto := by
    rw [Update.clauses, Update.clauses, h.completion_update]
    simp only [Update.revised, h.layouts_assignments, h.map_layout, h.map_layout_tables]
  rw [Update.layout, Update.layout, hEmpty, hClauses]

/-- A revised DELETE is laid out alike. -/
theorem layout_delete (h : Unnoticed revise) (delete : Delete) :
    (delete.revised revise).layout auto = delete.layout auto := by
  have hInferred : (delete.revised revise).inferred = delete.inferred := by
    simp only [Delete.inferred, Delete.referenced, Delete.declared, Delete.mentions,
      Delete.revised, h.mentionsAll, FromItem.flatMap_declares_revised]
  rw [Delete.layout, Delete.layout, Delete.clauses, Delete.clauses, Delete.completion,
    Delete.completion, hInferred]
  simp only [Delete.revised, h.map_layout, h.map_layout_tables]

-- ---------------------------------------------------------------------------
-- INSERT
-- ---------------------------------------------------------------------------

/-- The rows have the same script. Their layouts may differ in the query that stands around its
pieces. -/
theorem script_rows (h : Unnoticed revise) (rows : Rows) :
    (Insert.rowsLayout auto (rows.revised revise)).script =
      (Insert.rowsLayout auto rows).script := by
  cases rows with
  | values rows =>
    have hRow : ∀ row : List Expr,
        Insert.rowLayout auto (row.map (revise .reference)) = Insert.rowLayout auto row := by
      intro row
      rw [Insert.rowLayout, Insert.rowLayout, h.map_layout]
    simp only [Rows.revised, Insert.rowsLayout, List.map_map, Function.comp_def, hRow]
  | query query =>
    simp only [Rows.revised, Insert.rowsLayout, Layout.script_inside, h.layout_select]
  | defaults => rfl

/-- A revised conflict clause is laid out alike. -/
theorem layout_conflict (h : Unnoticed revise) (conflict : Option Conflict) :
    Insert.conflictLayout auto (conflict.map (Conflict.revised revise)) =
      Insert.conflictLayout auto conflict := by
  cases conflict with
  | none => rfl
  | some conflict =>
    have hTargets : Insert.targetsClause auto (conflict.targets.map (revise .bare)) =
        Insert.targetsClause auto conflict.targets := by
      rw [Insert.targetsClause, Insert.targetsClause, List.isEmpty_map, h.map_layout]
    have hAction : Insert.actionLayout auto (conflict.action.revised revise) =
        Insert.actionLayout auto conflict.action := by
      cases conflict.action with
      | nothing => rfl
      | update upsert =>
        simp only [ConflictAction.revised, Insert.actionLayout, h.layouts_assignments,
          h.map_layout]
    simp only [Option.map_some, Insert.conflictLayout, Conflict.revised, hTargets, hAction]

/-- The rows of a revised INSERT and what follows them are written alike; only the frame of a query
tells the two apart. -/
theorem script_tail (h : Unnoticed revise) (insert : Insert) (rows : Rows) :
    ((insert.revised revise).tail auto (rows.revised revise)).script =
      (insert.tail auto rows).script := by
  simp only [Insert.tail, Layout.script_append, Layout.script_closed, List.map_cons,
    List.map_nil, h.script_rows]
  simp only [Insert.revised, h.layout_conflict, h.map_layout]

/-- A revised INSERT is written alike. -/
theorem script_insert (h : Unnoticed revise) (insert : Insert) :
    ((insert.revised revise).layout auto).script = (insert.layout auto).script := by
  have hHead : (insert.revised revise).head auto = insert.head auto := rfl
  have hMisuse : (insert.revised revise).misuse = insert.misuse := rfl
  have hRows : (insert.revised revise).rows = insert.rows.map (Rows.revised revise) := rfl
  rw [Insert.layout, Insert.layout, hHead, hMisuse, hRows]
  cases insert.misuse with
  | some cause => rfl
  | none =>
    cases insert.rows with
    | none => rfl
    | some rows =>
      rw [Option.map_some, Layout.script_append, Layout.script_append, h.script_tail]

-- ---------------------------------------------------------------------------
-- Statements
-- ---------------------------------------------------------------------------

/-- Every revised statement is written alike. -/
theorem script_statement (h : Unnoticed revise) (statement : Statement) :
    ((statement.revised revise).layout auto).script = (statement.layout auto).script := by
  cases statement with
  | select query =>
    simp only [Statement.revised, Statement.layout, Layout.script_append, Layout.script_inside,
      h.layout_select]
  | insert insert => exact h.script_insert insert
  | update update => exact congrArg Layout.script (h.layout_update update)
  | delete delete => exact congrArg Layout.script (h.layout_delete delete)

/-- A statement renders as before: to the same text, with the same arguments, or to the same
error. -/
theorem render_statement (h : Unnoticed revise) (statement : Statement) (options : Options) :
    (statement.revised revise).render options = statement.render options := by
  rw [Statement.render_eq_outcome, Statement.render_eq_outcome, Statement.fault_revised]
  exact Layout.outcome_congr (h.script_statement statement) _ _

end Expr.Unnoticed

end QueryText

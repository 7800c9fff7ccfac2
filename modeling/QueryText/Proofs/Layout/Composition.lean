import QueryText.Proofs.Layout.Statement

/-!
# QueryText — properties of layouts

Most of what there is to say about a layout says something about each of its pieces, and is kept
when layouts are put one after the other. Such a property only has to be shown for single pieces
and for what a frame does to it: every phrase passes it on from its parts.

## Main results

* `Layout.Composes.tuple`, ..., `Layout.Composes.tableClause` — one statement for each phrase.
* `Layout.Frames.treeCases` — a property of all trees, from its leaves and frames.
* `Layout.Frames.statement` — a property of all statements.
-/

namespace QueryText

namespace Layout

/-- A property of layouts that holds of plain text and is kept when layouts are put one after the
other. -/
structure Composes (P : Layout → Prop) : Prop where
  nil : P []
  text : ∀ s, P (Layout.text s)
  name : ∀ s, P (Layout.name s)
  gap : P Layout.gap
  append : ∀ l m, P l → P m → P (l ++ m)

namespace Composes

variable {P : Layout → Prop} {l m : Layout} {ls : List Layout}

-- ---------------------------------------------------------------------------
-- Sequences
-- ---------------------------------------------------------------------------

/-- A list of layouts has the property if all of them and the separator have it. -/
theorem intercalate (h : Composes P) (hSeparator : P m) (hAll : ∀ l ∈ ls, P l) :
    P (m.intercalate ls) := by
  induction ls with
  | nil => exact h.nil
  | cons first rest ih =>
    have hFirst := hAll first (List.mem_cons_self ..)
    have hRest := ih fun l hl => hAll l (List.mem_cons_of_mem _ hl)
    cases rest with
    | nil =>
      rw [List.intercalate_singleton]
      exact hFirst
    | cons next rest =>
      rw [List.intercalate_cons_cons]
      exact h.append _ _ (h.append _ _ hFirst hSeparator) hRest

/-- A text as separator has the property anyway. -/
theorem separated (h : Composes P) (hAll : ∀ l ∈ ls, P l) (separator : String) :
    P (Layout.separated separator ls) :=
  h.intercalate (h.text separator) hAll

theorem parenthesized (h : Composes P) (hl : P l) : P (Layout.parenthesized l) :=
  h.append _ _ (h.append _ _ (h.text "(") hl) (h.text ")")

-- ---------------------------------------------------------------------------
-- Expressions
-- ---------------------------------------------------------------------------

/-- A column has the property if its relation has it as a qualifier. -/
theorem column (h : Composes P) (naming : Naming) {relation : String}
    (hQualifier : P (qualifier relation)) (column : String) :
    P (Layout.column naming relation column) := by
  unfold Layout.column
  split
  · exact h.name column
  · exact h.append _ _ (h.append _ _ hQualifier (h.text ".")) (h.name column)

theorem allOf (h : Composes P) (naming : Naming) {relation : String}
    (hQualifier : P (qualifier relation)) : P (Layout.allOf naming relation) := by
  unfold Layout.allOf
  split
  · exact h.text "*"
  · exact h.append _ _ hQualifier (h.text ".*")

/-- A named expression has the property if the expression has it, be it shown or not. -/
theorem named (h : Composes P) (naming : Naming) (hl : P l) (name : String) :
    P (Layout.named naming l name) := by
  unfold Layout.named
  split
  · exact h.append _ _ (h.append _ _ hl (h.text " ")) (h.name name)
  · exact h.name name

theorem tuple (h : Composes P) (hAll : ∀ l ∈ ls, P l) : P (Layout.tuple ls) :=
  h.parenthesized (h.separated hAll ", ")

theorem call (h : Composes P) (function : String) (hAll : ∀ l ∈ ls, P l) :
    P (Layout.call function ls) :=
  h.append _ _ (h.text function) (h.tuple hAll)

/-- An operand has the property with parentheses and without. -/
theorem operand (h : Composes P) (compound : Bool) (hl : P l) :
    P (Layout.operand compound l) := by
  unfold Layout.operand
  split
  · exact h.parenthesized hl
  · exact hl

/-- An optional space. -/
theorem space (h : Composes P) (c : Prop) [Decidable c] :
    P (if c then Layout.text " " else []) := by
  split
  · exact h.text " "
  · exact h.nil

/-- A prefix or postfix operator keeps the property, with a space and without. -/
theorem unary (h : Composes P) (op : UnaryOp) (touching : Bool) (hl : P l) :
    P (Layout.unary op touching l) := by
  unfold Layout.unary
  split
  · exact h.append _ _ (h.append _ _ (h.text _) (h.space _)) hl
  · exact h.append _ _ (h.append _ _ hl (h.space _)) (h.text _)

/-- A binary operator keeps the property of its two sides. -/
theorem binary (h : Composes P) (op : BinaryOp) (hl : P l) (hm : P m) :
    P (Layout.binary op l m) :=
  h.append _ _ (h.append _ _ hl (h.text _)) hm

/-- A connective keeps the property of its operands. -/
theorem connected (h : Composes P) (op : LogicalOp) (hAll : ∀ l ∈ ls, P l) :
    P (Layout.connected op ls) := by
  refine h.separated ?_ _
  intro l hl
  obtain ⟨inner, hInner, rfl⟩ := List.mem_map.mp hl
  exact h.parenthesized (hAll inner hInner)

/-- Filled holes have the property if everything does that could fill them. -/
theorem filled (h : Composes P) (first : List Char) (pieces : List (List Char))
    (hAll : ∀ l ∈ ls, P l) : P (Layout.filled first pieces ls) := by
  induction pieces generalizing first ls with
  | nil => exact h.text _
  | cons piece pieces ih =>
    cases ls with
    | nil => exact h.append _ _ (h.append _ _ (h.text _) (h.text "?")) (ih piece hAll)
    | cons l ls =>
      have hFirst := hAll l (List.mem_cons_self ..)
      have hRest := ih piece fun m hm => hAll m (List.mem_cons_of_mem _ hm)
      exact h.append _ _ (h.append _ _ (h.text _) hFirst) hRest

theorem raw (h : Composes P) (sql : String) (hAll : ∀ l ∈ ls, P l) : P (Layout.raw sql ls) :=
  h.filled _ _ hAll

-- ---------------------------------------------------------------------------
-- Queries inside queries, and joins
-- ---------------------------------------------------------------------------

/-- A sub-query has the property if its query has it in the frame of a sub-query. -/
theorem subquery (h : Composes P) (op : SubqueryOp) (query : Select)
    (hl : P (inside (.subquery query) l)) : P (Layout.subquery op query l) :=
  h.append _ _ (h.append _ _ (h.text _) hl) (h.text ")")

/-- A derived table has the property if its query has it in the frame of a query, and its name as a
declaration. -/
theorem derived (h : Composes P) (query : Select) (hl : P (inside (.query query) l))
    {name : String} (hName : P (declaration name)) : P (Layout.derived query l name) :=
  h.append _ _ (h.append _ _ (h.append _ _ (h.text "(") hl) (h.text ") ")) hName

/-- The predicate of a join has the property if it has it in the frame of a predicate. -/
theorem onPredicate (h : Composes P) {predicate : Option Layout}
    (hAll : ∀ l ∈ predicate, P (inside .predicate (Layout.parenthesized l))) :
    P (Layout.onPredicate predicate) := by
  cases predicate with
  | none => exact h.nil
  | some l => exact h.append _ _ (h.text " ON ") (hAll l rfl)

/-- A join has the property if its sides and its predicate have it. -/
theorem join (h : Composes P) (kind : JoinKind) (hl : P l) (grouped : Bool) (hm : P m)
    {predicate : Option Layout}
    (hAll : ∀ l ∈ predicate, P (inside .predicate (Layout.parenthesized l))) :
    P (Layout.join kind l grouped m predicate) :=
  h.append _ _ (h.append _ _ (h.append _ _ hl (h.text _)) (h.operand grouped hm))
    (h.onPredicate hAll)

-- ---------------------------------------------------------------------------
-- Clauses
-- ---------------------------------------------------------------------------

theorem clause (h : Composes P) (keyword : String) (hl : P l) : P (Layout.clause keyword l) :=
  h.append _ _ (h.text _) hl

/-- A clause of a list has the property, if it is there at all, if the items have it. -/
theorem listClause (h : Composes P) (keyword : String) (hAll : ∀ l ∈ ls, P l) :
    ∀ l ∈ Layout.listClause keyword ls, P l := by
  unfold Layout.listClause
  split
  · exact fun l hl => absurd hl List.not_mem_nil
  · exact List.forall_mem_singleton.mpr (h.clause keyword (h.separated hAll ", "))

/-- A condition has the property if its predicates have it, be it one or more. -/
theorem condition (h : Composes P) (hAll : ∀ l ∈ ls, P l) : P (Layout.condition ls) := by
  unfold Layout.condition
  split
  · exact hAll _ (List.mem_cons_self ..)
  · exact h.connected _ hAll

/-- A clause of predicates has the property if they have it. -/
theorem conditionClause (h : Composes P) (keyword : String) (hAll : ∀ l ∈ ls, P l) :
    ∀ l ∈ Layout.conditionClause keyword ls, P l := by
  unfold Layout.conditionClause
  split
  · exact fun l hl => absurd hl List.not_mem_nil
  · exact List.forall_mem_singleton.mpr (h.clause keyword (h.condition hAll))

/-- The SELECT clause has the property if its items have it. -/
theorem selectClause (h : Composes P) (hAll : ∀ l ∈ ls, P l) : P (Layout.selectClause ls) := by
  unfold Layout.selectClause
  split
  · exact h.text "SELECT"
  · exact h.clause "SELECT" (h.separated hAll ", ")

/-- A limit or an offset has the property. -/
theorem countClause (h : Composes P) (keyword : String) (count : Option Nat) :
    ∀ l ∈ Layout.countClause keyword count, P l := by
  cases count with
  | none => exact fun l hl => absurd hl List.not_mem_nil
  | some count => exact List.forall_mem_singleton.mpr (h.clause keyword (h.text _))

/-- A list of tables has the property if the listed ones, the inferred ones and the notes of the
inference have it. -/
theorem tableClause (h : Composes P) (hNote : ∀ note, P (Layout.of (.inference note)))
    (keyword : String) (hAll : ∀ l ∈ ls, P l) {missing : List (Entry Layout)}
    (hMissing : ∀ entry ∈ missing, P entry.declare) :
    ∀ l ∈ Layout.tableClause keyword ls missing, P l := by
  refine h.listClause keyword ?_
  intro l hl
  rcases List.mem_append.mp hl with hListed | hAdded
  · exact hAll l hListed
  · obtain ⟨entry, hEntry, rfl⟩ := List.mem_map.mp hAdded
    exact h.append _ _ (hNote _) (hMissing entry hEntry)

/-- Clauses have the property together if each has it alone. -/
theorem spaced (h : Composes P) (hAll : ∀ l ∈ ls, P l) : P (Layout.spaced ls) :=
  h.intercalate h.gap hAll

/-- Clauses with a space after each have the property if each has it alone. -/
theorem closed (h : Composes P) (hAll : ∀ l ∈ ls, P l) : P (Layout.closed ls) := by
  induction ls with
  | nil => exact h.nil
  | cons first rest ih =>
    have hFirst := hAll first (List.mem_cons_self ..)
    have hRest := ih fun l hl => hAll l (List.mem_cons_of_mem _ hl)
    exact h.append _ _ (h.append _ _ hFirst h.gap) hRest

-- ---------------------------------------------------------------------------
-- Trees
-- ---------------------------------------------------------------------------

variable {auto : Bool}

/-- The layouts of a list of expressions have the property if each expression gives it to its own.
-/
theorem layouts {exprs : List Expr} {naming : Naming}
    (hAll : ∀ e ∈ exprs, P (e.layout auto naming)) :
    ∀ l ∈ Expr.layouts auto exprs naming, P l := by
  rw [Expr.layouts_eq_map]
  exact List.forall_mem_map.mpr hAll

/-- A sort key has the property if its expression has it. -/
theorem sortKey (h : Composes P) {key : SortKey} (hExpr : P (key.expr.layout auto .reference)) :
    P (key.layout auto) := by
  obtain ⟨expr, direction⟩ := key
  exact h.append _ _ (h.operand _ hExpr) (h.text _)

/-- The entries of inferred relations have the property if the relations have it. -/
theorem drafts {relations : List Relation} (hAll : ∀ r ∈ relations, P (r.layout auto)) :
    ∀ entry ∈ relations.map (Relation.draft auto), P entry.declare :=
  List.forall_mem_map.mpr hAll

/-- A query has the property if it holds of everything in its clauses and of the relations that
complete FROM. -/
theorem query (h : Composes P) (hNote : ∀ note, P (Layout.of (.inference note)))
    {query : Select} {infer : Bool}
    (hItems : ∀ e ∈ query.items, P (e.layout auto .declaration))
    (hTables : ∀ f ∈ query.tables, P (f.layout auto))
    (hFilters : ∀ e ∈ query.filters, P (e.layout auto .reference))
    (hGroups : ∀ e ∈ query.groups, P (e.layout auto .reference))
    (hGroupFilters : ∀ e ∈ query.groupFilters, P (e.layout auto .reference))
    (hOrder : ∀ k ∈ query.order, P (k.expr.layout auto .reference))
    (hInferred : ∀ r ∈ query.completion infer, P (r.layout auto)) :
    P (query.layout auto infer) := by
  rw [Select.layout_eq]
  apply h.spaced
  simp only [Select.clauses, List.forall_mem_append, List.forall_mem_singleton]
  refine ⟨⟨⟨⟨⟨⟨⟨?_, ?_⟩, ?_⟩, ?_⟩, ?_⟩, ?_⟩, ?_⟩, ?_⟩
  · exact h.selectClause (List.forall_mem_map.mpr hItems)
  · exact h.tableClause hNote "FROM" (List.forall_mem_map.mpr hTables) (drafts hInferred)
  · exact h.conditionClause "WHERE" (List.forall_mem_map.mpr hFilters)
  · exact h.listClause "GROUP BY" (List.forall_mem_map.mpr hGroups)
  · exact h.conditionClause "HAVING" (List.forall_mem_map.mpr hGroupFilters)
  · exact h.listClause "ORDER BY" (List.forall_mem_map.mpr fun k hk => h.sortKey (hOrder k hk))
  · exact h.countClause "LIMIT" query.limit
  · exact h.countClause "OFFSET" query.offset

-- ---------------------------------------------------------------------------
-- Statements
-- ---------------------------------------------------------------------------

/-- Assignments have the property if their values have it. -/
theorem assignments (h : Composes P) {assignments : Assignments}
    (hAll : ∀ e ∈ assignments.values, P (e.layout auto .reference)) :
    ∀ l ∈ assignments.layouts auto, P l := by
  refine List.forall_mem_map.mpr fun entry hEntry => ?_
  have hValue := hAll entry.2 (List.mem_map_of_mem hEntry)
  exact h.append _ _ (h.append _ _ (h.name _) (h.text _)) hValue

/-- A column list has the property. -/
theorem insertColumns (h : Composes P) (columns : List String) :
    ∀ l ∈ Insert.columnsClause columns, P l := by
  unfold Insert.columnsClause
  split
  · exact fun l hl => absurd hl List.not_mem_nil
  · refine List.forall_mem_singleton.mpr (h.parenthesized (h.separated ?_ _))
    exact List.forall_mem_map.mpr fun column _ => h.name column

/-- The clauses of an UPDATE have the property if it holds of everything in them and of the
relations that complete FROM. -/
theorem update (h : Composes P) (hNote : ∀ note, P (Layout.of (.inference note)))
    {update : Update} (hTarget : P (update.target.layout auto))
    (hValues : ∀ e ∈ update.assignments.values, P (e.layout auto .reference))
    (hTables : ∀ f ∈ update.tables, P (f.layout auto))
    (hFilters : ∀ e ∈ update.filters, P (e.layout auto .reference))
    (hReturning : ∀ e ∈ update.returning, P (e.layout auto .declaration))
    (hInferred : ∀ r ∈ update.completion auto, P (r.layout auto)) :
    P (Layout.closed (update.clauses auto)) := by
  apply h.closed
  simp only [Update.clauses, List.forall_mem_append, List.forall_mem_singleton]
  refine ⟨⟨⟨⟨?_, ?_⟩, ?_⟩, ?_⟩, ?_⟩
  · exact h.clause "UPDATE" hTarget
  · exact h.listClause "SET" (h.assignments hValues)
  · exact h.tableClause hNote "FROM" (List.forall_mem_map.mpr hTables) (drafts hInferred)
  · exact h.conditionClause "WHERE" (List.forall_mem_map.mpr hFilters)
  · exact h.listClause "RETURNING" (List.forall_mem_map.mpr hReturning)

/-- The clauses of a DELETE have the property if it holds of everything in them and of the relations
that complete USING. -/
theorem delete (h : Composes P) (hNote : ∀ note, P (Layout.of (.inference note)))
    {delete : Delete} (hTarget : P (delete.target.layout auto))
    (hTables : ∀ f ∈ delete.tables, P (f.layout auto))
    (hFilters : ∀ e ∈ delete.filters, P (e.layout auto .reference))
    (hReturning : ∀ e ∈ delete.returning, P (e.layout auto .declaration))
    (hInferred : ∀ r ∈ delete.completion auto, P (r.layout auto)) :
    P (Layout.closed (delete.clauses auto)) := by
  apply h.closed
  simp only [Delete.clauses, List.forall_mem_append, List.forall_mem_singleton]
  refine ⟨⟨⟨?_, ?_⟩, ?_⟩, ?_⟩
  · exact h.clause "DELETE FROM" hTarget
  · exact h.tableClause hNote "USING" (List.forall_mem_map.mpr hTables) (drafts hInferred)
  · exact h.conditionClause "WHERE" (List.forall_mem_map.mpr hFilters)
  · exact h.listClause "RETURNING" (List.forall_mem_map.mpr hReturning)

end Composes

-- ---------------------------------------------------------------------------
-- Properties that frames pass on
-- ---------------------------------------------------------------------------

/-- A property of layouts that every frame passes on, in a pass that infers or not. -/
structure Frames (auto : Bool) (P : Layout → Prop) : Prop extends Composes P where
  argument : ∀ tag, P (Layout.argument tag)
  declaration : ∀ relation, P (Layout.declaration relation)
  note : ∀ note, P (Layout.of (.inference note))
  qualifier : ∀ relation, P (Layout.qualifier relation)
  anonymized : ∀ l, P l → P l.anonymized
  subquery : ∀ query l, P l → P (inside (.subquery query) l)
  predicate : ∀ l, P l → P (inside .predicate l)
  query : ∀ query : Select, P (query.layout auto auto) →
    P (inside (.query query) (query.layout auto auto))

namespace Frames

variable {auto : Bool} {P : Layout → Prop}

/-- A property that composes and passes through frames holds of the layout of every tree. -/
theorem treeCases (h : Frames auto P) :
    TreeCases (fun r => P (r.layout auto)) (fun e => ∀ naming, P (e.layout auto naming))
      (fun f => P (f.layout auto)) (fun q => ∀ infer, P (q.layout auto infer)) where
  table schema name := by
    cases schema with
    | none => exact h.declaration name
    | some schema =>
      exact h.append _ _ (h.append _ _ (h.name schema) (h.text ".")) (h.declaration name)
  aliased r name hRelation :=
    h.append _ _ (h.append _ _ (h.anonymized _ hRelation) (h.text " ")) (h.declaration name)
  derived q name hQuery := h.toComposes.derived q (h.query q (hQuery auto)) (h.declaration name)
  excluded := h.text _
  column r name _ naming := h.column naming (h.qualifier r.name) name
  star _ := h.text "*"
  allOf r _ naming := h.allOf naming (h.qualifier r.name)
  argument tag _ := h.argument tag
  literal s _ := h.text s
  raw sql operands hAll naming := h.raw sql (Composes.layouts fun e he => hAll e he naming.inner)
  group inner hInner naming := h.parenthesized (hInner naming.inner)
  list items hAll naming := h.tuple (Composes.layouts fun e he => hAll e he naming.inner)
  unary op operand hOperand naming := h.unary op _ (h.operand _ (hOperand naming.inner))
  binary op left right hLeft hRight naming :=
    h.binary op (h.operand _ (hLeft naming.inner)) (h.operand _ (hRight naming.inner))
  logical op operands hAll naming :=
    h.connected op (Composes.layouts fun e he => hAll e he naming.inner)
  call function operands hAll naming :=
    h.call function (Composes.layouts fun e he => hAll e he naming.inner)
  named inner name hInner naming := h.named naming (hInner .reference) name
  subquery op q hQuery _ := h.toComposes.subquery op q (h.subquery q _ (hQuery false))
  listed _ hRelation := hRelation
  join kind left right predicate hLeft hRight hOn := by
    cases predicate with
    | none => exact h.join kind hLeft _ hRight fun l hl => nomatch hl
    | some condition =>
      refine h.join kind hLeft _ hRight ?_
      rintro l ⟨⟩
      exact h.predicate _ (h.parenthesized (hOn condition rfl .reference))
  query q hItems hTables hFilters hGroups hGroupFilters hOrder hInferred infer := by
    refine h.toComposes.query h.note (fun e he => hItems e he _) hTables
      (fun e he => hFilters e he _)
      (fun e he => hGroups e he _) (fun e he => hGroupFilters e he _)
      (fun k hk => hOrder k hk _) ?_
    exact fun r hr => hInferred r (q.completion_subset infer hr)

/-- Every expression of a list has the property. -/
theorem exprs (h : Frames auto P) (exprs : List Expr) (naming : Naming) :
    ∀ l ∈ exprs.map (·.layout auto naming), P l :=
  List.forall_mem_map.mpr fun e _ => h.treeCases.expr e naming

-- ---------------------------------------------------------------------------
-- INSERT
-- ---------------------------------------------------------------------------

/-- The target of an INSERT has the property, also with the name of an alias behind AS. -/
theorem insertTarget (h : Frames auto P) (target : Relation) :
    P (Insert.targetLayout auto target) := by
  unfold Insert.targetLayout
  split
  · rename_i relation name
    have hHidden := h.anonymized _ (h.treeCases.relation relation)
    exact h.append _ _ (h.append _ _ hHidden (h.text _)) (h.declaration name)
  · exact h.treeCases.relation _

/-- The rows of an INSERT have the property, wherever they come from. -/
theorem insertRows (h : Frames auto P) (rows : Rows) : P (Insert.rowsLayout auto rows) := by
  cases rows with
  | values rows =>
    refine h.clause _ (h.separated ?_ _)
    exact List.forall_mem_map.mpr fun row _ => h.parenthesized (h.separated (h.exprs row _) _)
  | query q => exact h.query q (h.treeCases.select q auto)
  | defaults => exact h.text _

/-- The targets of a conflict have the property. -/
theorem insertTargets (h : Frames auto P) (targets : List Expr) :
    ∀ l ∈ Insert.targetsClause auto targets, P l := by
  unfold Insert.targetsClause
  split
  · exact fun l hl => absurd hl List.not_mem_nil
  · exact List.forall_mem_singleton.mpr (h.parenthesized (h.separated (h.exprs targets _) _))

/-- What to do about a conflict has the property. -/
theorem insertAction (h : Frames auto P) (action : ConflictAction) :
    P (Insert.actionLayout auto action) := by
  cases action with
  | nothing => exact h.closed (List.forall_mem_singleton.mpr (h.text _))
  | update upsert =>
    refine h.append _ _ (h.text _) (h.closed ?_)
    rw [List.forall_mem_append]
    exact ⟨h.listClause "SET" (h.assignments fun e _ => h.treeCases.expr e _),
      h.conditionClause "WHERE" (h.exprs upsert.filters _)⟩

/-- A conflict clause has the property. -/
theorem insertConflict (h : Frames auto P) (conflict : Option Conflict) :
    P (Insert.conflictLayout auto conflict) := by
  cases conflict with
  | none => exact h.nil
  | some conflict =>
    have hTargets := h.closed (h.insertTargets conflict.targets)
    exact h.append _ _ (h.append _ _ (h.text _) hTargets) (h.insertAction conflict.action)

/-- A property that composes and passes through frames holds of every INSERT. -/
theorem insert (h : Frames auto P) (insert : Insert) : P (insert.layout auto) := by
  have hHead : P (Layout.closed (insert.head auto)) := by
    apply h.closed
    rw [Insert.head, List.forall_mem_append, List.forall_mem_singleton]
    exact ⟨h.clause _ (h.insertTarget _), h.toComposes.insertColumns _⟩
  have hTail : ∀ rows, P (insert.tail auto rows) := by
    intro rows
    have hRows := h.closed (List.forall_mem_singleton.mpr (h.insertRows rows))
    have hReturning := h.closed (h.listClause "RETURNING" (h.exprs insert.returning .declaration))
    exact h.append _ _ (h.append _ _ hRows (h.insertConflict _)) hReturning
  unfold Insert.layout
  split
  · exact h.nil
  · exact hHead
  · exact h.append _ _ hHead (hTail _)

/-- Such a property holds of every statement, if the frame of a change passes it on. -/
theorem statement (h : Frames auto P)
    (hUpdate : ∀ update : Update, P (Layout.closed (update.clauses auto)) →
      P (inside .change (Layout.closed (update.clauses auto))))
    (hDelete : ∀ delete : Delete, P (Layout.closed (delete.clauses auto)) →
      P (inside .change (Layout.closed (delete.clauses auto))))
    (statement : Statement) : P (statement.layout auto) := by
  have hExpr := h.treeCases.expr
  cases statement with
  | select query =>
    exact h.append _ _ (h.query query (h.treeCases.select query auto)) h.gap
  | insert insert => exact h.insert insert
  | update update =>
    show P (update.layout auto)
    unfold Update.layout
    split
    · exact h.nil
    · apply hUpdate
      exact h.toComposes.update h.note (h.treeCases.relation _) (fun e _ => hExpr e _)
        (fun f _ => h.treeCases.fromItem f) (fun e _ => hExpr e _) (fun e _ => hExpr e _)
        (fun r _ => h.treeCases.relation r)
  | delete delete =>
    apply hDelete
    exact h.toComposes.delete h.note (h.treeCases.relation _)
      (fun f _ => h.treeCases.fromItem f) (fun e _ => hExpr e _) (fun e _ => hExpr e _)
      (fun r _ => h.treeCases.relation r)

end Frames

end Layout

end QueryText

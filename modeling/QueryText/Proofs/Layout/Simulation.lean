import QueryText.Proofs.Layout.Phrase
import QueryText.Proofs.Layout.Statement

/-!
# QueryText — every tree writes its layout

The writer of a tree changes naming and inference around its parts, takes spaces back and looks
at the context on the way. None of this shows: at every place it writes the layout of the tree.

## Main results

* `writeCases` — every relation, expression, from item and query writes its layout.
* `Statement.write_stops` — a statement writes its layout and then stops at its fault, if it has
  one.
-/

namespace QueryText

open Writer (WritesAll)

variable {auto : Bool}

-- ---------------------------------------------------------------------------
-- Trees
-- ---------------------------------------------------------------------------

/-- An alias is declared by its name, so the table before it is written without declaring it. -/
theorem Relation.declare_writes_aliased {relation : Relation} {name : String} {place : Place}
    (h : relation.declare.Writes place (relation.layout auto)) :
    (Relation.aliased relation name).declare.Writes place
      ((Relation.aliased relation name).layout auto) := by
  have hHidden : relation.declare.Writes place (relation.layout auto).anonymized := by
    intro ctx hPlace
    rw [Layout.play_anonymized]
    exact h ctx hPlace
  have hSeq := hHidden.seq ((Writer.writes_text " ").seq (Writer.writes_declaration name))
  rw [← List.append_assoc] at hSeq
  exact hSeq

/-- The writers of a list write its layouts if each expression does. -/
theorem Expr.writesAll_writers {exprs : List Expr} {naming : Naming} {place : Place}
    (h : ∀ e ∈ exprs, e.write.Writes place (e.layout auto naming)) :
    WritesAll (Expr.writers exprs) place (Expr.layouts auto exprs naming) := by
  rw [Expr.writers_eq_map, Expr.layouts_eq_map]
  exact Writer.writesAll_map h

/-- A join writes its layout if its sides and its predicate do. -/
theorem FromItem.write_writes_join {kind : JoinKind} {left right : FromItem}
    {predicate : Option Expr} {place : Place}
    (hLeft : left.write.Writes place (left.layout auto))
    (hRight : right.write.Writes place (right.layout auto))
    (hOn : ∀ e ∈ predicate, e.write.Writes place (e.layout auto .reference)) :
    (FromItem.join kind left right predicate).write.Writes place
      ((FromItem.join kind left right predicate).layout auto) := by
  cases predicate with
  | none => exact Writer.writes_join hLeft hRight Writer.writes_nothing
  | some condition =>
    have hCondition := Writer.writes_parenthesized (hOn condition rfl)
    exact Writer.writes_join hLeft hRight
      ((Writer.writes_text " ON ").seq (Writer.writes_inside hCondition))

/-- A sort key writes its layout if its expression does as a part. -/
theorem SortKey.write_writes {key : SortKey} {place : Place}
    (h : key.expr.write.Writes { place with naming := place.naming.inner }
      (key.expr.layout auto .reference)) :
    key.write.Writes place (key.layout auto) := by
  obtain ⟨expr, direction⟩ := key
  exact (Writer.writes_operand h).seq (Writer.writes_text _)

/-- The clauses of a query with the space after the last one. -/
theorem Select.closed_clauses (query : Select) (infer : Bool) :
    Layout.closed (query.clauses auto infer) = query.layout auto infer ++ Layout.gap := by
  rw [Select.layout_eq, Layout.closed_eq_spaced (by simp [Select.clauses])]

/-- The clauses of a query, one after the other, from the layouts of its parts. -/
theorem Select.write_writes {query : Select} {infer : Bool} {naming : Naming}
    (hItems : ∀ e ∈ query.items,
      e.write.Writes ⟨.declaration, infer, auto⟩ (e.layout auto .declaration))
    (hTables : ∀ f ∈ query.tables, f.write.Writes ⟨.reference, infer, auto⟩ (f.layout auto))
    (hFilters : ∀ e ∈ query.filters,
      e.write.Writes ⟨.reference, infer, auto⟩ (e.layout auto .reference))
    (hGroups : ∀ e ∈ query.groups,
      e.write.Writes ⟨.reference, infer, auto⟩ (e.layout auto .reference))
    (hGroupFilters : ∀ e ∈ query.groupFilters,
      e.write.Writes ⟨.reference, infer, auto⟩ (e.layout auto .reference))
    (hOrder : ∀ k ∈ query.order,
      k.expr.write.Writes ⟨.reference, infer, auto⟩ (k.expr.layout auto .reference))
    (hInferred : ∀ r ∈ query.inferred,
      r.declare.Writes ⟨.reference, infer, auto⟩ (r.layout auto)) :
    query.write.Writes ⟨naming, infer, auto⟩ (query.layout auto infer ++ Layout.gap) := by
  rw [← Select.closed_clauses, Select.write_eq]
  apply Writer.writes_of_get
  intro ctx hPlace
  have hInfer : ctx.options.inferring = infer := congrArg Place.inferring hPlace
  have hAdded : query.added ctx.options = query.completion infer := by
    rw [Select.added, Select.completion, hInfer]
  have hMissing : ∀ r ∈ query.completion infer,
      r.declare.Writes ⟨.reference, infer, auto⟩ (r.layout auto) :=
    fun r hr => hInferred r (query.completion_subset infer hr)
  rw [hAdded]
  apply Writer.Writes.within
  simp only [Select.clauses, Layout.closed_append, List.append_assoc]
  refine (Writer.writes_selectClause (Writer.writesAll_map hItems)).seq ?_
  refine (Writer.writes_tableClause (Writer.writesAll_map hTables) hMissing).seq ?_
  refine (Writer.writes_conditionClause (Writer.writesAll_map hFilters) rfl).seq ?_
  refine (Writer.writes_listClause (Writer.writesAll_map hGroups)).seq ?_
  refine (Writer.writes_conditionClause (Writer.writesAll_map hGroupFilters) rfl).seq ?_
  refine (Writer.writes_listClause
    (Writer.writesAll_map fun k hk => SortKey.write_writes (hOrder k hk))).seq ?_
  exact (Writer.writes_countClause "LIMIT" query.limit).seq
    (Writer.writes_countClause "OFFSET" query.offset)

/-- Every tree writes its layout. What an expression is written as depends on the naming at its
place, what a query is written as on whether it infers there, and nothing depends on more. -/
theorem writeCases (auto : Bool) :
    TreeCases
      (fun r => ∀ naming infer, r.declare.Writes ⟨naming, infer, auto⟩ (r.layout auto))
      (fun e => ∀ naming infer, e.write.Writes ⟨naming, infer, auto⟩ (e.layout auto naming))
      (fun f => ∀ infer, f.write.Writes ⟨.reference, infer, auto⟩ (f.layout auto))
      (fun q => ∀ naming infer,
        q.write.Writes ⟨naming, infer, auto⟩ (q.layout auto infer ++ Layout.gap)) where
  table schema name naming infer := by
    cases schema with
    | none => exact Writer.writes_declaration name
    | some schema =>
      rw [Relation.layout, List.append_assoc]
      exact (Writer.writes_name schema).seq
        ((Writer.writes_text ".").seq (Writer.writes_declaration name))
  aliased r name h naming infer := Relation.declare_writes_aliased (h naming infer)
  derived query name h naming infer := Writer.writes_derived (h naming auto)
  excluded _ _ := Writer.writes_text _
  column r name _ naming infer := Writer.writes_column _ _
  star _ _ := Writer.writes_text _
  allOf r _ naming infer := Writer.writes_allOf _
  argument tag _ _ := Writer.writes_argument tag
  literal s _ _ := Writer.writes_text s
  raw sql operands h naming infer :=
    Writer.writes_raw (Expr.writesAll_writers fun e he => h e he naming.inner infer)
  group inner h naming infer := Writer.writes_parenthesized (h naming.inner infer).part
  list items h naming infer :=
    Writer.writes_tuple (Expr.writesAll_writers fun e he => h e he naming.inner infer)
  unary op operand h naming infer :=
    Writer.writes_unary (Writer.writes_operand (h naming.inner infer))
  binary op left right hLeft hRight naming infer :=
    Writer.writes_binary (Writer.writes_operand (hLeft naming.inner infer))
      (Writer.writes_operand (hRight naming.inner infer))
  logical op operands h naming infer :=
    Writer.writes_connected (Expr.writesAll_writers fun e he => h e he naming.inner infer)
  call function operands h naming infer :=
    Writer.writes_call (Expr.writesAll_writers fun e he => h e he naming.inner infer)
  named inner name h naming infer := Writer.writes_named (h .reference infer)
  subquery op query h naming infer := Writer.writes_subquery (h naming false)
  listed r h infer := h .reference infer
  join kind left right predicate hLeft hRight hOn infer :=
    FromItem.write_writes_join (hLeft infer) (hRight infer)
      fun e he => hOn e he .reference infer
  query q hItems hTables hFilters hGroups hGroupFilters hOrder hInferred naming infer :=
    Select.write_writes (fun e he => hItems e he .declaration infer)
      (fun f hf => hTables f hf infer) (fun e he => hFilters e he .reference infer)
      (fun e he => hGroups e he .reference infer)
      (fun e he => hGroupFilters e he .reference infer)
      (fun k hk => hOrder k hk .reference infer) (fun r hr => hInferred r hr .reference infer)

-- ---------------------------------------------------------------------------
-- UPDATE and DELETE
-- ---------------------------------------------------------------------------

/-- Assignments are written one by one as they are laid out. -/
theorem Assignments.writesAll_entries {assignments : Assignments} {infer : Bool} :
    WritesAll (assignments.entries.map Assignments.writeEntry) ⟨.reference, infer, auto⟩
      (assignments.layouts auto) := by
  apply Writer.writesAll_map
  intro entry _
  rw [List.append_assoc]
  exact (Writer.writes_name entry.1).seq
    ((Writer.writes_text " = ").seq ((writeCases auto).expr entry.2 .reference infer))

/-- Every list of expressions writes its layouts, in any naming. -/
theorem Expr.writesAll_map {exprs : List Expr} {naming : Naming} {infer : Bool} :
    WritesAll (exprs.map Expr.write) ⟨naming, infer, auto⟩
      (exprs.map (·.layout auto naming)) :=
  Writer.writesAll_map fun e _ => (writeCases auto).expr e naming infer

/-- Every list of tables writes its layouts. -/
theorem FromItem.writesAll_map {items : List FromItem} {infer : Bool} :
    WritesAll (items.map FromItem.write) ⟨.reference, infer, auto⟩
      (items.map (·.layout auto)) :=
  Writer.writesAll_map fun f _ => (writeCases auto).fromItem f infer

/-- The completed list of tables of a statement. -/
theorem Writer.writes_completedTables {keyword : String} {tables : List FromItem}
    {missing : List Relation} {infer : Bool} :
    (Writer.tableClause keyword (tables.map FromItem.write)
        (missing.map Relation.entry)).Writes ⟨.reference, infer, auto⟩
      (Layout.closed (Layout.tableClause keyword (tables.map (·.layout auto))
        (missing.map (Relation.draft auto)))) :=
  Writer.writes_tableClause FromItem.writesAll_map
    fun r _ => (writeCases auto).relation r .reference infer

/-- A writer that writes a layout and then stops at a fault, if there is one. -/
def Writer.Stops (w : Writer) (place : Place) (l : Layout) (fault : Option Misuse) : Prop :=
  ∀ ctx : Context, ctx.place = place →
    w ctx = match fault with
      | none => l.play ctx
      | some cause => (do l.play; throw (.misuse cause) : Writer) ctx

/-- An UPDATE that assigns something writes its clauses. -/
theorem Update.write_writes {update : Update} (h : ¬ update.assignments.isEmpty = true) :
    update.write.Writes ⟨.reference, auto, auto⟩
      (Layout.inside .change (Layout.closed (update.clauses auto))) := by
  apply Writer.writes_inside
  unfold Update.write
  rw [if_neg h]
  apply Writer.writes_of_get
  intro ctx hPlace
  have hInfer : ctx.options.inferring = auto := congrArg Place.inferring hPlace
  rw [hInfer]
  apply Writer.Writes.within
  simp only [Update.clauses, Layout.closed_append, List.append_assoc]
  refine (Writer.writes_clause ((writeCases auto).relation _ .reference auto)).seq ?_
  refine (Writer.writes_listClause Assignments.writesAll_entries).seq ?_
  refine Writer.writes_completedTables.seq ?_
  refine (Writer.writes_conditionClause Expr.writesAll_map rfl).seq ?_
  exact Writer.writes_itemClause Expr.writesAll_map

/-- An UPDATE writes its layout, or stops at once if it assigns nothing. -/
theorem Update.write_stops (update : Update) :
    update.write.Stops ⟨.reference, auto, auto⟩ (update.layout auto)
      (Statement.update update).fault := by
  intro ctx hPlace
  rw [Update.layout, Statement.fault]
  by_cases hEmpty : update.assignments.isEmpty = true
  · rw [if_pos hEmpty, if_pos hEmpty]
    unfold Update.write
    rw [if_pos hEmpty]
    rfl
  · rw [if_neg hEmpty, if_neg hEmpty]
    exact Update.write_writes hEmpty ctx hPlace

/-- A DELETE writes its clauses. -/
theorem Delete.write_writes (delete : Delete) :
    delete.write.Writes ⟨.reference, auto, auto⟩ (delete.layout auto) := by
  apply Writer.writes_inside
  apply Writer.writes_of_get
  intro ctx hPlace
  have hInfer : ctx.options.inferring = auto := congrArg Place.inferring hPlace
  rw [hInfer]
  apply Writer.Writes.within
  simp only [Delete.clauses, Layout.closed_append, List.append_assoc]
  refine (Writer.writes_clause ((writeCases auto).relation _ .reference auto)).seq ?_
  refine Writer.writes_completedTables.seq ?_
  refine (Writer.writes_conditionClause Expr.writesAll_map rfl).seq ?_
  exact Writer.writes_itemClause Expr.writesAll_map

-- ---------------------------------------------------------------------------
-- INSERT
-- ---------------------------------------------------------------------------

namespace Insert

/-- The target of an INSERT writes its layout, where only the name of an alias is a declaration. -/
theorem writeTarget_writes (target : Relation) :
    (writeTarget target).Writes ⟨.reference, auto, auto⟩ (targetLayout auto target) := by
  cases target with
  | aliased relation name =>
    have hHidden : relation.declare.Writes ⟨.reference, auto, auto⟩
        (relation.layout auto).anonymized := by
      intro ctx hPlace
      rw [Layout.play_anonymized]
      exact (writeCases auto).relation relation .reference auto ctx hPlace
    have hSeq := hHidden.seq
      ((Writer.writes_text " AS ").seq (Writer.writes_declaration name))
    rw [← List.append_assoc] at hSeq
    exact hSeq
  | table schema name => exact (writeCases auto).relation (.table schema name) .reference auto
  | derived query name => exact (writeCases auto).relation (.derived query name) .reference auto
  | excluded => exact (writeCases auto).relation .excluded .reference auto

/-- A column list writes its layout, and an empty one nothing. -/
theorem writeColumns_writes (columns : List String) {place : Place} :
    (writeColumns columns).Writes place (Layout.closed (columnsClause columns)) := by
  unfold writeColumns columnsClause
  by_cases hEmpty : columns.isEmpty = true
  · rw [if_pos hEmpty, if_pos hEmpty]
    exact Writer.writes_nothing
  · rw [if_neg hEmpty, if_neg hEmpty, Layout.closed_singleton]
    refine (Writer.writes_parenthesized (Writer.writes_separated ?_)).seq Writer.writes_gap
    exact Writer.writesAll_map fun column _ => Writer.writes_name column

theorem writeRow_writes (row : List Expr) :
    (writeRow row).Writes ⟨.reference, auto, auto⟩ (rowLayout auto row) :=
  Writer.writes_parenthesized (Writer.writes_separated Expr.writesAll_map)

/-- The rows write their layout, wherever they come from. -/
theorem writeRows_writes (rows : Rows) :
    (writeRows (some rows)).Writes ⟨.reference, auto, auto⟩
      (Layout.closed [rowsLayout auto rows]) := by
  cases rows with
  | values rows =>
    refine Writer.writes_clause (Writer.writes_separated ?_)
    exact Writer.writesAll_map fun row _ => writeRow_writes row
  | query query =>
    intro ctx hPlace
    rw [Layout.closed_singleton, rowsLayout, Layout.play_append, Layout.play_inside,
      ← Layout.play_append]
    exact (writeCases auto).select query .reference auto ctx hPlace
  | defaults => exact Writer.writes_keywordClause "DEFAULT VALUES"

/-- The targets of a conflict write their layout in bare naming, whatever the naming around them is.
-/
theorem writeTargets_writes (targets : List Expr) {naming : Naming} {infer : Bool} :
    (writeTargets targets).Writes ⟨naming, infer, auto⟩
      (Layout.closed (targetsClause auto targets)) := by
  unfold writeTargets targetsClause
  by_cases hEmpty : targets.isEmpty = true
  · rw [if_pos hEmpty, if_pos hEmpty]
    exact Writer.writes_nothing
  · rw [if_neg hEmpty, if_neg hEmpty, Layout.closed_singleton]
    refine (Writer.writes_parenthesized ?_).seq Writer.writes_gap
    exact (Writer.writes_separated Expr.writesAll_map).within

/-- What to do about a conflict writes its layout. -/
theorem writeAction_writes (action : ConflictAction) {infer : Bool} :
    (writeAction action).Writes ⟨.reference, infer, auto⟩ (actionLayout auto action) := by
  cases action with
  | nothing => exact Writer.writes_keywordClause "DO NOTHING"
  | update upsert =>
    rw [actionLayout, Layout.closed_append]
    refine (Writer.writes_text "DO UPDATE ").seq ?_
    exact (Writer.writes_listClause Assignments.writesAll_entries).seq
      (Writer.writes_conditionClause Expr.writesAll_map rfl)

/-- A conflict clause writes its layout. -/
theorem writeConflict_writes (conflict : Option Conflict) :
    (writeConflict conflict).Writes ⟨.reference, auto, auto⟩ (conflictLayout auto conflict) := by
  cases conflict with
  | none => exact Writer.writes_nothing
  | some conflict =>
    rw [conflictLayout, List.append_assoc]
    exact (Writer.writes_text "ON CONFLICT ").seq
      ((writeTargets_writes conflict.targets).seq (writeAction_writes conflict.action))

/-- The clauses before the rows write their layout. -/
theorem head_writes (insert : Insert) :
    Writer.Writes
      (do
        Writer.clause "INSERT INTO" (writeTarget insert.target)
        writeColumns insert.columns)
      ⟨.reference, auto, auto⟩ (Layout.closed (insert.head auto)) := by
  rw [head, Layout.closed_append]
  exact (Writer.writes_clause (writeTarget_writes insert.target)).seq
    (writeColumns_writes insert.columns)

/-- The rows and what follows them write their layout. -/
theorem tail_writes (insert : Insert) (rows : Rows) :
    Writer.Writes
      (do
        writeRows (some rows)
        writeConflict insert.conflict
        Writer.itemClause "RETURNING" (insert.returning.map Expr.write))
      ⟨.reference, auto, auto⟩ (insert.tail auto rows) := by
  rw [tail, List.append_assoc]
  refine (writeRows_writes rows).seq ((writeConflict_writes insert.conflict).seq ?_)
  exact Writer.writes_itemClause Expr.writesAll_map

/-- An INSERT writes its layout and stops at its fault: at once after a step that did not fit, and
before the rows if there are none. -/
theorem write_stops (insert : Insert) :
    insert.write.Stops ⟨.reference, auto, auto⟩ (insert.layout auto) insert.fault := by
  intro ctx hPlace
  -- after the first two clauses, everything depends on the rows
  have hSplit : ∀ v : Writer,
      (do
        Writer.clause "INSERT INTO" (writeTarget insert.target)
        writeColumns insert.columns
        v : Writer) ctx = (do (Layout.closed (insert.head auto)).play; v : Writer) ctx := by
    intro v
    have hAssoc :
        (do
          Writer.clause "INSERT INTO" (writeTarget insert.target)
          writeColumns insert.columns
          v : Writer) =
        (do
          (do
            Writer.clause "INSERT INTO" (writeTarget insert.target)
            writeColumns insert.columns)
          v) := (bind_assoc ..).symm
    rw [hAssoc]
    exact Writer.seq_congr_left (insert.head_writes ctx hPlace)
  unfold write layout fault
  cases insert.misuse with
  | some cause => rfl
  | none =>
    cases hRows : insert.rows with
    | none =>
      refine (hSplit _).trans ?_
      show _ = (do
        (Layout.closed (insert.head auto)).play
        throw (.misuse .insertWithoutRows) : Writer) ctx
      rw [Writer.seq_apply, Writer.seq_apply]
      rfl
    | some rows =>
      refine (hSplit _).trans ?_
      show _ = Layout.play (Layout.closed (insert.head auto) ++ insert.tail auto rows) ctx
      rw [Layout.play_append, Writer.seq_apply, Writer.seq_apply]
      have hSame := (Layout.closed (insert.head auto)).samePlace_play ctx
      rw [Writer.after] at hSame
      cases hRun : (Layout.closed (insert.head auto)).play ctx with
      | error e after => rfl
      | ok _ after =>
        rw [hRun] at hSame
        exact insert.tail_writes rows after (hSame.place.trans hPlace)

end Insert

-- ---------------------------------------------------------------------------
-- Statements
-- ---------------------------------------------------------------------------

/-- A statement writes its layout and stops at its fault. -/
theorem Statement.write_stops (statement : Statement) :
    statement.write.Stops ⟨.reference, auto, auto⟩ (statement.layout auto) statement.fault := by
  cases statement with
  | select query =>
    intro ctx hPlace
    have hWrite := (writeCases auto).select query .reference auto ctx hPlace
    rw [Statement.layout, Layout.play_append, Layout.play_inside, ← Layout.play_append]
    exact hWrite
  | insert insert => exact insert.write_stops
  | update update => exact update.write_stops
  | delete delete => exact delete.write_writes

end QueryText

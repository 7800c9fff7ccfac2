import QueryText.Proofs.Hereditary
import QueryText.Proofs.Quoting.Readable

/-!
# QueryText — names do not change the structure of a text

The names of schemas, tables, columns and aliases are arbitrary: a name may hold quotes, dots and
whole pieces of SQL. The texts that a tree brings itself, such as literals, are written as they are,
so they are taken to have no double quote. Raw SQL with operands is left out, for it can put two of
them next to each other.

Then the double quotes of a written text are those of its names, and a lexer that knows nothing
about SQL but how an identifier is quoted reads back exactly the names that were written.

## Main results

* `plain_hereditary` — what a plain tree mentions is plain.
* `readableCases`, `Statement.Plain.readable` — plain trees and statements are laid out readably.
* `names_read_back` — the identifiers of a text are the names that were written.
-/

namespace QueryText

open Identifier (QuoteFree)

-- ---------------------------------------------------------------------------
-- Plain trees
-- ---------------------------------------------------------------------------

mutual

/-- A relation whose tree is plain, whatever its names are. -/
inductive Relation.Plain : Relation → Prop where
  | table (schema : Option String) (name : String) : Relation.Plain (.table schema name)
  | aliased {relation : Relation} (h : relation.Plain) (name : String) :
    Relation.Plain (.aliased relation name)
  | derived {query : Select} (h : query.Plain) (name : String) :
    Relation.Plain (.derived query name)
  | excluded : Relation.Plain .excluded

/-- An expression whose literals, functions and arguments have no double quote, with raw SQL only
where it takes no operands. The relations of its columns are parts of it, for they may become
entries of a list of tables. -/
inductive Expr.Plain : Expr → Prop where
  | column {relation : Relation} (h : relation.Plain) (name : String) :
    Expr.Plain (.column relation name)
  | star : Expr.Plain .star
  | allOf {relation : Relation} (h : relation.Plain) : Expr.Plain (.allOf relation)
  | argument {tag : String} (h : QuoteFree tag) : Expr.Plain (.argument tag)
  | literal {text : String} (h : QuoteFree text) : Expr.Plain (.literal text)
  | raw {sql : String} (h : QuoteFree sql) : Expr.Plain (.raw sql [])
  | group {inner : Expr} (h : inner.Plain) : Expr.Plain (.group inner)
  | list {items : List Expr} (h : ∀ e ∈ items, e.Plain) : Expr.Plain (.list items)
  | unary (op : UnaryOp) {operand : Expr} (h : operand.Plain) : Expr.Plain (.unary op operand)
  | binary (op : BinaryOp) {left right : Expr} (hLeft : left.Plain) (hRight : right.Plain) :
    Expr.Plain (.binary op left right)
  | logical (op : LogicalOp) {operands : List Expr} (h : ∀ e ∈ operands, e.Plain) :
    Expr.Plain (.logical op operands)
  | call {function : String} (hFunction : QuoteFree function) {operands : List Expr}
    (h : ∀ e ∈ operands, e.Plain) : Expr.Plain (.call function operands)
  | named {inner : Expr} (h : inner.Plain) (name : String) : Expr.Plain (.named inner name)
  | subquery (op : SubqueryOp) {query : Select} (h : query.Plain) :
    Expr.Plain (.subquery op query)

inductive FromItem.Plain : FromItem → Prop where
  | relation {relation : Relation} (h : relation.Plain) : FromItem.Plain (.relation relation)
  | join (kind : JoinKind) {left right : FromItem} {predicate : Option Expr}
    (hLeft : left.Plain) (hRight : right.Plain) (hOn : ∀ e ∈ predicate, e.Plain) :
    FromItem.Plain (.join kind left right predicate)

inductive Select.Plain : Select → Prop where
  | clauses {query : Select} (items : ∀ e ∈ query.items, e.Plain)
    (tables : ∀ f ∈ query.tables, f.Plain) (filters : ∀ e ∈ query.filters, e.Plain)
    (groups : ∀ e ∈ query.groups, e.Plain) (groupFilters : ∀ e ∈ query.groupFilters, e.Plain)
    (order : ∀ k ∈ query.order, k.expr.Plain) : Select.Plain query

end

-- ---------------------------------------------------------------------------
-- What plain trees mention
-- ---------------------------------------------------------------------------

/-- What a plain tree mentions is plain. -/
theorem plain_hereditary : Hereditary Relation.Plain Expr.Plain Select.Plain where
  column | .column h _ => h
  allOf | .allOf h => h
  part := by
    intro e h
    cases h with
    | column _ _ => exact fun _ hMem => absurd hMem List.not_mem_nil
    | star => exact fun _ hMem => absurd hMem List.not_mem_nil
    | allOf _ => exact fun _ hMem => absurd hMem List.not_mem_nil
    | argument _ => exact fun _ hMem => absurd hMem List.not_mem_nil
    | literal _ => exact fun _ hMem => absurd hMem List.not_mem_nil
    | raw _ => exact fun _ hMem => absurd hMem List.not_mem_nil
    | subquery _ _ => exact fun _ hMem => absurd hMem List.not_mem_nil
    | group h => exact List.forall_mem_singleton.mpr h
    | list h => exact h
    | unary _ h => exact List.forall_mem_singleton.mpr h
    | binary _ h h' => exact List.forall_mem_cons.mpr ⟨h, List.forall_mem_singleton.mpr h'⟩
    | logical _ h => exact h
    | call _ h => exact h
    | named h _ => exact List.forall_mem_singleton.mpr h
  subquery | .subquery _ h => h
  clause := by
    intro q h
    obtain ⟨items, -, filters, groups, groupFilters, order⟩ := h
    simp only [Select.exprs, List.forall_mem_append, List.forall_mem_map]
    exact ⟨⟨⟨⟨items, filters⟩, groups⟩, groupFilters⟩, order⟩

-- ---------------------------------------------------------------------------
-- Plain trees are laid out readably
-- ---------------------------------------------------------------------------

variable {auto : Bool}

/-- Plain expressions of a list have readable layouts, if each plain one has. -/
theorem Expr.readable_layouts {exprs : List Expr} {naming : Naming}
    (hLayout : ∀ e ∈ exprs, e.Plain → ∀ naming, (e.layout auto naming).Readable)
    (h : ∀ e ∈ exprs, e.Plain) : ∀ l ∈ Expr.layouts auto exprs naming, l.Readable := by
  rw [Expr.layouts_eq_map]
  exact List.forall_mem_map.mpr fun e he => hLayout e he (h e he) naming

/-- A sort key has a readable layout if its expression has. -/
theorem SortKey.readable_layout {key : SortKey}
    (h : (key.expr.layout auto .reference).Readable) : (key.layout auto).Readable := by
  obtain ⟨expr, direction⟩ := key
  exact (h.operand _).before (by cases direction <;> decide)

/-- A plain tree has a readable layout, in every naming and with inference or without. -/
theorem readableCases (auto : Bool) :
    TreeCases (fun r => r.Plain → (r.layout auto).Readable)
      (fun e => e.Plain → ∀ naming, (e.layout auto naming).Readable)
      (fun f => f.Plain → (f.layout auto).Readable)
      (fun q => q.Plain → ∀ infer, (q.layout auto infer).Readable) where
  table schema name _ := by
    cases schema with
    | none => exact .declaration name
    | some schema =>
      exact (Layout.Readable.name schema).apart (Layout.parts_text (by decide) rfl)
        (.declaration name)
  aliased r name hRelation
    | .aliased h _ => (hRelation h).anonymized.apart Layout.parts_space (.declaration name)
  derived q name hQuery | .derived h _ => (hQuery h auto).derived q name
  excluded _ := .text (by decide)
  column r name _ _ naming := .column naming r.name name
  star _ _ := .text (by decide)
  allOf r _ _ naming := .allOf naming r.name
  argument tag | .argument h => fun _ => .argument h
  literal s | .literal h => fun _ => .text h
  raw sql operands _ | .raw h => fun _ => .raw h
  group inner hInner | .group h => fun naming => (hInner h naming.inner).parenthesized
  list items hAll | .list h => fun _ => .tuple (Expr.readable_layouts hAll h)
  unary op operand hOperand
    | .unary _ h => fun naming => ((hOperand h naming.inner).operand _).unary op _
  binary op left right hLeft hRight
    | .binary _ h h' => fun naming =>
      .binary op ((hLeft h naming.inner).operand _) ((hRight h' naming.inner).operand _)
  logical op operands hAll | .logical _ h => fun _ => .connected op (Expr.readable_layouts hAll h)
  call function operands hAll
    | .call hFunction h => fun _ => .call hFunction (Expr.readable_layouts hAll h)
  named inner name hInner | .named h _ => fun naming => .named naming (hInner h .reference) name
  subquery op q hQuery | .subquery _ h => fun _ => (hQuery h false).subquery op q
  listed r hRelation | .relation h => hRelation h
  join kind left right predicate hLeft hRight hOn
    | .join _ h h' hPredicate => by
      cases predicate with
      | none => exact .join kind (hLeft h) _ (hRight h') fun l hl => nomatch hl
      | some condition =>
        refine .join kind (hLeft h) _ (hRight h') ?_
        rintro l ⟨⟩
        exact hOn condition rfl (hPredicate condition rfl) .reference
  query q hItems hTables hFilters hGroups hGroupFilters hOrder hInferred h infer := by
    have hCompletion : ∀ r ∈ q.completion infer, (r.layout auto).Readable := by
      intro r hr
      have hMem := q.completion_subset infer hr
      exact hInferred r hMem (plain_hereditary.inferred h r hMem)
    obtain ⟨items, tables, filters, groups, groupFilters, order⟩ := h
    rw [Select.layout_eq]
    apply Layout.Readable.spaced
    simp only [Select.clauses, List.forall_mem_append, List.forall_mem_singleton]
    refine ⟨⟨⟨⟨⟨⟨⟨?_, ?_⟩, ?_⟩, ?_⟩, ?_⟩, ?_⟩, ?_⟩, ?_⟩
    · exact .selectClause (List.forall_mem_map.mpr fun e he => hItems e he (items e he) _)
    · exact .tableClause (by decide)
        (List.forall_mem_map.mpr fun f hf => hTables f hf (tables f hf))
        (List.forall_mem_map.mpr hCompletion)
    · exact .conditionClause (by decide)
        (List.forall_mem_map.mpr fun e he => hFilters e he (filters e he) _)
    · exact .listClause (by decide)
        (List.forall_mem_map.mpr fun e he => hGroups e he (groups e he) _)
    · exact .conditionClause (by decide)
        (List.forall_mem_map.mpr fun e he => hGroupFilters e he (groupFilters e he) _)
    · exact .listClause (by decide) (List.forall_mem_map.mpr fun k hk =>
        SortKey.readable_layout (hOrder k hk (order k hk) _))
    · exact .countClause (by decide) q.limit
    · exact .countClause (by decide) q.offset

/-- Plain expressions have readable layouts. -/
theorem Expr.readable_map {exprs : List Expr} (h : ∀ e ∈ exprs, e.Plain) (naming : Naming) :
    ∀ l ∈ exprs.map (·.layout auto naming), l.Readable :=
  List.forall_mem_map.mpr fun e he => (readableCases auto).expr e (h e he) naming

/-- Plain entries of a list of tables have readable layouts. -/
theorem FromItem.readable_map {items : List FromItem} (h : ∀ f ∈ items, f.Plain) :
    ∀ l ∈ items.map (·.layout auto), l.Readable :=
  List.forall_mem_map.mpr fun f hf => (readableCases auto).fromItem f (h f hf)

/-- Inferred relations that are plain are entered readably. -/
theorem Relation.readable_drafts {relations : List Relation} (h : ∀ r ∈ relations, r.Plain) :
    ∀ entry ∈ relations.map (Relation.draft auto), entry.declare.Readable :=
  List.forall_mem_map.mpr fun r hr => (readableCases auto).relation r (h r hr)

/-- Assignments of plain values have readable layouts. -/
theorem Assignments.readable_layouts {assignments : Assignments}
    (h : ∀ e ∈ assignments.values, e.Plain) : ∀ l ∈ assignments.layouts auto, l.Readable := by
  refine List.forall_mem_map.mpr fun entry hEntry => ?_
  have hValue := (readableCases auto).expr entry.2 (h entry.2 (List.mem_map_of_mem hEntry))
  exact (Layout.Readable.name entry.1).apart (Layout.parts_text (by decide) rfl)
    (hValue .reference)

-- ---------------------------------------------------------------------------
-- UPDATE and DELETE
-- ---------------------------------------------------------------------------

structure Update.Plain (update : Update) : Prop where
  target : update.target.Plain
  values : ∀ e ∈ update.assignments.values, e.Plain
  tables : ∀ f ∈ update.tables, f.Plain
  filters : ∀ e ∈ update.filters, e.Plain
  returning : ∀ e ∈ update.returning, e.Plain

/-- What completes the FROM list of a plain UPDATE is plain. -/
theorem Update.Plain.completion {update : Update} (h : update.Plain) :
    ∀ r ∈ update.completion auto, r.Plain := fun r hr =>
  plain_hereditary.update_inferred h.values h.filters h.returning r
    (update.completion_subset auto hr)

/-- A plain UPDATE has a readable layout. -/
theorem Update.Plain.readable {update : Update} (h : update.Plain) :
    (update.layout auto).Readable := by
  unfold Update.layout
  split
  · exact .nil
  · refine .inside (.closed ?_) _
    simp only [Update.clauses, List.forall_mem_append, List.forall_mem_singleton]
    refine ⟨⟨⟨⟨?_, ?_⟩, ?_⟩, ?_⟩, ?_⟩
    · exact .clause (by decide) ((readableCases auto).relation _ h.target)
    · exact .listClause (by decide) (Assignments.readable_layouts h.values)
    · exact .tableClause (by decide) (FromItem.readable_map h.tables)
        (Relation.readable_drafts h.completion)
    · exact .conditionClause (by decide) (Expr.readable_map h.filters _)
    · exact .listClause (by decide) (Expr.readable_map h.returning _)

structure Delete.Plain (delete : Delete) : Prop where
  target : delete.target.Plain
  tables : ∀ f ∈ delete.tables, f.Plain
  filters : ∀ e ∈ delete.filters, e.Plain
  returning : ∀ e ∈ delete.returning, e.Plain

/-- What completes the USING list of a plain DELETE is plain. -/
theorem Delete.Plain.completion {delete : Delete} (h : delete.Plain) :
    ∀ r ∈ delete.completion auto, r.Plain := fun r hr =>
  plain_hereditary.delete_inferred h.filters h.returning r (delete.completion_subset auto hr)

/-- A plain DELETE has a readable layout. -/
theorem Delete.Plain.readable {delete : Delete} (h : delete.Plain) :
    (delete.layout auto).Readable := by
  refine .inside (.closed ?_) _
  simp only [Delete.clauses, List.forall_mem_append, List.forall_mem_singleton]
  refine ⟨⟨⟨?_, ?_⟩, ?_⟩, ?_⟩
  · exact .clause (by decide) ((readableCases auto).relation _ h.target)
  · exact .tableClause (by decide) (FromItem.readable_map h.tables)
      (Relation.readable_drafts h.completion)
  · exact .conditionClause (by decide) (Expr.readable_map h.filters _)
  · exact .listClause (by decide) (Expr.readable_map h.returning _)

-- ---------------------------------------------------------------------------
-- INSERT
-- ---------------------------------------------------------------------------

def Rows.Plain : Rows → Prop
  | .values rows => ∀ row ∈ rows, ∀ e ∈ row, e.Plain
  | .query q => q.Plain
  | .defaults => True

def ConflictAction.Plain : ConflictAction → Prop
  | .nothing => True
  | .update upsert =>
    (∀ e ∈ upsert.assignments.values, e.Plain) ∧ ∀ e ∈ upsert.filters, e.Plain

namespace Insert

structure Plain (insert : Insert) : Prop where
  target : insert.target.Plain
  rows : ∀ rows ∈ insert.rows, rows.Plain
  targets : ∀ conflict ∈ insert.conflict, ∀ e ∈ conflict.targets, e.Plain
  action : ∀ conflict ∈ insert.conflict, conflict.action.Plain
  returning : ∀ e ∈ insert.returning, e.Plain

/-- A plain target of an INSERT is readable, with the name behind AS. -/
theorem readable_target {target : Relation} (h : target.Plain) :
    (targetLayout auto target).Readable := by
  unfold targetLayout
  split
  · rename_i relation name
    cases h with
    | aliased hRelation _ =>
      have hHidden := ((readableCases auto).relation relation hRelation).anonymized
      exact hHidden.apart (Layout.parts_text (by decide) rfl) (.declaration name)
  · exact (readableCases auto).relation _ h

/-- The clauses before the rows are readable. -/
theorem readable_head {insert : Insert} (h : insert.target.Plain) :
    ∀ l ∈ insert.head auto, l.Readable := by
  have hComma : (Layout.text ",").Parts := Layout.parts_text (by decide) rfl
  rw [head, List.forall_mem_append, List.forall_mem_singleton]
  refine ⟨.clause (by decide) (readable_target h), ?_⟩
  unfold columnsClause
  split
  · exact fun l hl => absurd hl List.not_mem_nil
  · refine List.forall_mem_singleton.mpr (.parenthesized (.separated ?_ hComma))
    exact List.forall_mem_map.mpr fun column _ => .name column

/-- Plain rows are readable, wherever they come from. -/
theorem readable_rows {rows : Rows} (h : rows.Plain) : (rowsLayout auto rows).Readable := by
  cases rows with
  | values rows =>
    refine .clause (by decide) (.separated (List.forall_mem_map.mpr fun row hRow => ?_)
      Layout.parts_comma)
    exact .parenthesized (.separated (Expr.readable_map (h row hRow) _) Layout.parts_comma)
  | query q => exact ((readableCases auto).select q h auto).inside _
  | defaults => exact .text (by decide)

/-- Plain targets of a conflict are readable. -/
theorem readable_targets {targets : List Expr} (h : ∀ e ∈ targets, e.Plain) :
    ∀ l ∈ targetsClause auto targets, l.Readable := by
  have hComma : (Layout.text ",").Parts := Layout.parts_text (by decide) rfl
  unfold targetsClause
  split
  · exact fun l hl => absurd hl List.not_mem_nil
  · refine List.forall_mem_singleton.mpr (.parenthesized (.separated ?_ hComma))
    exact Expr.readable_map h _

/-- An ON CONFLICT clause ends in a space, so anything readable can follow it. -/
theorem Plain.readable_conflict {insert : Insert} (h : insert.Plain) {l : Layout}
    (hl : l.Readable) : Layout.Readable (conflictLayout auto insert.conflict ++ l) := by
  cases hConflict : insert.conflict with
  | none => exact hl
  | some conflict =>
    have hAction : Layout.Readable (actionLayout auto conflict.action ++ l) := by
      have hPlain := h.action conflict hConflict
      cases hKind : conflict.action with
      | nothing => exact .closed_append (List.forall_mem_singleton.mpr (.text (by decide))) hl
      | update upsert =>
        rw [hKind] at hPlain
        rw [actionLayout, List.append_assoc]
        refine .after (.closed_append ?_ hl) (by decide)
        rw [List.forall_mem_append]
        exact ⟨.listClause (by decide) (Assignments.readable_layouts hPlain.1),
          .conditionClause (by decide) (Expr.readable_map hPlain.2 _)⟩
    have hTargets : ∀ l ∈ targetsClause auto conflict.targets, l.Readable :=
      readable_targets (h.targets conflict hConflict)
    rw [conflictLayout, List.append_assoc, List.append_assoc]
    exact .after (.closed_append hTargets hAction) (by decide)

/-- A plain INSERT has a readable layout. -/
theorem Plain.readable {insert : Insert} (h : insert.Plain) : (insert.layout auto).Readable := by
  unfold layout
  split
  · exact .nil
  · exact .closed (readable_head h.target)
  · rename_i rows _ hRows
    refine .closed_append (readable_head h.target) ?_
    rw [tail, List.append_assoc]
    refine .closed_append (List.forall_mem_singleton.mpr (readable_rows (h.rows rows hRows))) ?_
    exact h.readable_conflict
      (.closed (.listClause (by decide) (Expr.readable_map h.returning _)))

end Insert

-- ---------------------------------------------------------------------------
-- Statements
-- ---------------------------------------------------------------------------

/-- A statement that is made of plain trees. -/
def Statement.Plain : Statement → Prop
  | .select query => query.Plain
  | .insert statement => statement.Plain
  | .update statement => statement.Plain
  | .delete statement => statement.Plain

/-- Every plain statement has a readable layout. -/
theorem Statement.Plain.readable {statement : Statement} (h : statement.Plain) (auto : Bool) :
    (statement.layout auto).Readable := by
  cases statement with
  | select query =>
    have hQuery := ((readableCases auto).select query h auto).inside (.query query)
    have hClosed := hQuery.apart Layout.parts_gap .nil
    rwa [List.append_nil] at hClosed
  | insert insert => exact Insert.Plain.readable h
  | update update => exact Update.Plain.readable h
  | delete delete => exact Delete.Plain.readable h

-- ---------------------------------------------------------------------------
-- Reading the names back
-- ---------------------------------------------------------------------------

/-- The names that a writer puts between quotes, in order. -/
def Writer.names (w : Writer) (options : Options) : List String :=
  writtenNames (w.after (Context.start options)).fragments.toList

/-- A pass over a readable layout yields a text whose identifiers are the names that it wrote. -/
theorem Writer.Stops.lex_of_render_ok {w : Writer} {options : Options} {l : Layout}
    {fault : Option Misuse} {rendering : Rendering} (h : w.Stops options.place l fault)
    (hReadable : l.Readable) (hRender : w.render options = .ok rendering) :
    ∃ outside, Identifier.lex rendering.sql = some (w.names options, outside) ∧
      Identifier.delimiter ∉ outside := by
  obtain ⟨hFragments, hRendering, -⟩ := h.of_render_ok hRender
  obtain ⟨ended, hFound⟩ := hReadable.found [] options.placeholder
  rw [hRendering, names, hFragments]
  exact Identifier.lex_dropFinalSpace hFound

/-- Names cannot change the structure of a text: whatever characters they have, the identifiers of
the text of a plain statement or expression are the names that were written, in order, and no
double quote is left outside of them. -/
theorem names_read_back (options : Options) (rendering : Rendering) :
    (∀ statement : Statement, statement.Plain → statement.render options = .ok rendering →
      ∃ outside,
        Identifier.lex rendering.sql = some (statement.write.names options, outside) ∧
          Identifier.delimiter ∉ outside) ∧
    ∀ e : Expr, e.Plain → e.write.render options = .ok rendering →
      ∃ outside,
        Identifier.lex rendering.sql = some (e.write.names options, outside) ∧
          Identifier.delimiter ∉ outside := by
  constructor
  · intro statement hPlain hRender
    rw [statement.render_eq] at hRender
    exact (statement.stops options).lex_of_render_ok (hPlain.readable _) hRender
  · intro e hPlain hRender
    have hReadable := (readableCases options.inferring).expr e hPlain .reference
    exact (e.stops options).lex_of_render_ok hReadable hRender

/-- Names that hold quotes, a dot, a comma and a keyword, in an inferred table and its columns. -/
theorem names_read_back_quoted :
    let relation : Relation := .aliased (.table (some "s\"") "t\".\"u") "\", \""
    let column : Expr := .column relation "c\""
    let query : Select :=
      { items := [.named column "FROM"], filters := [.binary .greater column (.literal "1")] }
    let columnSql := "\"\"\", \"\"\".\"c\"\"\""
    let sql := "SELECT " ++ columnSql ++ " \"FROM\" " ++
      "FROM \"s\"\"\".\"t\"\".\"\"u\" \"\"\", \"\"\" WHERE " ++ columnSql ++ " > 1"
    (Statement.select query).render ⟨.positional, true⟩ = .ok ⟨sql, [], .positional⟩ ∧
      (∃ outside,
        Identifier.lex sql =
          some (["\", \"", "c\"", "FROM", "s\"", "t\".\"u", "\", \"", "\", \"", "c\""],
            outside) ∧
          Identifier.delimiter ∉ outside) ∧
      column.write.render ⟨.named, false⟩ = .ok ⟨columnSql, [], .named⟩ ∧
      ∃ outside,
        Identifier.lex columnSql = some (["\", \"", "c\""], outside) ∧
          Identifier.delimiter ∉ outside := by
  intro relation column query columnSql sql
  have hColumn : column.Plain := .column (.aliased (.table _ _) _) _
  have hLiteral : (Expr.literal "1").Plain := .literal (by decide)
  have hQuery : query.Plain := by
    refine .clauses ?_ ?_ ?_ ?_ ?_ ?_
    · exact List.forall_mem_singleton.mpr (.named hColumn _)
    · exact fun f hf => absurd hf List.not_mem_nil
    · exact List.forall_mem_singleton.mpr (.binary _ hColumn hLiteral)
    · exact fun e he => absurd he List.not_mem_nil
    · exact fun e he => absurd he List.not_mem_nil
    · exact fun k hk => absurd hk List.not_mem_nil
  have hRender : (Statement.select query).render ⟨.positional, true⟩ =
      .ok ⟨sql, [], .positional⟩ := by decide +kernel
  have hNames : (Statement.select query).write.names ⟨.positional, true⟩ =
      ["\", \"", "c\"", "FROM", "s\"", "t\".\"u", "\", \"", "\", \"", "c\""] := by
    decide +kernel
  have hRenderColumn : column.write.render ⟨.named, false⟩ = .ok ⟨columnSql, [], .named⟩ := by
    decide +kernel
  have hNamesColumn : column.write.names ⟨.named, false⟩ = ["\", \"", "c\""] := by
    decide +kernel
  have hRead := (names_read_back ⟨.positional, true⟩ _).1 (.select query) hQuery hRender
  have hReadColumn := (names_read_back ⟨.named, false⟩ _).2 column hColumn hRenderColumn
  rw [hNames] at hRead
  rw [hNamesColumn] at hReadColumn
  exact ⟨hRender, hRead, hRenderColumn, hReadColumn⟩

end QueryText

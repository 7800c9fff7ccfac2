import QueryText.Proofs.Declarations.Text
import QueryText.Proofs.Inference

/-!
# QueryText — derived tables are sealed

What a derived table holds cannot be seen from outside: the relations that a statement mentions,
declares and infers have the same names whatever the queries of its derived tables are. And the
other way round nothing outside gets in: with named placeholders a derived table is written,
wherever it stands, with the text that its query has on its own, and it fails if that does.

## Main results

* `Statement.map_names_scope?_emptied` — the names in scope do not depend on the queries of derived
  tables.
* `Select.writtenAlone` — what a derived table is written as.
* `derived_tables_sealed` — both sides together.
-/

namespace QueryText

-- ---------------------------------------------------------------------------
-- Trees without the queries of their derived tables
-- ---------------------------------------------------------------------------

/-- A relation with an empty query where it is a derived table. -/
def Relation.emptied : Relation → Relation
  | .table schema name => .table schema name
  | .aliased relation name => .aliased relation.emptied name
  | .derived _ name => .derived {} name
  | .excluded => .excluded

mutual

/-- An expression with an empty query in every derived table. -/
def Expr.emptied : Expr → Expr
  | .column relation name => .column relation.emptied name
  | .star => .star
  | .allOf relation => .allOf relation.emptied
  | .argument tag => .argument tag
  | .literal text => .literal text
  | .raw sql operands => .raw sql (Expr.emptiedAll operands)
  | .group inner => .group inner.emptied
  | .list items => .list (Expr.emptiedAll items)
  | .unary op operand => .unary op operand.emptied
  | .binary op left right => .binary op left.emptied right.emptied
  | .logical op operands => .logical op (Expr.emptiedAll operands)
  | .call function operands => .call function (Expr.emptiedAll operands)
  | .named inner name => .named inner.emptied name
  | .subquery op query => .subquery op query.emptied

def Expr.emptiedAll : List Expr → List Expr
  | [] => []
  | expr :: exprs => expr.emptied :: Expr.emptiedAll exprs

def FromItem.emptied : FromItem → FromItem
  | .relation r => .relation r.emptied
  | .join kind left right none => .join kind left.emptied right.emptied none
  | .join kind left right (some predicate) =>
    .join kind left.emptied right.emptied (some predicate.emptied)

def FromItem.emptiedAll : List FromItem → List FromItem
  | [] => []
  | item :: items => item.emptied :: FromItem.emptiedAll items

def SortKey.emptied : SortKey → SortKey
  | ⟨expr, direction⟩ => ⟨expr.emptied, direction⟩

def SortKey.emptiedAll : List SortKey → List SortKey
  | [] => []
  | key :: keys => key.emptied :: SortKey.emptiedAll keys

/-- A query with an empty query in every derived table. -/
def Select.emptied : Select → Select
  | ⟨items, tables, filters, groups, groupFilters, order, limit, offset⟩ =>
    ⟨Expr.emptiedAll items, FromItem.emptiedAll tables, Expr.emptiedAll filters,
      Expr.emptiedAll groups, Expr.emptiedAll groupFilters, SortKey.emptiedAll order, limit,
      offset⟩

end

/-- The expressions of a list are emptied one by one. -/
theorem Expr.emptiedAll_eq_map (exprs : List Expr) :
    Expr.emptiedAll exprs = exprs.map Expr.emptied := by
  induction exprs with
  | nil => rfl
  | cons expr exprs ih => simp [Expr.emptiedAll, ih]

/-- The entries of a list of tables are emptied one by one. -/
theorem FromItem.emptiedAll_eq_map (items : List FromItem) :
    FromItem.emptiedAll items = items.map FromItem.emptied := by
  induction items with
  | nil => rfl
  | cons item items ih => simp [FromItem.emptiedAll, ih]

/-- Sort keys are emptied one by one. -/
theorem SortKey.emptiedAll_eq_map (keys : List SortKey) :
    SortKey.emptiedAll keys = keys.map SortKey.emptied := by
  induction keys with
  | nil => rfl
  | cons key keys ih => simp [SortKey.emptiedAll, ih]

def Assignments.emptied (assignments : Assignments) : Assignments :=
  ⟨assignments.entries.map fun entry => (entry.1, entry.2.emptied)⟩

def Update.emptied (update : Update) : Update where
  target := update.target.emptied
  assignments := update.assignments.emptied
  tables := update.tables.map FromItem.emptied
  filters := update.filters.map Expr.emptied
  returning := update.returning.map Expr.emptied

def Delete.emptied (delete : Delete) : Delete where
  target := delete.target.emptied
  tables := delete.tables.map FromItem.emptied
  filters := delete.filters.map Expr.emptied
  returning := delete.returning.map Expr.emptied

def Rows.emptied : Rows → Rows
  | .values rows => .values (rows.map (·.map Expr.emptied))
  | .query q => .query q.emptied
  | .defaults => .defaults

def Upsert.emptied (upsert : Upsert) : Upsert :=
  ⟨upsert.assignments.emptied, upsert.filters.map Expr.emptied⟩

def ConflictAction.emptied : ConflictAction → ConflictAction
  | .nothing => .nothing
  | .update upsert => .update upsert.emptied

def Conflict.emptied (conflict : Conflict) : Conflict :=
  ⟨conflict.targets.map Expr.emptied, conflict.action.emptied⟩

def Insert.emptied (insert : Insert) : Insert where
  target := insert.target.emptied
  columns := insert.columns
  rows := insert.rows.map Rows.emptied
  conflict := insert.conflict.map Conflict.emptied
  returning := insert.returning.map Expr.emptied
  misuse := insert.misuse

/-- A statement with an empty query in every derived table. Statements that differ only in those
queries are the same when they are emptied. -/
def Statement.emptied : Statement → Statement
  | .select statement => .select statement.emptied
  | .insert statement => .insert statement.emptied
  | .update statement => .update statement.emptied
  | .delete statement => .delete statement.emptied

-- ---------------------------------------------------------------------------
-- Sets of relations
-- ---------------------------------------------------------------------------

theorem Relation.name_emptied (r : Relation) : r.emptied.name = r.name := by
  cases r <;> rfl

/-- Emptying does not make a relation the excluded row, nor the other way round. -/
theorem Relation.isPseudo_emptied (r : Relation) : r.emptied.isPseudo = r.isPseudo := by
  cases r <;> rfl

theorem Relation.map_name_emptied (relations : List Relation) :
    (relations.map Relation.emptied).map Relation.name = relations.map Relation.name := by
  simp [Relation.name_emptied]

namespace RelationSet

def emptied (set : RelationSet) : RelationSet :=
  ⟨set.members.map Relation.emptied⟩

/-- Emptying the relations of a set does not change its names. -/
theorem names_emptied (set : RelationSet) : set.emptied.names = set.names :=
  Relation.map_name_emptied set.members

theorem contains_emptied (set : RelationSet) (name : String) :
    set.emptied.contains name = set.contains name := by
  rw [Bool.eq_iff_iff, contains_iff, contains_iff, names_emptied]

/-- Inserting an emptied relation leaves the emptied set, as it is told by names what is there. -/
theorem insert_emptied (set : RelationSet) (r : Relation) :
    set.emptied.insert r.emptied = (set.insert r).emptied := by
  unfold insert
  rw [Relation.isPseudo_emptied, Relation.name_emptied, contains_emptied]
  split
  · rfl
  · simp [emptied]

theorem insertAll_emptied (set : RelationSet) (relations : List Relation) :
    set.emptied.insertAll (relations.map Relation.emptied) = (set.insertAll relations).emptied := by
  induction relations generalizing set with
  | nil => rfl
  | cons r rs ih =>
    show (set.emptied.insert r.emptied).insertAll (rs.map Relation.emptied) = _
    rw [insert_emptied]
    exact ih (set.insert r)

/-- The set of emptied relations is the emptied set. -/
theorem ofList_emptied (relations : List Relation) :
    ofList (relations.map Relation.emptied) = (ofList relations).emptied :=
  insertAll_emptied {} relations

/-- The difference of emptied sets is the emptied difference. -/
theorem difference_emptied (set other : RelationSet) :
    set.emptied.difference other.emptied = (set.difference other).map Relation.emptied := by
  simp only [difference, emptied, List.filter_map, Function.comp_def, Relation.name_emptied]
  congr 1
  apply List.filter_congr
  intro r _
  exact congrArg not (contains_emptied other r.name)

end RelationSet

-- ---------------------------------------------------------------------------
-- Names in scope
-- ---------------------------------------------------------------------------

/-- An emptied entry declares the emptied relations. -/
theorem FromItem.declares_emptied (f : FromItem) :
    f.emptied.declares = f.declares.map Relation.emptied := by
  match f with
  | .relation r => rfl
  | .join kind left right predicate =>
    have hSides : left.emptied.declares ++ right.emptied.declares =
        (left.declares ++ right.declares).map Relation.emptied := by
      rw [declares_emptied left, declares_emptied right, List.map_append]
    -- the predicate declares nothing
    cases predicate with
    | none => exact hSides
    | some predicate => exact hSides

theorem FromItem.flatMap_declares_emptied (tables : List FromItem) :
    (tables.map FromItem.emptied).flatMap FromItem.declares =
      (tables.flatMap FromItem.declares).map Relation.emptied := by
  simp only [List.flatMap_map, List.map_flatMap, declares_emptied]

/-- What emptied tables declare is the emptied set of what they declare. -/
theorem declaredBy_emptied (tables : List FromItem) :
    declaredBy (tables.map FromItem.emptied) = (declaredBy tables).emptied := by
  rw [declaredBy, FromItem.flatMap_declares_emptied, RelationSet.ofList_emptied]
  rfl

/-- Emptied expressions mention the emptied relations, if it is so for each. -/
theorem Expr.mentionsAll_emptied {exprs : List Expr}
    (h : ∀ e ∈ exprs, e.emptied.mentions = e.mentions.map Relation.emptied) :
    Expr.mentionsAll (Expr.emptiedAll exprs) =
      (Expr.mentionsAll exprs).map Relation.emptied := by
  simp only [Expr.emptiedAll_eq_map, Expr.mentionsAll_eq_flatMap, List.flatMap_map,
    List.map_flatMap]
  exact List.flatMap_congr h

/-- Emptied sort keys mention the emptied relations, if it is so for each. -/
theorem SortKey.mentionsAll_emptied {keys : List SortKey}
    (h : ∀ k ∈ keys, k.expr.emptied.mentions = k.expr.mentions.map Relation.emptied) :
    SortKey.mentionsAll (SortKey.emptiedAll keys) =
      (SortKey.mentionsAll keys).map Relation.emptied := by
  simp only [SortKey.emptiedAll_eq_map, SortKey.mentionsAll_eq_flatMap, List.flatMap_map,
    List.map_flatMap]
  refine List.flatMap_congr ?_
  rintro ⟨expr, direction⟩ hk
  exact h _ hk

/-- An emptied query mentions the emptied relations, if it is so for its clauses. -/
theorem Select.mentions_emptied {query : Select}
    (hItems : ∀ e ∈ query.items, e.emptied.mentions = e.mentions.map Relation.emptied)
    (hFilters : ∀ e ∈ query.filters, e.emptied.mentions = e.mentions.map Relation.emptied)
    (hGroups : ∀ e ∈ query.groups, e.emptied.mentions = e.mentions.map Relation.emptied)
    (hGroupFilters : ∀ e ∈ query.groupFilters,
      e.emptied.mentions = e.mentions.map Relation.emptied)
    (hOrder : ∀ k ∈ query.order,
      k.expr.emptied.mentions = k.expr.mentions.map Relation.emptied) :
    query.emptied.mentions = query.mentions.map Relation.emptied := by
  obtain ⟨items, tables, filters, groups, groupFilters, order, limit, offset⟩ := query
  simp only [emptied, mentions, Expr.mentionsAll_emptied hItems, Expr.mentionsAll_emptied hFilters,
    Expr.mentionsAll_emptied hGroups, Expr.mentionsAll_emptied hGroupFilters,
    SortKey.mentionsAll_emptied hOrder, List.map_append]

/-- An emptied query declares the emptied relations. -/
theorem Select.declared_emptied (query : Select) :
    query.emptied.declared = query.declared.emptied := by
  obtain ⟨items, tables, filters, groups, groupFilters, order, limit, offset⟩ := query
  rw [emptied, declared, declared, FromItem.emptiedAll_eq_map]
  exact declaredBy_emptied tables

/-- What a tree mentions and what it leaves to be inferred are the same relations when it is
emptied, with empty queries in them as well. -/
theorem emptiedCases :
    TreeCases (fun _ => True)
      (fun e => e.emptied.mentions = e.mentions.map Relation.emptied)
      (fun _ => True)
      (fun q => q.emptied.inferred = q.inferred.map Relation.emptied) where
  table _ _ := trivial
  aliased _ _ _ := trivial
  derived _ _ _ := trivial
  excluded := trivial
  column _ _ _ := rfl
  star := rfl
  allOf _ _ := rfl
  argument _ := rfl
  literal _ := rfl
  raw _ _ h := Expr.mentionsAll_emptied h
  group _ h := h
  list _ h := Expr.mentionsAll_emptied h
  unary _ _ h := h
  binary _ left right hLeft hRight := by
    rw [Expr.emptied, Expr.mentions, Expr.mentions, hLeft, hRight, List.map_append]
  logical _ _ h := Expr.mentionsAll_emptied h
  call _ _ h := Expr.mentionsAll_emptied h
  named _ _ h := h
  subquery _ _ h := h
  listed _ _ := trivial
  join _ _ _ _ _ _ _ := trivial
  query q hItems _ hFilters hGroups hGroupFilters hOrder _ := by
    rw [Select.inferred_eq, Select.inferred_eq, Select.referenced, Select.referenced,
      Select.mentions_emptied hItems hFilters hGroups hGroupFilters hOrder,
      Select.declared_emptied, RelationSet.ofList_emptied, RelationSet.difference_emptied]

/-- Emptied expressions mention the emptied relations. -/
theorem Expr.mentionsAll_map_emptied (exprs : List Expr) :
    Expr.mentionsAll (exprs.map Expr.emptied) =
      (Expr.mentionsAll exprs).map Relation.emptied := by
  rw [← Expr.emptiedAll_eq_map]
  exact Expr.mentionsAll_emptied fun e _ => emptiedCases.expr e

/-- The names of the relations that a statement mentions, declares and infers. -/
structure ScopeNames where
  referenced : List String
  declared : List String
  inferred : List String

namespace Scope

def names (scope : Scope) : ScopeNames :=
  ⟨scope.referenced.names, scope.declared.names, scope.inferred.map Relation.name⟩

def emptied (scope : Scope) : Scope :=
  ⟨scope.referenced.emptied, scope.declared.emptied, scope.inferred.map Relation.emptied⟩

/-- Emptying the relations of a scope does not change its names. -/
theorem names_emptied (scope : Scope) : scope.emptied.names = scope.names := by
  rw [names, emptied, RelationSet.names_emptied, RelationSet.names_emptied,
    Relation.map_name_emptied]
  rfl

end Scope

/-- The scope of an emptied query is the emptied scope. -/
theorem Select.scope?_emptied (query : Select) :
    (Statement.select query.emptied).scope? =
      (Statement.select query).scope?.map Scope.emptied := by
  have hExpr := emptiedCases.expr
  have hMentions := query.mentions_emptied (fun e _ => hExpr e) (fun e _ => hExpr e)
    (fun e _ => hExpr e) (fun e _ => hExpr e) (fun k _ => hExpr k.expr)
  rw [Statement.scope?, referenced, hMentions, RelationSet.ofList_emptied, declared_emptied,
    emptiedCases.select query]
  rfl

/-- The scope of an emptied UPDATE is the emptied scope. -/
theorem Update.scope?_emptied (update : Update) :
    (Statement.update update.emptied).scope? =
      (Statement.update update).scope?.map Scope.emptied := by
  have hValues : update.emptied.assignments.values =
      update.assignments.values.map Expr.emptied := by
    simp [emptied, Assignments.emptied, Assignments.values]
  have hReferenced : update.emptied.referenced = update.referenced.emptied := by
    rw [referenced, mentions, hValues, referenced, ← RelationSet.ofList_emptied, mentions]
    simp only [emptied, Expr.mentionsAll_map_emptied, List.map_append]
  have hDeclared : update.emptied.declared = update.declared.emptied := by
    rw [declared, declared, ← RelationSet.ofList_emptied, List.map_cons,
      ← FromItem.flatMap_declares_emptied]
    rfl
  rw [Statement.scope?, inferred, hReferenced, hDeclared, RelationSet.difference_emptied]
  rfl

/-- The scope of an emptied DELETE is the emptied scope. -/
theorem Delete.scope?_emptied (delete : Delete) :
    (Statement.delete delete.emptied).scope? =
      (Statement.delete delete).scope?.map Scope.emptied := by
  have hReferenced : delete.emptied.referenced = delete.referenced.emptied := by
    rw [referenced, mentions, referenced, ← RelationSet.ofList_emptied, mentions]
    simp only [emptied, Expr.mentionsAll_map_emptied, List.map_append]
  have hDeclared : delete.emptied.declared = delete.declared.emptied := by
    rw [declared, declared, ← RelationSet.ofList_emptied, List.map_cons,
      ← FromItem.flatMap_declares_emptied]
    rfl
  rw [Statement.scope?, inferred, hReferenced, hDeclared, RelationSet.difference_emptied]
  rfl

/-- Emptying a statement empties the relations in its scope. -/
theorem Statement.scope?_emptied (statement : Statement) :
    statement.emptied.scope? = statement.scope?.map Scope.emptied := by
  cases statement with
  | select query => exact query.scope?_emptied
  | insert insert =>
    obtain ⟨target, columns, rows, conflict, returning, misuse⟩ := insert
    match rows with
    | some (.query query) => exact query.scope?_emptied
    | some (.values _) => rfl
    | some .defaults => rfl
    | none => rfl
  | update update => exact update.scope?_emptied
  | delete delete => exact delete.scope?_emptied

/-- The names in scope do not depend on the queries of derived tables. -/
theorem Statement.map_names_scope?_emptied (statement : Statement) :
    statement.emptied.scope?.map Scope.names = statement.scope?.map Scope.names := by
  rw [statement.scope?_emptied, Option.map_map]
  congr 1
  funext scope
  exact scope.names_emptied

-- ---------------------------------------------------------------------------
-- The text of a derived table
-- ---------------------------------------------------------------------------

/-- A named placeholder does not show its slot. -/
theorem Layout.spelling_named (l : Layout) (slots others : List String) :
    l.spelling .named slots = l.spelling .named others := by
  induction l generalizing slots others with
  | nil => rfl
  | cons piece l ih =>
    have hPiece : spellAll .named (piece.atom.fragments slots) =
        spellAll .named (piece.atom.fragments others) := by
      obtain ⟨path, atom⟩ := piece
      cases atom <;> rfl
    rw [spelling_cons, spelling_cons, hPiece, ih]

section Texts

variable {auto : Bool} {query : Select} {name : String}

/-- The arguments of a derived table are those of its query. -/
theorem Relation.tags_derived :
    ((Relation.derived query name).layout auto).tags = (query.layout auto auto).tags := by
  rw [layout, Layout.derived, Layout.tags_append, Layout.tags_append, Layout.tags_append,
    (Layout.Alike.inside _ _).tags]
  exact (List.append_nil _).trans (List.append_nil _)

/-- With named placeholders, the text of a derived table is that of its query on its own, between
parentheses. -/
theorem Relation.spelling_derived (slots : List String) :
    ((Relation.derived query name).layout auto).spelling .named slots =
      "(" ++ (query.layout auto auto).spelling .named [] ++ ") " ++ Identifier.quote name := by
  have hName : ∀ slots, (Layout.declaration name).spelling .named slots = Identifier.quote name :=
    fun _ => String.empty_append
  rw [layout, Layout.derived, Layout.spelling_append, Layout.spelling_append,
    Layout.spelling_append, hName, Layout.spelling_text, Layout.spelling_text,
    (Layout.Alike.inside _ _).spelling, Layout.spelling_named _ _ []]

/-- A query on its own fails for an anonymous argument with named placeholders, and for nothing
else; if it does not fail, its text is that of its clauses. -/
theorem Select.render_cases (query : Select) (options : Options) :
    (∃ tag ∈ (query.layout options.inferring options.inferring).tags,
        options.placeholder.Refuses tag) ∧
        (Statement.select query).render options = .error .anonymousArgument ∨
      (¬ ∃ tag ∈ (query.layout options.inferring options.inferring).tags,
          options.placeholder.Refuses tag) ∧
        ∃ rendering, (Statement.select query).render options = .ok rendering ∧
          rendering.sql =
            (query.layout options.inferring options.inferring).spelling options.placeholder [] := by
  have hTags : ((Statement.select query).layout options.inferring).tags =
      (query.layout options.inferring options.inferring).tags := by
    rw [Statement.layout, Layout.tags_append, (Layout.Alike.inside _ _).tags]
    exact List.append_nil _
  have hRender := (Statement.select query).render_eq_outcome options
  rw [Layout.outcome.eq_def, hTags] at hRender
  by_cases hRefused : ∃ tag ∈ (query.layout options.inferring options.inferring).tags,
      options.placeholder.Refuses tag
  · rw [if_pos hRefused] at hRender
    exact Or.inl ⟨hRefused, hRender⟩
  · rw [if_neg hRefused] at hRender
    refine Or.inr ⟨hRefused, _, hRender, ?_⟩
    rw [Statement.sql_of_ok hRender, Select.layout_eq]
    rfl

end Texts

/-- How a derived table is written in a pass: as its query is on its own. -/
structure Select.WrittenAlone (options : Options) (query : Select) (name : String) : Prop where
  /-- Wherever the pass declares it, whether queries infer there or not. -/
  declared : ∀ ctx : Context, ctx.initial = options →
    ctx.options.placeholder = options.placeholder →
    match (Statement.select query).render options with
    | .ok alone => ∃ after, (Relation.derived query name).declare ctx = .ok () after ∧
        after.text = ctx.text ++ ("(" ++ alone.sql ++ ") " ++ Identifier.quote name)
    | .error error => ∃ after, (Relation.derived query name).declare ctx = .error error after
  /-- In the text of every statement that declares it, at any depth. -/
  inside : ∀ (statement : Statement) (addedTo : Option String),
    ⟨.derived query name, addedTo⟩ ∈ statement.declarations options.inferring →
    match (Statement.select query).render options with
    | .ok alone => ∀ whole, statement.render options = .ok whole → ∃ before after,
        whole.sql = before ++ ("(" ++ alone.sql ++ ") " ++ Identifier.quote name) ++ after
    | .error error => statement.render options = .error error

/-- With named placeholders, every query is written in a derived table as it is on its own. -/
theorem Select.writtenAlone {options : Options} (hNamed : options.placeholder = .named)
    (query : Select) (name : String) : query.WrittenAlone options name := by
  have hTags : ((Relation.derived query name).layout options.inferring).tags =
      (query.layout options.inferring options.inferring).tags := Relation.tags_derived
  constructor
  case declared =>
    intro ctx hInitial hStyle
    have hPlay : (Relation.derived query name).declare ctx =
        ((Relation.derived query name).layout options.inferring).play ctx := by
      rw [← hInitial]
      exact (writeCases ctx.initial.inferring).relation _ ctx.naming ctx.options.inferring ctx rfl
    rw [hPlay]
    obtain ⟨hRefused, hRender⟩ | ⟨hAllowed, alone, hRender, hSql⟩ := query.render_cases options
    · rw [← hTags, ← hStyle] at hRefused
      obtain ⟨_, _, after, -, hFail, -⟩ := Layout.play_refused hRefused
      rw [hRender]
      exact ⟨after, hFail⟩
    · rw [← hTags, ← hStyle] at hAllowed
      obtain ⟨after, hDone, hWrote⟩ := Layout.play_ok
        fun tag hTag hRefused => hAllowed ⟨tag, hTag, hRefused⟩
      rw [hRender]
      refine ⟨after, hDone, ?_⟩
      rw [hWrote.text_eq, hStyle, hNamed, Relation.spelling_derived, hSql, hNamed]
  case inside =>
    intro statement addedTo hDeclared
    obtain ⟨hRefused, hRender⟩ | ⟨-, alone, hRender, hSql⟩ := query.render_cases options
    · have hInside : (query.layout options.inferring options.inferring).tags ⊆
          (statement.layout options.inferring).tags := by
        rw [(statement.alike_clauses _).tags, Layout.tags_closed, ← hTags]
        exact (statement.declares_pieces options.inferring).tags_subset _ hDeclared
      obtain ⟨tag, hTag, hRefuses⟩ := hRefused
      have hOutcome := statement.render_eq_outcome options
      rw [Layout.outcome.eq_def, if_pos ⟨tag, hInside hTag, hRefuses⟩] at hOutcome
      rw [hRender]
      exact hOutcome
    · rw [hRender]
      intro whole hWhole
      obtain ⟨start, before, after, slots, hText, -⟩ :=
        (Statement.placed_of_ok hWhole).exists_standsAt hDeclared
      refine ⟨before, after, ?_⟩
      rw [hText, hNamed, Relation.spelling_derived, hSql, hNamed]

/-- Derived tables are sealed. Statements that differ only in the queries of their derived tables
have the same names in scope; and with named placeholders, a derived table is written as its query
is on its own, and fails exactly if that does. -/
theorem derived_tables_sealed :
    (∀ s t : Statement, s.emptied = t.emptied →
        s.scope?.map Scope.names = t.scope?.map Scope.names) ∧
      ∀ options : Options, options.placeholder = .named →
        ∀ (query : Select) (name : String), query.WrittenAlone options name := by
  refine ⟨fun s t h => ?_, fun options hNamed query name => query.writtenAlone hNamed name⟩
  rw [← s.map_names_scope?_emptied, ← t.map_names_scope?_emptied, h]

/-- A derived table in a sub-query expression, which infers nothing itself, with two queries. -/
theorem derived_tables_sealed_nested :
    let query : Select := { items := [.column (.table none "u") "k", .argument "a"] }
    let other : Select := { items := [.star], tables := [.relation (.table none "v")] }
    let around (q : Select) : Statement := .select
      { items := [.column (.table none "t") "k"]
        filters := [.subquery .exists { tables := [.relation (.derived q "d")] }] }
    let whole : Rendering :=
      ⟨"SELECT \"t\".\"k\" FROM \"t\" WHERE EXISTS " ++
        "(SELECT FROM (SELECT \"u\".\"k\", :a FROM \"u\") \"d\")", ["a"], .named⟩
    (around query).scope?.map Scope.names = (around other).scope?.map Scope.names ∧
      (Statement.select query).render ⟨.named, true⟩ =
        .ok ⟨"SELECT \"u\".\"k\", :a FROM \"u\"", ["a"], .named⟩ ∧
      (around query).render ⟨.named, true⟩ = .ok whole ∧
      ∃ before after, whole.sql = before ++
        ("(" ++ "SELECT \"u\".\"k\", :a FROM \"u\"" ++ ") " ++ Identifier.quote "d") ++ after := by
  intro query other around whole
  have hAlone : (Statement.select query).render ⟨.named, true⟩ =
      .ok ⟨"SELECT \"u\".\"k\", :a FROM \"u\"", ["a"], .named⟩ := by
    decide +kernel
  have hWhole : (around query).render ⟨.named, true⟩ = .ok whole := by
    decide +kernel
  -- the relation that the statement infers is declared first
  have hDeclared : ⟨.derived query "d", none⟩ ∈ (around query).declarations true :=
    List.mem_cons_of_mem _ (List.mem_cons_self ..)
  obtain ⟨hNames, hTexts⟩ := derived_tables_sealed
  have hInside := (hTexts ⟨.named, true⟩ rfl query "d").inside (around query) none hDeclared
  rw [hAlone] at hInside
  exact ⟨hNames (around query) (around other) rfl, hAlone, hWhole, hInside whole hWhole⟩

end QueryText

import QueryText.Proofs.Layout.Basic
import QueryText.Proofs.TreeInduction
import QueryText.Render.Equations
import QueryText.Statement

/-!
# QueryText — the layouts of trees

What each tree is written as, by recursion on the tree alone. `auto` tells whether the pass infers
FROM lists at all: a derived table infers its own wherever it stands, a sub-query expression
never does, and the SELECT of an INSERT does as the whole pass.

As in the writer, the layouts of inferred declarations are collected with the relations that an
expression mentions, to keep the recursion on the data.

## Main results

* `draftCases` — the drafts that an expression collects are those of the relations it mentions.
* `Select.layout_eq` — the clauses of a query, one space between each two of them.
-/

namespace QueryText

open Layout (text)

mutual

def Relation.layout (auto : Bool) : Relation → Layout
  | .table none name => Layout.declaration name
  | .table (some schema) name => Layout.name schema ++ text "." ++ Layout.declaration name
  | .aliased relation name =>
    (relation.layout auto).anonymized ++ text " " ++ Layout.declaration name
  | .derived query name => Layout.derived query (query.layout auto auto) name
  | .excluded => text Relation.excludedName

/-- The layout of an expression under a naming. -/
def Expr.layout (auto : Bool) : Expr → Naming → Layout
  | .column relation name, naming => Layout.column naming relation.name name
  | .star, _ => text "*"
  | .allOf relation, naming => Layout.allOf naming relation.name
  | .argument tag, _ => Layout.argument tag
  | .literal s, _ => text s
  | .raw sql operands, naming => Layout.raw sql (Expr.layouts auto operands naming.inner)
  | .group inner, naming => Layout.parenthesized (inner.layout auto naming.inner)
  | .list items, naming => Layout.tuple (Expr.layouts auto items naming.inner)
  | .unary op operand, naming =>
    Layout.unary op operand.startsWithOperator
      (Layout.operand operand.isCompound (operand.layout auto naming.inner))
  | .binary op left right, naming =>
    Layout.binary op (Layout.operand left.isCompound (left.layout auto naming.inner))
      (Layout.operand right.isCompound (right.layout auto naming.inner))
  | .logical op operands, naming =>
    Layout.connected op (Expr.layouts auto operands naming.inner)
  | .call function operands, naming =>
    Layout.call function (Expr.layouts auto operands naming.inner)
  | .named inner name, naming => Layout.named naming (inner.layout auto .reference) name
  | .subquery op query, _ => Layout.subquery op query (query.layout auto false)

def Expr.layouts (auto : Bool) : List Expr → Naming → List Layout
  | [], _ => []
  | expr :: exprs, naming => expr.layout auto naming :: Expr.layouts auto exprs naming

/-- The relations that an expression mentions, with the layouts of their declarations. -/
def Expr.drafts (auto : Bool) : Expr → List (Entry Layout)
  | .column relation _ => [⟨relation, relation.layout auto⟩]
  | .star => []
  | .allOf relation => [⟨relation, relation.layout auto⟩]
  | .argument _ => []
  | .literal _ => []
  | .raw _ operands => Expr.draftsAll auto operands
  | .group inner => inner.drafts auto
  | .list items => Expr.draftsAll auto items
  | .unary _ operand => operand.drafts auto
  | .binary _ left right => left.drafts auto ++ right.drafts auto
  | .logical _ operands => Expr.draftsAll auto operands
  | .call _ operands => Expr.draftsAll auto operands
  | .named inner _ => inner.drafts auto
  | .subquery _ query => query.drafts auto

def Expr.draftsAll (auto : Bool) : List Expr → List (Entry Layout)
  | [] => []
  | expr :: exprs => expr.drafts auto ++ Expr.draftsAll auto exprs

/-- The layout of an entry of a FROM list. -/
def FromItem.layout (auto : Bool) : FromItem → Layout
  | .relation r => r.layout auto
  | .join kind left right predicate =>
    Layout.join kind (left.layout auto) right.isJoin (right.layout auto)
      (match predicate with
      | none => none
      | some condition => some (condition.layout auto .reference))

def FromItem.layouts (auto : Bool) : List FromItem → List Layout
  | [] => []
  | item :: items => item.layout auto :: FromItem.layouts auto items

def SortKey.layout (auto : Bool) : SortKey → Layout
  | ⟨expr, direction⟩ =>
    Layout.operand expr.isCompound (expr.layout auto .reference) ++
      text (" " ++ direction.keyword)

def SortKey.layouts (auto : Bool) : List SortKey → List Layout
  | [] => []
  | key :: keys => key.layout auto :: SortKey.layouts auto keys

def SortKey.drafts (auto : Bool) : SortKey → List (Entry Layout)
  | ⟨expr, _⟩ => expr.drafts auto

def SortKey.draftsAll (auto : Bool) : List SortKey → List (Entry Layout)
  | [] => []
  | key :: keys => key.drafts auto ++ SortKey.draftsAll auto keys

/-- The relations that a query infers, with the layouts of their declarations. -/
def Select.drafts (auto : Bool) : Select → List (Entry Layout)
  | ⟨items, tables, filters, groups, groupFilters, order, _, _⟩ =>
    Entry.missing (declaredBy tables)
      (Expr.draftsAll auto items ++ Expr.draftsAll auto filters ++
        Expr.draftsAll auto groups ++ Expr.draftsAll auto groupFilters ++
        SortKey.draftsAll auto order)

/-- The layout of a query, with or without the relations that it infers: its clauses in a fixed
order, one space between each two of them. -/
def Select.layout (auto : Bool) : Select → Bool → Layout
  | ⟨items, tables, filters, groups, groupFilters, order, limit, offset⟩, infer =>
    let missing : List (Entry Layout) :=
      if infer then
        Entry.missing (declaredBy tables)
          (Expr.draftsAll auto items ++ Expr.draftsAll auto filters ++
            Expr.draftsAll auto groups ++ Expr.draftsAll auto groupFilters ++
            SortKey.draftsAll auto order)
      else []
    Layout.spaced
      ([Layout.selectClause (Expr.layouts auto items .declaration)] ++
        Layout.tableClause "FROM" (FromItem.layouts auto tables) missing ++
        Layout.conditionClause "WHERE" (Expr.layouts auto filters .reference) ++
        Layout.listClause "GROUP BY" (Expr.layouts auto groups .reference) ++
        Layout.conditionClause "HAVING" (Expr.layouts auto groupFilters .reference) ++
        Layout.listClause "ORDER BY" (SortKey.layouts auto order) ++
        Layout.countClause "LIMIT" limit ++ Layout.countClause "OFFSET" offset)

end

/-- A relation with the layout of its declaration. -/
def Relation.draft (auto : Bool) (relation : Relation) : Entry Layout :=
  ⟨relation, relation.layout auto⟩

-- ---------------------------------------------------------------------------
-- The layouts as equations
-- ---------------------------------------------------------------------------

section Equations

variable (auto : Bool)

/-- The expressions of a list are laid out one by one. -/
theorem Expr.layouts_eq_map (exprs : List Expr) (naming : Naming) :
    Expr.layouts auto exprs naming = exprs.map (·.layout auto naming) := by
  induction exprs with
  | nil => rfl
  | cons expr exprs ih => simp [Expr.layouts, ih]

/-- The entries of a list of tables are laid out one by one. -/
theorem FromItem.layouts_eq_map (items : List FromItem) :
    FromItem.layouts auto items = items.map (·.layout auto) := by
  induction items with
  | nil => rfl
  | cons item items ih => simp [FromItem.layouts, ih]

/-- The sort keys of a list are laid out one by one. -/
theorem SortKey.layouts_eq_map (keys : List SortKey) :
    SortKey.layouts auto keys = keys.map (·.layout auto) := by
  induction keys with
  | nil => rfl
  | cons key keys ih => simp [SortKey.layouts, ih]

/-- The drafts of a list are those of the mentioned relations, if it is so for each expression. -/
theorem Expr.draftsAll_eq {exprs : List Expr}
    (h : ∀ e ∈ exprs, e.drafts auto = e.mentions.map (Relation.draft auto)) :
    Expr.draftsAll auto exprs = (Expr.mentionsAll exprs).map (Relation.draft auto) := by
  induction exprs with
  | nil => rfl
  | cons expr exprs ih =>
    rw [Expr.draftsAll, Expr.mentionsAll, List.map_append, h expr (List.mem_cons_self ..),
      ih fun e he => h e (List.mem_cons_of_mem _ he)]

/-- The drafts of sort keys are those of the mentioned relations, if it is so for each key. -/
theorem SortKey.draftsAll_eq {keys : List SortKey}
    (h : ∀ k ∈ keys, k.expr.drafts auto = k.expr.mentions.map (Relation.draft auto)) :
    SortKey.draftsAll auto keys = (SortKey.mentionsAll keys).map (Relation.draft auto) := by
  induction keys with
  | nil => rfl
  | cons key keys ih =>
    obtain ⟨expr, direction⟩ := key
    rw [SortKey.draftsAll, SortKey.mentionsAll, List.map_append,
      ih fun k hk => h k (List.mem_cons_of_mem _ hk)]
    congr 1
    exact h ⟨expr, direction⟩ (List.mem_cons_self ..)

/-- An expression has a draft for each relation that it mentions, and a query for each one that it
infers. -/
theorem draftCases :
    TreeCases (fun _ => True)
      (fun e => e.drafts auto = e.mentions.map (Relation.draft auto))
      (fun _ => True)
      (fun q => q.drafts auto = q.inferred.map (Relation.draft auto)) where
  table _ _ := trivial
  aliased _ _ _ := trivial
  derived _ _ _ := trivial
  excluded := trivial
  column _ _ _ := rfl
  star := rfl
  allOf _ _ := rfl
  argument _ := rfl
  literal _ := rfl
  raw _ _ h := Expr.draftsAll_eq auto h
  group _ h := h
  list _ h := Expr.draftsAll_eq auto h
  unary _ _ h := h
  binary _ left right hLeft hRight := by
    rw [Expr.drafts, Expr.mentions, hLeft, hRight, List.map_append]
  logical _ _ h := Expr.draftsAll_eq auto h
  call _ _ h := Expr.draftsAll_eq auto h
  named _ _ h := h
  subquery _ _ h := h
  listed _ _ := trivial
  join _ _ _ _ _ _ _ := trivial
  query q hItems _ hFilters hGroups hGroupFilters hOrder _ := by
    obtain ⟨items, tables, filters, groups, groupFilters, order, limit, offset⟩ := q
    rw [Select.drafts, Expr.draftsAll_eq auto hItems, Expr.draftsAll_eq auto hFilters,
      Expr.draftsAll_eq auto hGroups, Expr.draftsAll_eq auto hGroupFilters,
      SortKey.draftsAll_eq auto hOrder, ← List.map_append, ← List.map_append,
      ← List.map_append, ← List.map_append]
    exact Entry.missing_eq (Relation.layout auto) _ _

/-- The relations that a query has in its FROM list beyond the listed ones. -/
def Select.completion (query : Select) (infer : Bool) : List Relation :=
  if infer then query.inferred else []

/-- FROM is completed with nothing but what is inferred. -/
theorem Select.completion_subset (query : Select) (infer : Bool) :
    query.completion infer ⊆ query.inferred := by
  cases infer with
  | false => exact List.nil_subset _
  | true => exact List.Subset.refl _

/-- The clauses of a query. -/
def Select.clauses (query : Select) (infer : Bool) : List Layout :=
  [Layout.selectClause (query.items.map (·.layout auto .declaration))] ++
    Layout.tableClause "FROM" (query.tables.map (·.layout auto))
      ((query.completion infer).map (Relation.draft auto)) ++
    Layout.conditionClause "WHERE" (query.filters.map (·.layout auto .reference)) ++
    Layout.listClause "GROUP BY" (query.groups.map (·.layout auto .reference)) ++
    Layout.conditionClause "HAVING" (query.groupFilters.map (·.layout auto .reference)) ++
    Layout.listClause "ORDER BY" (query.order.map (·.layout auto)) ++
    Layout.countClause "LIMIT" query.limit ++ Layout.countClause "OFFSET" query.offset

/-- A query is laid out as its clauses with a space between each two of them. -/
theorem Select.layout_eq (query : Select) (infer : Bool) :
    query.layout auto infer = Layout.spaced (query.clauses auto infer) := by
  obtain ⟨items, tables, filters, groups, groupFilters, order, limit, offset⟩ := query
  have hDrafts := (draftCases auto).select
    ⟨items, tables, filters, groups, groupFilters, order, limit, offset⟩
  rw [Select.drafts] at hDrafts
  rw [Select.layout, hDrafts]
  simp only [Expr.layouts_eq_map, FromItem.layouts_eq_map, SortKey.layouts_eq_map,
    Select.clauses, Select.completion]
  cases infer <;> rfl

end Equations

end QueryText

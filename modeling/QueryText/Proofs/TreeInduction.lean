import QueryText.Proofs.RelationSet
import QueryText.Scope

/-!
# QueryText — induction over the trees of a query

The trees are one nested and mutual family, so a property of all of them takes an induction with
a companion for every kind of list. That induction is done once, here: `TreeCases` lists what
has to be shown at each constructor, and its eliminators give the property of every tree.

A relation that a query infers is no part of the query's own FROM list, yet its declaration is
written there. So a query comes with the property of the relations it infers as well, which
the columns deep inside its clauses provide.

## Main results

* `TreeCases.relation`, `TreeCases.expr`, `TreeCases.fromItem`, `TreeCases.select` — the property
  of every relation, expression, from item and query.
* `ExprCases.expr` — the property of every expression, where sub-queries are not looked into.
-/

namespace QueryText

/-- The cases of an induction over the trees of a query. -/
structure TreeCases (R : Relation → Prop) (E : Expr → Prop) (F : FromItem → Prop)
    (S : Select → Prop) : Prop where
  table : ∀ schema name, R (.table schema name)
  aliased : ∀ relation name, R relation → R (.aliased relation name)
  derived : ∀ query name, S query → R (.derived query name)
  excluded : R .excluded
  column : ∀ relation name, R relation → E (.column relation name)
  star : E .star
  allOf : ∀ relation, R relation → E (.allOf relation)
  argument : ∀ tag, E (.argument tag)
  literal : ∀ text, E (.literal text)
  raw : ∀ sql operands, (∀ e ∈ operands, E e) → E (.raw sql operands)
  group : ∀ inner, E inner → E (.group inner)
  list : ∀ items, (∀ e ∈ items, E e) → E (.list items)
  unary : ∀ op operand, E operand → E (.unary op operand)
  binary : ∀ op left right, E left → E right → E (.binary op left right)
  logical : ∀ op operands, (∀ e ∈ operands, E e) → E (.logical op operands)
  call : ∀ function operands, (∀ e ∈ operands, E e) → E (.call function operands)
  named : ∀ inner name, E inner → E (.named inner name)
  subquery : ∀ op query, S query → E (.subquery op query)
  listed : ∀ relation, R relation → F (.relation relation)
  join : ∀ kind left right predicate, F left → F right → (∀ e ∈ predicate, E e) →
    F (.join kind left right predicate)
  query : ∀ query : Select, (∀ e ∈ query.items, E e) → (∀ t ∈ query.tables, F t) →
    (∀ e ∈ query.filters, E e) → (∀ e ∈ query.groups, E e) →
    (∀ e ∈ query.groupFilters, E e) → (∀ k ∈ query.order, E k.expr) →
    (∀ r ∈ query.inferred, R r) → S query

-- ---------------------------------------------------------------------------
-- The induction
-- ---------------------------------------------------------------------------

variable {R : Relation → Prop} {E : Expr → Prop} {F : FromItem → Prop} {S : Select → Prop}

namespace TreeCases

mutual

/-- The property of a relation, with the queries inside of it. -/
theorem relation (h : TreeCases R E F S) : ∀ r : Relation, R r
  | .table schema name => h.table schema name
  | .aliased r name => h.aliased r name (relation h r)
  | .derived query name => h.derived query name (select_mentioned h query).1
  | .excluded => h.excluded

/-- The property of an expression, and of the relations that it mentions. -/
theorem expr_mentioned (h : TreeCases R E F S) :
    ∀ e : Expr, E e ∧ ∀ r ∈ e.mentions, R r
  | .column r name => ⟨h.column r name (relation h r), by simpa [Expr.mentions] using relation h r⟩
  | .star => ⟨h.star, by simp [Expr.mentions]⟩
  | .allOf r => ⟨h.allOf r (relation h r), by simpa [Expr.mentions] using relation h r⟩
  | .argument tag => ⟨h.argument tag, by simp [Expr.mentions]⟩
  | .literal text => ⟨h.literal text, by simp [Expr.mentions]⟩
  | .raw sql operands =>
    ⟨h.raw sql operands (exprs_mentioned h operands).1, (exprs_mentioned h operands).2⟩
  | .group inner => ⟨h.group inner (expr_mentioned h inner).1, (expr_mentioned h inner).2⟩
  | .list items => ⟨h.list items (exprs_mentioned h items).1, (exprs_mentioned h items).2⟩
  | .unary op operand =>
    ⟨h.unary op operand (expr_mentioned h operand).1, (expr_mentioned h operand).2⟩
  | .binary op left right => by
    obtain ⟨hLeft, hLeftMentions⟩ := expr_mentioned h left
    obtain ⟨hRight, hRightMentions⟩ := expr_mentioned h right
    refine ⟨h.binary op left right hLeft hRight, fun r hr => ?_⟩
    rcases List.mem_append.mp hr with hr | hr
    · exact hLeftMentions r hr
    · exact hRightMentions r hr
  | .logical op operands =>
    ⟨h.logical op operands (exprs_mentioned h operands).1, (exprs_mentioned h operands).2⟩
  | .call function operands =>
    ⟨h.call function operands (exprs_mentioned h operands).1, (exprs_mentioned h operands).2⟩
  | .named inner name =>
    ⟨h.named inner name (expr_mentioned h inner).1, (expr_mentioned h inner).2⟩
  | .subquery op query =>
    ⟨h.subquery op query (select_mentioned h query).1, (select_mentioned h query).2⟩

/-- The property of the expressions of a list, and of the relations that they mention. -/
theorem exprs_mentioned (h : TreeCases R E F S) : ∀ es : List Expr,
    (∀ e ∈ es, E e) ∧ ∀ r ∈ Expr.mentionsAll es, R r
  | [] => by simp [Expr.mentionsAll]
  | e :: es => by
    obtain ⟨hFirst, hFirstMentions⟩ := expr_mentioned h e
    obtain ⟨hRest, hRestMentions⟩ := exprs_mentioned h es
    refine ⟨List.forall_mem_cons.mpr ⟨hFirst, hRest⟩, fun r hr => ?_⟩
    rcases List.mem_append.mp hr with hr | hr
    · exact hFirstMentions r hr
    · exact hRestMentions r hr

/-- The property of sort keys, and of the relations that they mention. -/
theorem keys_mentioned (h : TreeCases R E F S) : ∀ keys : List SortKey,
    (∀ k ∈ keys, E k.expr) ∧ ∀ r ∈ SortKey.mentionsAll keys, R r
  | [] => by simp [SortKey.mentionsAll]
  | ⟨e, direction⟩ :: keys => by
    obtain ⟨hFirst, hFirstMentions⟩ := expr_mentioned h e
    obtain ⟨hRest, hRestMentions⟩ := keys_mentioned h keys
    refine ⟨List.forall_mem_cons.mpr ⟨hFirst, hRest⟩, fun r hr => ?_⟩
    rcases List.mem_append.mp hr with hr | hr
    · exact hFirstMentions r hr
    · exact hRestMentions r hr

/-- The property of an entry of a list of tables, with the predicates of its joins. -/
theorem fromItem (h : TreeCases R E F S) : ∀ f : FromItem, F f
  | .relation r => h.listed r (relation h r)
  | .join kind left right none =>
    h.join kind left right none (fromItem h left) (fromItem h right) (by simp)
  | .join kind left right (some predicate) =>
    h.join kind left right (some predicate) (fromItem h left) (fromItem h right)
      (by simpa using (expr_mentioned h predicate).1)

theorem fromItems (h : TreeCases R E F S) : ∀ fs : List FromItem, ∀ f ∈ fs, F f
  | [] => by simp
  | f :: fs => List.forall_mem_cons.mpr ⟨fromItem h f, fromItems h fs⟩

/-- The property of a query, and of the relations that it infers. -/
theorem select_mentioned (h : TreeCases R E F S) :
    ∀ query : Select, S query ∧ ∀ r ∈ query.inferred, R r
  | ⟨items, tables, filters, groups, groupFilters, order, limit, offset⟩ => by
    obtain ⟨hItems, hItemMentions⟩ := exprs_mentioned h items
    obtain ⟨hFilters, hFilterMentions⟩ := exprs_mentioned h filters
    obtain ⟨hGroups, hGroupMentions⟩ := exprs_mentioned h groups
    obtain ⟨hGroupFilters, hGroupFilterMentions⟩ := exprs_mentioned h groupFilters
    obtain ⟨hOrder, hOrderMentions⟩ := keys_mentioned h order
    have hInferred : ∀ r ∈ Select.inferred
        ⟨items, tables, filters, groups, groupFilters, order, limit, offset⟩, R r := by
      intro r hr
      have hMentioned := (RelationSet.mem_difference hr).1
      simp only [List.mem_append] at hMentioned
      rcases hMentioned with (((hr | hr) | hr) | hr) | hr
      · exact hItemMentions r hr
      · exact hFilterMentions r hr
      · exact hGroupMentions r hr
      · exact hGroupFilterMentions r hr
      · exact hOrderMentions r hr
    exact ⟨h.query _ hItems (fromItems h tables) hFilters hGroups hGroupFilters hOrder hInferred,
      hInferred⟩

end

theorem expr (h : TreeCases R E F S) (e : Expr) : E e :=
  (expr_mentioned h e).1

theorem select (h : TreeCases R E F S) (query : Select) : S query :=
  (select_mentioned h query).1

end TreeCases

-- ---------------------------------------------------------------------------
-- Expressions apart
-- ---------------------------------------------------------------------------

/-- The cases of an induction over expressions that does not look into relations and sub-queries. -/
structure ExprCases (E : Expr → Prop) : Prop where
  column : ∀ relation name, E (.column relation name)
  star : E .star
  allOf : ∀ relation, E (.allOf relation)
  argument : ∀ tag, E (.argument tag)
  literal : ∀ text, E (.literal text)
  raw : ∀ sql operands, (∀ e ∈ operands, E e) → E (.raw sql operands)
  group : ∀ inner, E inner → E (.group inner)
  list : ∀ items, (∀ e ∈ items, E e) → E (.list items)
  unary : ∀ op operand, E operand → E (.unary op operand)
  binary : ∀ op left right, E left → E right → E (.binary op left right)
  logical : ∀ op operands, (∀ e ∈ operands, E e) → E (.logical op operands)
  call : ∀ function operands, (∀ e ∈ operands, E e) → E (.call function operands)
  named : ∀ inner name, E inner → E (.named inner name)
  subquery : ∀ op query, E (.subquery op query)

namespace ExprCases

/-- An induction over expressions apart is one over all trees that asks nothing of the others. -/
theorem treeCases (h : ExprCases E) :
    TreeCases (fun _ => True) E (fun _ => True) (fun _ => True) where
  table _ _ := trivial
  aliased _ _ _ := trivial
  derived _ _ _ := trivial
  excluded := trivial
  column relation name _ := h.column relation name
  star := h.star
  allOf relation _ := h.allOf relation
  argument := h.argument
  literal := h.literal
  raw := h.raw
  group := h.group
  list := h.list
  unary := h.unary
  binary := h.binary
  logical := h.logical
  call := h.call
  named := h.named
  subquery op query _ := h.subquery op query
  listed _ _ := trivial
  join _ _ _ _ _ _ _ := trivial
  query _ _ _ _ _ _ _ _ := trivial

/-- Every expression has the property, whatever its relations and sub-queries are. -/
theorem expr (h : ExprCases E) (e : Expr) : E e :=
  h.treeCases.expr e

end ExprCases

end QueryText

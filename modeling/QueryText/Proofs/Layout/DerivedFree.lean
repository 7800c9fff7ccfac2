import QueryText.Proofs.Hereditary
import QueryText.Proofs.Layout.Statement

/-!
# QueryText — trees without derived tables

A derived table is the only part of a tree that minds whether its pass infers FROM lists: it infers
its own wherever the pass does. A tree without derived tables is laid out alike in both kinds of
pass. The relations that qualify its columns count as parts of the tree, for they may become
entries of a list of tables.

## Main results

* `derivedFree_hereditary` — what such a tree mentions is free of derived tables as well.
* `derivedFreeLayouts` — the layout of such a tree does not depend on the pass.
-/

namespace QueryText

-- ---------------------------------------------------------------------------
-- Trees without derived tables
-- ---------------------------------------------------------------------------

mutual

/-- Whether there is no derived table in a relation. -/
def Relation.derivedFree : Relation → Bool
  | .table .. => true
  | .aliased relation _ => relation.derivedFree
  | .derived .. => false
  | .excluded => true

/-- Whether there is no derived table in an expression, with the relations of its columns. -/
def Expr.derivedFree : Expr → Bool
  | .column relation _ => relation.derivedFree
  | .star => true
  | .allOf relation => relation.derivedFree
  | .argument _ => true
  | .literal _ => true
  | .raw _ operands => Expr.allDerivedFree operands
  | .group inner => inner.derivedFree
  | .list items => Expr.allDerivedFree items
  | .unary _ operand => operand.derivedFree
  | .binary _ left right => left.derivedFree && right.derivedFree
  | .logical _ operands => Expr.allDerivedFree operands
  | .call _ operands => Expr.allDerivedFree operands
  | .named inner _ => inner.derivedFree
  | .subquery _ query => query.derivedFree

def Expr.allDerivedFree : List Expr → Bool
  | [] => true
  | expr :: exprs => expr.derivedFree && Expr.allDerivedFree exprs

/-- Whether there is no derived table in an entry of a FROM list, with the predicates of its
joins. -/
def FromItem.derivedFree : FromItem → Bool
  | .relation relation => relation.derivedFree
  | .join _ left right none => left.derivedFree && right.derivedFree
  | .join _ left right (some predicate) =>
    left.derivedFree && right.derivedFree && predicate.derivedFree

def FromItem.allDerivedFree : List FromItem → Bool
  | [] => true
  | item :: items => item.derivedFree && FromItem.allDerivedFree items

def SortKey.derivedFree : SortKey → Bool
  | ⟨expr, _⟩ => expr.derivedFree

def SortKey.allDerivedFree : List SortKey → Bool
  | [] => true
  | key :: keys => key.derivedFree && SortKey.allDerivedFree keys

/-- Whether there is no derived table anywhere in a query. -/
def Select.derivedFree : Select → Bool
  | ⟨items, tables, filters, groups, groupFilters, order, _, _⟩ =>
    Expr.allDerivedFree items && FromItem.allDerivedFree tables &&
      Expr.allDerivedFree filters && Expr.allDerivedFree groups &&
      Expr.allDerivedFree groupFilters && SortKey.allDerivedFree order

end

/-- A list is free of derived tables if each expression is. -/
theorem Expr.allDerivedFree_iff {exprs : List Expr} :
    Expr.allDerivedFree exprs = true ↔ ∀ e ∈ exprs, e.derivedFree = true := by
  induction exprs with
  | nil => simp [Expr.allDerivedFree]
  | cons expr exprs ih => simp [Expr.allDerivedFree, ih]

/-- A list of tables is free of derived tables if each entry is. -/
theorem FromItem.allDerivedFree_iff {items : List FromItem} :
    FromItem.allDerivedFree items = true ↔ ∀ f ∈ items, f.derivedFree = true := by
  induction items with
  | nil => simp [FromItem.allDerivedFree]
  | cons item items ih => simp [FromItem.allDerivedFree, ih]

/-- Sort keys are free of derived tables if their expressions are. -/
theorem SortKey.allDerivedFree_iff {keys : List SortKey} :
    SortKey.allDerivedFree keys = true ↔ ∀ k ∈ keys, k.expr.derivedFree = true := by
  induction keys with
  | nil => simp [SortKey.allDerivedFree]
  | cons key keys ih =>
    obtain ⟨expr, direction⟩ := key
    simp [SortKey.allDerivedFree, SortKey.derivedFree, ih]

/-- A query is free of derived tables exactly if all its clauses are. -/
structure Select.DerivedFreeParts (query : Select) : Prop where
  items : ∀ e ∈ query.items, e.derivedFree = true
  tables : ∀ f ∈ query.tables, f.derivedFree = true
  filters : ∀ e ∈ query.filters, e.derivedFree = true
  groups : ∀ e ∈ query.groups, e.derivedFree = true
  groupFilters : ∀ e ∈ query.groupFilters, e.derivedFree = true
  order : ∀ k ∈ query.order, k.expr.derivedFree = true

/-- In a query that is free of derived tables every part is. -/
theorem Select.derivedFree_parts {query : Select} (h : query.derivedFree = true) :
    query.DerivedFreeParts := by
  obtain ⟨items, tables, filters, groups, groupFilters, order, limit, offset⟩ := query
  simp only [Select.derivedFree, Bool.and_eq_true, Expr.allDerivedFree_iff,
    FromItem.allDerivedFree_iff, SortKey.allDerivedFree_iff] at h
  obtain ⟨⟨⟨⟨⟨hItems, hTables⟩, hFilters⟩, hGroups⟩, hGroupFilters⟩, hOrder⟩ := h
  exact ⟨hItems, hTables, hFilters, hGroups, hGroupFilters, hOrder⟩

-- ---------------------------------------------------------------------------
-- What such a tree mentions
-- ---------------------------------------------------------------------------

/-- What a tree without derived tables mentions is free of them. -/
theorem derivedFree_hereditary :
    Hereditary (·.derivedFree = true) (·.derivedFree = true) (·.derivedFree = true) where
  column h := h
  allOf h := h
  part := by
    intro e h
    cases e with
    | column relation name => exact fun _ hMem => absurd hMem List.not_mem_nil
    | star => exact fun _ hMem => absurd hMem List.not_mem_nil
    | allOf relation => exact fun _ hMem => absurd hMem List.not_mem_nil
    | argument tag => exact fun _ hMem => absurd hMem List.not_mem_nil
    | literal text => exact fun _ hMem => absurd hMem List.not_mem_nil
    | subquery op q => exact fun _ hMem => absurd hMem List.not_mem_nil
    | raw sql operands => exact Expr.allDerivedFree_iff.mp h
    | list items => exact Expr.allDerivedFree_iff.mp h
    | logical op operands => exact Expr.allDerivedFree_iff.mp h
    | call function operands => exact Expr.allDerivedFree_iff.mp h
    | group inner => exact List.forall_mem_singleton.mpr h
    | unary op operand => exact List.forall_mem_singleton.mpr h
    | named inner name => exact List.forall_mem_singleton.mpr h
    | binary op left right =>
      rw [Expr.derivedFree, Bool.and_eq_true] at h
      exact List.forall_mem_cons.mpr ⟨h.1, List.forall_mem_singleton.mpr h.2⟩
  subquery h := h
  clause := by
    intro q h
    have hParts := Select.derivedFree_parts h
    simp only [Select.exprs, List.forall_mem_append, List.forall_mem_map]
    exact ⟨⟨⟨⟨hParts.items, hParts.filters⟩, hParts.groups⟩, hParts.groupFilters⟩, hParts.order⟩

-- ---------------------------------------------------------------------------
-- How such a tree is laid out
-- ---------------------------------------------------------------------------

/-- A list is laid out alike in both kinds of pass if its expressions are. -/
theorem Expr.layouts_derivedFree {exprs : List Expr} {naming : Naming}
    (hLayout : ∀ e ∈ exprs, e.derivedFree = true →
      ∀ naming, e.layout false naming = e.layout true naming)
    (h : Expr.allDerivedFree exprs = true) :
    Expr.layouts false exprs naming = Expr.layouts true exprs naming := by
  rw [Expr.layouts_eq_map, Expr.layouts_eq_map]
  apply List.map_congr_left
  exact fun e he => hLayout e he (Expr.allDerivedFree_iff.mp h e he) naming

/-- A sort key is laid out alike if its expression is. -/
theorem SortKey.layout_congr {key : SortKey}
    (h : key.expr.layout false .reference = key.expr.layout true .reference) :
    key.layout false = key.layout true := by
  obtain ⟨expr, direction⟩ := key
  rw [SortKey.layout, SortKey.layout, h]

/-- An inferred relation is entered alike if it is laid out alike. -/
theorem Relation.draft_congr {r : Relation} (h : r.layout false = r.layout true) :
    r.draft false = r.draft true := by
  rw [Relation.draft, Relation.draft, h]

/-- The layout of a tree without derived tables does not depend on whether the pass infers. -/
theorem derivedFreeLayouts :
    TreeCases (fun r => r.derivedFree = true → r.layout false = r.layout true)
      (fun e => e.derivedFree = true → ∀ naming, e.layout false naming = e.layout true naming)
      (fun f => f.derivedFree = true → f.layout false = f.layout true)
      (fun q => q.derivedFree = true → ∀ infer, q.layout false infer = q.layout true infer) where
  table schema _ _ := by cases schema <;> rfl
  aliased r name hRelation h := by
    rw [Relation.layout, Relation.layout, hRelation h]
  derived _ _ _ h := nomatch h
  excluded _ := rfl
  column _ _ _ _ _ := rfl
  star _ _ := rfl
  allOf _ _ _ _ := rfl
  argument _ _ _ := rfl
  literal _ _ _ := rfl
  raw sql operands hAll h naming := by
    rw [Expr.layout, Expr.layout, Expr.layouts_derivedFree hAll h]
  group inner hInner h naming := by
    rw [Expr.layout, Expr.layout, hInner h]
  list items hAll h naming := by
    rw [Expr.layout, Expr.layout, Expr.layouts_derivedFree hAll h]
  unary op operand hOperand h naming := by
    rw [Expr.layout, Expr.layout, hOperand h]
  binary op left right hLeft hRight h naming := by
    rw [Expr.derivedFree, Bool.and_eq_true] at h
    rw [Expr.layout, Expr.layout, hLeft h.1, hRight h.2]
  logical op operands hAll h naming := by
    rw [Expr.layout, Expr.layout, Expr.layouts_derivedFree hAll h]
  call function operands hAll h naming := by
    rw [Expr.layout, Expr.layout, Expr.layouts_derivedFree hAll h]
  named inner name hInner h naming := by
    rw [Expr.layout, Expr.layout, hInner h]
  subquery op q hQuery h naming := by
    rw [Expr.layout, Expr.layout, hQuery h]
  listed _ hRelation h := hRelation h
  join kind left right predicate hLeft hRight hOn h := by
    cases predicate with
    | none =>
      rw [FromItem.derivedFree, Bool.and_eq_true] at h
      rw [FromItem.layout, FromItem.layout, hLeft h.1, hRight h.2]
    | some condition =>
      rw [FromItem.derivedFree, Bool.and_eq_true, Bool.and_eq_true] at h
      rw [FromItem.layout, FromItem.layout, hLeft h.1.1, hRight h.1.2]
      simp only [hOn condition rfl h.2]
  query q hItems hTables hFilters hGroups hGroupFilters hOrder hInferred h infer := by
    obtain ⟨hItem, hTable, hFilter, hGroup, hGroupFilter, hKey⟩ := Select.derivedFree_parts h
    have hCompletion : ∀ r ∈ q.completion infer, r.layout false = r.layout true := by
      intro r hr
      have hMem := q.completion_subset infer hr
      exact hInferred r hMem (derivedFree_hereditary.inferred h r hMem)
    rw [Select.layout_eq, Select.layout_eq, Select.clauses, Select.clauses,
      List.map_congr_left fun e he => hItems e he (hItem e he) .declaration,
      List.map_congr_left fun f hf => hTables f hf (hTable f hf),
      List.map_congr_left fun r hr => Relation.draft_congr (hCompletion r hr),
      List.map_congr_left fun e he => hFilters e he (hFilter e he) .reference,
      List.map_congr_left fun e he => hGroups e he (hGroup e he) .reference,
      List.map_congr_left fun e he => hGroupFilters e he (hGroupFilter e he) .reference,
      List.map_congr_left fun k hk => SortKey.layout_congr (hOrder k hk (hKey k hk) .reference)]

-- ---------------------------------------------------------------------------
-- Lists of such trees
-- ---------------------------------------------------------------------------

/-- Expressions without derived tables are laid out alike in both kinds of pass. -/
theorem Expr.map_layout_derivedFree {exprs : List Expr} (naming : Naming)
    (h : Expr.allDerivedFree exprs = true) :
    exprs.map (·.layout false naming) = exprs.map (·.layout true naming) := by
  rw [← Expr.layouts_eq_map, ← Expr.layouts_eq_map]
  exact Expr.layouts_derivedFree (fun e _ => derivedFreeLayouts.expr e) h

/-- Entries of a list of tables are laid out alike if there are no derived tables in them. -/
theorem FromItem.map_layout_derivedFree {items : List FromItem}
    (h : FromItem.allDerivedFree items = true) :
    items.map (·.layout false) = items.map (·.layout true) :=
  List.map_congr_left fun f hf =>
    derivedFreeLayouts.fromItem f (FromItem.allDerivedFree_iff.mp h f hf)

/-- Inferred relations are entered alike if there are no derived tables among them. -/
theorem Relation.map_draft_derivedFree {relations : List Relation}
    (h : ∀ r ∈ relations, r.derivedFree = true) :
    relations.map (Relation.draft false) = relations.map (Relation.draft true) :=
  List.map_congr_left fun r hr => Relation.draft_congr (derivedFreeLayouts.relation r (h r hr))

end QueryText

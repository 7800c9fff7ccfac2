import QueryText.Proofs.Inference
import QueryText.Proofs.TreeInduction

/-!
# QueryText — what mentioned relations inherit

The relations that a tree mentions are those of its columns and those that its sub-queries leave to
be inferred. So a property that passes from a tree on to its parts passes on to the relations that
the tree mentions, which may become entries of a list of tables.

## Main results

* `Hereditary.mentionsAll` — what plain expressions mention has the property.
* `Hereditary.inferred`, `Hereditary.update_inferred`, `Hereditary.delete_inferred` — so has what a
  statement infers.
-/

namespace QueryText

/-- Properties that pass from a tree on to what its mentions are collected from. -/
structure Hereditary (R : Relation → Prop) (E : Expr → Prop) (S : Select → Prop) : Prop where
  column : ∀ {relation name}, E (.column relation name) → R relation
  allOf : ∀ {relation}, E (.allOf relation) → R relation
  part : ∀ {e}, E e → ∀ inner ∈ e.parts, E inner
  subquery : ∀ {op query}, E (.subquery op query) → S query
  clause : ∀ {query}, S query → ∀ e ∈ query.exprs, E e

namespace Hereditary

variable {R : Relation → Prop} {E : Expr → Prop} {S : Select → Prop}

/-- What expressions mention, given what each of them does. -/
theorem mentions_of {exprs : List Expr} (hEach : ∀ e ∈ exprs, E e → ∀ r ∈ e.mentions, R r)
    (hAll : ∀ e ∈ exprs, E e) : ∀ r ∈ exprs.flatMap Expr.mentions, R r := by
  intro r hr
  obtain ⟨e, he, hMem⟩ := List.mem_flatMap.mp hr
  exact hEach e he (hAll e he) r hMem

/-- An expression that cites nothing at its top mentions what its parts mention. -/
theorem compound (h : Hereditary R E S) {e : Expr} (hNone : e.cites = [])
    (hParts : ∀ inner ∈ e.parts, E inner → ∀ r ∈ inner.mentions, R r) (he : E e) :
    ∀ r ∈ e.mentions, R r := by
  rw [e.mentions_eq, hNone, List.nil_append]
  exact mentions_of hParts (h.part he)

/-- A hereditary property is handed on to what an expression mentions and to what a query infers. -/
theorem treeCases (h : Hereditary R E S) :
    TreeCases (fun _ => True) (fun e => E e → ∀ r ∈ e.mentions, R r) (fun _ => True)
      (fun q => S q → ∀ r ∈ q.inferred, R r) where
  table _ _ := trivial
  aliased _ _ _ := trivial
  derived _ _ _ := trivial
  excluded := trivial
  column _ _ _ he := List.forall_mem_singleton.mpr (h.column he)
  star := h.compound rfl fun _ hMem => absurd hMem List.not_mem_nil
  allOf _ _ he := List.forall_mem_singleton.mpr (h.allOf he)
  argument _ := h.compound rfl fun _ hMem => absurd hMem List.not_mem_nil
  literal _ := h.compound rfl fun _ hMem => absurd hMem List.not_mem_nil
  raw _ _ hAll := h.compound rfl hAll
  group _ hInner := h.compound rfl (List.forall_mem_singleton.mpr hInner)
  list _ hAll := h.compound rfl hAll
  unary _ _ hOperand := h.compound rfl (List.forall_mem_singleton.mpr hOperand)
  binary _ _ _ hLeft hRight :=
    h.compound rfl (List.forall_mem_cons.mpr ⟨hLeft, List.forall_mem_singleton.mpr hRight⟩)
  logical _ _ hAll := h.compound rfl hAll
  call _ _ hAll := h.compound rfl hAll
  named _ _ hInner := h.compound rfl (List.forall_mem_singleton.mpr hInner)
  subquery _ _ hQuery he := hQuery (h.subquery he)
  listed _ _ := trivial
  join _ _ _ _ _ _ _ := trivial
  query q hItems _ hFilters hGroups hGroupFilters hOrder _ hq := by
    have hEach : ∀ e ∈ q.exprs, E e → ∀ r ∈ e.mentions, R r := by
      simp only [Select.exprs, List.forall_mem_append, List.forall_mem_map]
      exact ⟨⟨⟨⟨hItems, hFilters⟩, hGroups⟩, hGroupFilters⟩, hOrder⟩
    intro r hr
    rw [q.inferred_eq] at hr
    have hMentioned : r ∈ q.mentions := (RelationSet.mem_difference hr).1
    rw [q.mentions_eq_flatMap_exprs] at hMentioned
    exact mentions_of hEach (h.clause hq) r hMentioned

/-- What a list of expressions mentions has the property if the expressions have theirs. -/
theorem mentionsAll (h : Hereditary R E S) {exprs : List Expr} (hAll : ∀ e ∈ exprs, E e) :
    ∀ r ∈ Expr.mentionsAll exprs, R r := by
  rw [Expr.mentionsAll_eq_flatMap]
  exact mentions_of (fun e _ => h.treeCases.expr e) hAll

/-- What a query with the property infers has it. -/
theorem inferred (h : Hereditary R E S) {query : Select} (hQuery : S query) :
    ∀ r ∈ query.inferred, R r :=
  h.treeCases.select query hQuery

/-- What an UPDATE infers has the property if its expressions have theirs. -/
theorem update_inferred (h : Hereditary R E S) {update : Update}
    (hValues : ∀ e ∈ update.assignments.values, E e) (hFilters : ∀ e ∈ update.filters, E e)
    (hReturning : ∀ e ∈ update.returning, E e) : ∀ r ∈ update.inferred, R r := by
  have hMentions : ∀ r ∈ update.mentions, R r := by
    simp only [Update.mentions, List.forall_mem_append]
    exact ⟨⟨h.mentionsAll hValues, h.mentionsAll hFilters⟩, h.mentionsAll hReturning⟩
  exact fun r hr => hMentions r (RelationSet.mem_difference hr).1

/-- What a DELETE infers has the property if its expressions have theirs. -/
theorem delete_inferred (h : Hereditary R E S) {delete : Delete}
    (hFilters : ∀ e ∈ delete.filters, E e) (hReturning : ∀ e ∈ delete.returning, E e) :
    ∀ r ∈ delete.inferred, R r := by
  have hMentions : ∀ r ∈ delete.mentions, R r := by
    simp only [Delete.mentions, List.forall_mem_append]
    exact ⟨h.mentionsAll hFilters, h.mentionsAll hReturning⟩
  exact fun r hr => hMentions r (RelationSet.mem_difference hr).1

end Hereditary

end QueryText

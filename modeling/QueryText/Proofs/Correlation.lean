import QueryText.Proofs.Inference
import QueryText.Statement

/-!
# QueryText — what a sub-query asks of the query around it

A sub-query expression asks the query around it for the relations that its clauses mention and its
FROM list does not declare, and the query around it declares them. The `ON` predicates of its
joins are not looked into: a relation that nothing but a predicate mentions is asked for by
nobody, and the text refers to a name that no list declares.

## Main results

* `Select.Uses.declares` — what a sub-query infers is declared around it.
* `Select.inferred_withoutPredicates` — predicates have no part in what a query infers.
* `Select.predicate_relation_undeclared` — a relation that only a predicate mentions is lost.
* `Select.predicate_relation_exposed_iff` — a relation of a predicate is asked for exactly if
  another clause mentions it too.
-/

namespace QueryText

-- ---------------------------------------------------------------------------
-- Sub-queries of a query
-- ---------------------------------------------------------------------------

/-- A query is the operand of a sub-query operator somewhere in an expression, though not inside of
another sub-query. -/
inductive Expr.Uses (query : Select) : Expr → Prop where
  | operand (op : SubqueryOp) : Uses query (.subquery op query)
  | part {e inner : Expr} : inner ∈ e.parts → Uses query inner → Uses query e

/-- What a sub-query infers is mentioned by the expressions around it. -/
theorem Expr.Uses.inferred_subset {query : Select} {e : Expr} (h : e.Uses query) :
    query.inferred ⊆ e.mentions := by
  induction h with
  | operand op => exact List.Subset.refl _
  | @part e inner hPart _ ih =>
    intro r hr
    rw [e.mentions_eq]
    exact List.mem_append_right _ (List.mem_flatMap.mpr ⟨inner, hPart, ih hr⟩)

namespace Select

/-- A query is an operand of a sub-query operator in the clauses of another one, FROM apart. -/
def Uses (outer query : Select) : Prop :=
  ∃ e ∈ outer.exprs, e.Uses query

/-- A name is declared by the FROM list that is written with inference on: by a listed entry, at
any depth of joins, or by an inferred one. -/
def Declares (outer : Select) (name : String) : Prop :=
  name ∈ Relation.declaredNames (outer.tables.flatMap FromItem.declares ++ outer.inferred)

/-- The FROM list declares every relation that the clauses mention and that needs a
declaration. -/
theorem declares_of_mem_mentions {outer : Select} {r : Relation} (hr : r ∈ outer.mentions)
    (hNot : r.isPseudo = false) : outer.Declares r.name := by
  rw [Declares, Relation.mem_declaredNames]
  rcases RelationSet.mention_cases (outer.tables.flatMap FromItem.declares) hr with
    hPseudo | ⟨d, hd, hReal, hName⟩ | ⟨m, hm, hName⟩
  · rw [hNot] at hPseudo
    cases hPseudo
  · exact ⟨d, List.mem_append_left _ hd, hReal, hName⟩
  · refine ⟨m, List.mem_append_right _ ?_, (RelationSet.mem_difference hm).2, hName⟩
    rw [outer.inferred_eq]
    exact hm

/-- What a sub-query infers is declared around it. -/
theorem Uses.declares {query outer : Select} (h : outer.Uses query) {r : Relation}
    (hr : r ∈ query.inferred) : outer.Declares r.name := by
  obtain ⟨e, he, hUses⟩ := h
  have hMentioned : r ∈ outer.mentions := by
    rw [outer.mentions_eq_flatMap_exprs]
    exact List.mem_flatMap.mpr ⟨e, he, hUses.inferred_subset hr⟩
  have hNot : r.isPseudo = false := by
    rw [query.inferred_eq] at hr
    exact (RelationSet.mem_difference hr).2
  exact declares_of_mem_mentions hMentioned hNot

end Select

-- ---------------------------------------------------------------------------
-- Predicates of joins
-- ---------------------------------------------------------------------------

/-- The relations that the `ON` predicates of an entry mention, at any depth of joins. -/
def FromItem.predicateMentions : FromItem → List Relation
  | .relation _ => []
  | .join _ left right predicate =>
    left.predicateMentions ++ right.predicateMentions ++ predicate.elim [] Expr.mentions

/-- An entry without the `ON` predicates of its joins. -/
def FromItem.withoutPredicates : FromItem → FromItem
  | .relation r => .relation r
  | .join kind left right _ => .join kind left.withoutPredicates right.withoutPredicates none

/-- Predicates declare nothing. -/
theorem FromItem.declares_withoutPredicates (f : FromItem) :
    f.withoutPredicates.declares = f.declares := by
  match f with
  | .relation r => rfl
  | .join kind left right predicate =>
    rw [withoutPredicates, declares, declares, declares_withoutPredicates left,
      declares_withoutPredicates right]

namespace Select

/-- The relations that the `ON` predicates of a query mention. -/
def predicateMentions (query : Select) : List Relation :=
  query.tables.flatMap FromItem.predicateMentions

/-- A query without the `ON` predicates of its joins. -/
def withoutPredicates (query : Select) : Select :=
  { query with tables := query.tables.map FromItem.withoutPredicates }

/-- Predicates have no part in what a query infers. -/
theorem inferred_withoutPredicates (query : Select) :
    query.withoutPredicates.inferred = query.inferred := by
  have hDeclared : query.withoutPredicates.declared = query.declared := by
    simp only [declared, declaredBy, withoutPredicates, List.flatMap_map,
      FromItem.declares_withoutPredicates]
  rw [inferred_eq, inferred_eq, hDeclared]
  rfl

/-- A relation that is not declared is inferred, up to its name, exactly if a clause other than
FROM mentions one of its name. -/
theorem mem_names_inferred_iff (query : Select) {name : String}
    (hUndeclared : name ∉ Relation.declaredNames (query.tables.flatMap FromItem.declares)) :
    name ∈ query.inferred.map Relation.name ↔
      ∃ m ∈ query.mentions, m.isPseudo = false ∧ m.name = name := by
  rw [query.inferred_eq]
  constructor
  · intro h
    obtain ⟨m, hm, hName⟩ := List.mem_map.mp h
    have hMember := RelationSet.mem_difference hm
    exact ⟨m, hMember.1, hMember.2, hName⟩
  · rintro ⟨m, hm, hNot, rfl⟩
    have hComplete := (RelationSet.completes_difference query.mentions
      (query.tables.flatMap FromItem.declares)).complete m hm hNot
    exact hComplete.resolve_left hUndeclared

/-- A relation that only a predicate mentions is lost: the sub-query does not ask for it, and no
list declares the name that the text refers to. -/
theorem predicate_relation_undeclared :
    ∃ (query outer : Select) (r : Relation),
      outer.Uses query ∧ r ∈ query.predicateMentions ∧ r.isPseudo = false ∧
      r.name ∉ Relation.declaredNames (query.tables.flatMap FromItem.declares) ∧
      r.name ∉ query.inferred.map Relation.name ∧ ¬ outer.Declares r.name ∧
      (Statement.select outer).render ⟨.positional, true⟩ =
        .ok ⟨"SELECT \"o\".\"id\" FROM \"o\" WHERE EXISTS " ++
          "(SELECT 1 FROM \"b\" INNER JOIN \"c\" ON (\"c\".\"k\" = \"a\".\"k\"))",
          [], .positional⟩ := by
  refine ⟨
    { items := [.literal "1"]
      tables := [.innerJoin (.relation (.table none "b")) (.relation (.table none "c"))
        (.binary .equal (.column (.table none "c") "k") (.column (.table none "a") "k"))] },
    { items := [.column (.table none "o") "id"]
      filters := [.subquery .exists
        { items := [.literal "1"]
          tables := [.innerJoin (.relation (.table none "b")) (.relation (.table none "c"))
            (.binary .equal (.column (.table none "c") "k")
              (.column (.table none "a") "k"))] }] },
    .table none "a", ?_, ?_, rfl, ?_, ?_, ?_, ?_⟩
  · refine ⟨.subquery .exists _, ?_, .operand .exists⟩
    exact List.mem_cons_of_mem _ (List.mem_cons_self ..)
  · exact List.mem_cons_of_mem _ (List.mem_cons_self ..)
  · decide
  · decide
  · unfold Declares
    decide
  · rfl

/-- A relation of a predicate that the query does not declare is asked for exactly if a clause
other than FROM mentions one of its name; then the query around it declares the name. -/
theorem predicate_relation_exposed_iff {query outer : Select} (h : outer.Uses query) :
    query.withoutPredicates.inferred = query.inferred ∧
      ∀ r ∈ query.predicateMentions, r.isPseudo = false →
        r.name ∉ Relation.declaredNames (query.tables.flatMap FromItem.declares) →
        (r.name ∈ query.inferred.map Relation.name ↔
          ∃ m ∈ query.mentions, m.isPseudo = false ∧ m.name = r.name) ∧
        (r.name ∈ query.inferred.map Relation.name → outer.Declares r.name) := by
  refine ⟨query.inferred_withoutPredicates, fun r _ _ hUndeclared => ?_⟩
  refine ⟨query.mem_names_inferred_iff hUndeclared, fun hExposed => ?_⟩
  obtain ⟨m, hm, hName⟩ := List.mem_map.mp hExposed
  rw [← hName]
  exact h.declares hm

/-- A predicate and a filter mention the same relation: the filter gets it declared. -/
theorem predicate_relation_exposed_by_filter :
    ∃ query outer : Select, outer.Uses query ∧ .table none "a" ∈ query.predicateMentions ∧
      "a" ∈ query.inferred.map Relation.name ∧ outer.Declares "a" := by
  refine ⟨
    { tables := [.innerJoin (.relation (.table none "b")) (.relation (.table none "c"))
        (.binary .equal (.column (.table none "c") "k") (.column (.table none "a") "k"))]
      filters := [.binary .less (.column (.table none "a") "k")
        (.column (.table none "b") "k")] },
    { filters := [.subquery .exists
        { tables := [.innerJoin (.relation (.table none "b")) (.relation (.table none "c"))
            (.binary .equal (.column (.table none "c") "k") (.column (.table none "a") "k"))]
          filters := [.binary .less (.column (.table none "a") "k")
            (.column (.table none "b") "k")] }] }, ?_⟩
  refine (fun hUses => ⟨hUses, ?_⟩) ⟨_, List.mem_cons_self .., .operand .exists⟩
  refine (fun hMentioned => ⟨hMentioned, ?_⟩) (List.mem_cons_of_mem _ (List.mem_cons_self ..))
  obtain ⟨hIff, hDeclares⟩ :=
    (predicate_relation_exposed_iff hUses).2 _ hMentioned rfl (by decide)
  have hExposed := hIff.mpr ⟨.table none "a", List.mem_cons_self .., rfl, rfl⟩
  exact ⟨hExposed, hDeclares hExposed⟩

end Select

end QueryText

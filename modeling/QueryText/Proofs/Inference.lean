import QueryText.Proofs.RelationSet
import QueryText.Statement

/-!
# QueryText — exactly which relations are inferred

The relations that a statement adds to its list of tables are gathered by insertion into sets.
Here the outcome is said without sets: the mentioned relations in the order of the text, the
first one of each name, less the names that are declared.

## Main results

* `Expr.mentions_eq` — the relations of an expression are read off from left to right.
* `RelationSet.members_ofList`, `RelationSet.difference_ofList` — what insertion leaves in a set.
* `inferred_exact` — the inferred relations of every SELECT, UPDATE and DELETE.
-/

namespace QueryText

-- ---------------------------------------------------------------------------
-- Collection order
-- ---------------------------------------------------------------------------

namespace Expr

/-- The parts of an expression from left to right. A sub-query is no part: it is not looked
into. -/
def parts : Expr → List Expr
  | column .. | star | allOf _ | argument _ | literal _ | subquery .. => []
  | raw _ operands | list operands | logical _ operands | call _ operands => operands
  | group inner | unary _ inner | named inner _ => [inner]
  | binary _ left right => [left, right]

/-- The relations that an expression mentions at its top. A sub-query mentions what it leaves to be
inferred. -/
def cites : Expr → List Relation
  | column relation _ | allOf relation => [relation]
  | subquery _ query => query.inferred
  | star | argument _ | literal _ | raw .. | group _ | list _ | unary .. | binary .. | logical ..
  | call .. | named .. => []

/-- What an expression mentions is what it cites at its top and what its parts mention. -/
theorem mentions_eq (e : Expr) : e.mentions = e.cites ++ e.parts.flatMap mentions := by
  cases e with
  | raw sql operands => exact mentionsAll_eq_flatMap operands
  | list items => exact mentionsAll_eq_flatMap items
  | logical op operands => exact mentionsAll_eq_flatMap operands
  | call function operands => exact mentionsAll_eq_flatMap operands
  | binary op left right => simp [mentions, cites, parts]
  | group inner => simp [mentions, cites, parts]
  | unary op operand => simp [mentions, cites, parts]
  | named inner name => simp [mentions, cites, parts]
  | column relation name => rfl
  | star => rfl
  | allOf relation => rfl
  | argument tag => rfl
  | literal text => rfl
  | subquery op query => exact (List.append_nil _).symm

end Expr

/-- Sort keys mention what their expressions mention. -/
theorem SortKey.mentionsAll_eq_flatMap_expr (keys : List SortKey) :
    SortKey.mentionsAll keys = keys.flatMap fun key => key.expr.mentions := by
  rw [SortKey.mentionsAll_eq_flatMap]
  congr 1
  funext key
  cases key
  rfl

/-- A query mentions what its clauses mention, from the SELECT clause to ORDER BY. -/
theorem Select.mentions_eq (query : Select) :
    query.mentions =
      query.items.flatMap Expr.mentions ++ query.filters.flatMap Expr.mentions ++
        query.groups.flatMap Expr.mentions ++ query.groupFilters.flatMap Expr.mentions ++
        query.order.flatMap fun key => key.expr.mentions := by
  simp only [mentions, Expr.mentionsAll_eq_flatMap, SortKey.mentionsAll_eq_flatMap_expr]

/-- The expressions of the clauses, FROM apart. -/
def Select.exprs (query : Select) : List Expr :=
  query.items ++ query.filters ++ query.groups ++ query.groupFilters ++
    query.order.map SortKey.expr

/-- A query mentions what its expressions mention, one after the other. -/
theorem Select.mentions_eq_flatMap_exprs (query : Select) :
    query.mentions = query.exprs.flatMap Expr.mentions := by
  rw [query.mentions_eq]
  simp only [exprs, List.flatMap_append, List.flatMap_map]

/-- An UPDATE mentions what its values, its filters and its returned items mention. -/
theorem Update.mentions_eq (update : Update) :
    update.mentions =
      update.assignments.values.flatMap Expr.mentions ++ update.filters.flatMap Expr.mentions ++
        update.returning.flatMap Expr.mentions := by
  simp only [mentions, Expr.mentionsAll_eq_flatMap]

/-- A DELETE mentions what its filters and its returned items mention. -/
theorem Delete.mentions_eq (delete : Delete) :
    delete.mentions =
      delete.filters.flatMap Expr.mentions ++ delete.returning.flatMap Expr.mentions := by
  simp only [mentions, Expr.mentionsAll_eq_flatMap]

-- ---------------------------------------------------------------------------
-- What insertion leaves in a set
-- ---------------------------------------------------------------------------

namespace Relation

/-- The first relation of each name. -/
def firsts (relations : List Relation) : List Relation :=
  relations.eraseDupsBy fun later first => first.name == later.name

/-- The relations that need a declaration. -/
def listable (relations : List Relation) : List Relation :=
  relations.filter fun r => !r.isPseudo

/-- The names that a list of relations declares: a pseudo relation declares nothing. -/
def declaredNames (declared : List Relation) : List String :=
  (listable declared).map name

/-- The mentioned relations, the first one of each name, less the declared names. -/
def leftOver (mentioned declared : List Relation) : List Relation :=
  (firsts (listable mentioned)).filter fun r => r.name ∉ declaredNames declared

/-- A name is declared by a relation of that name that is not pseudo. -/
theorem mem_declaredNames {declared : List Relation} {name : String} :
    name ∈ declaredNames declared ↔ ∃ d ∈ declared, d.isPseudo = false ∧ d.name = name := by
  simp [declaredNames, listable, and_assoc]

end Relation

namespace RelationSet

/-- Insertion keeps what is there and adds the first relation of each new name. -/
theorem members_insertAll (set : RelationSet) (relations : List Relation) :
    (set.insertAll relations).members =
      set.members ++
        Relation.firsts ((Relation.listable relations).filter fun r => !set.contains r.name) := by
  induction relations generalizing set with
  | nil => exact (List.append_nil _).symm
  | cons r rs ih =>
    have hStep : set.insertAll (r :: rs) = (set.insert r).insertAll rs := rfl
    rw [hStep, ih]
    by_cases hSkip : (r.isPseudo || set.contains r.name) = true
    -- a relation that is refused is dropped on the right as well
    · have hSame : set.insert r = set := by simp [insert, hSkip]
      rw [hSame]
      congr 2
      cases hPseudo : r.isPseudo <;> simp_all [Relation.listable]
    -- the first relation of a name hides the later ones of that name
    · have hPseudo : r.isPseudo = false := by simp_all
      have hNew : set.contains r.name = false := by simp_all
      have hGrown : (set.insert r).members = set.members ++ [r] := by
        simp [insert, hPseudo, hNew]
      have hReal : Relation.listable (r :: rs) = r :: Relation.listable rs := by
        simp [Relation.listable, hPseudo]
      have hKept : ((r :: Relation.listable rs).filter fun r => !set.contains r.name) =
          r :: (Relation.listable rs).filter fun r => !set.contains r.name := by
        simp [hNew]
      rw [hGrown, hReal, hKept, Relation.firsts, Relation.firsts, List.eraseDupsBy_cons,
        List.filter_filter, List.append_assoc, List.singleton_append]
      congr 3
      apply List.filter_congr
      intro later _
      rw [contains_insert, hPseudo]
      cases set.contains later.name <;> cases r.name == later.name <;> rfl

/-- A set that starts empty has the first relation of each name that needs a declaration. -/
theorem members_ofList (relations : List Relation) :
    (ofList relations).members = Relation.firsts (Relation.listable relations) := by
  have hEmpty : ((Relation.listable relations).filter fun r => !contains {} r.name) =
      Relation.listable relations :=
    List.filter_eq_self.mpr fun r _ => rfl
  rw [ofList, members_insertAll, hEmpty]
  rfl

/-- The difference of two sets that were made of lists is what is left over. -/
theorem difference_ofList (mentioned declared : List Relation) :
    (ofList mentioned).difference (ofList declared) = Relation.leftOver mentioned declared := by
  rw [difference, members_ofList, Relation.leftOver]
  apply List.filter_congr
  intro r _
  have hIff : (ofList declared).contains r.name = true ↔
      r.name ∈ Relation.declaredNames declared := by
    rw [contains_ofList, Relation.mem_declaredNames]
  cases hDeclared : (ofList declared).contains r.name with
  | true => simp [hIff.mp hDeclared]
  | false =>
    have hNot : r.name ∉ Relation.declaredNames declared := by
      rw [← hIff, hDeclared]
      exact Bool.false_ne_true
    simp [hNot]

end RelationSet

-- ---------------------------------------------------------------------------
-- Statements
-- ---------------------------------------------------------------------------

/-- What is inferred from the mentioned and the declared relations, and what follows from that
about the names. -/
structure Relation.Completes (mentioned declared inferred : List Relation) : Prop where
  /-- The first relation of each name that is not declared, in the order of the text. -/
  exact : inferred = leftOver mentioned declared
  /-- No name comes twice. -/
  distinct : (inferred.map name).Nodup
  /-- No declared name comes again. -/
  disjoint : ∀ r ∈ inferred, r.name ∉ declaredNames declared
  /-- Every name that needs a declaration has one or comes. -/
  complete : ∀ r ∈ mentioned, r.isPseudo = false →
    r.name ∈ declaredNames declared ∨ r.name ∈ inferred.map name

/-- What is left over completes the declared relations. -/
theorem RelationSet.completes_difference (mentioned declared : List Relation) :
    Relation.Completes mentioned declared
      ((ofList mentioned).difference (ofList declared)) where
  exact := difference_ofList mentioned declared
  distinct := (nodup_names_ofList mentioned).sublist (List.filter_sublist.map _)
  disjoint := by
    rw [difference_ofList]
    intro r hr
    simpa using (List.mem_filter.mp hr).2
  complete := by
    intro r hr hNot
    rcases mention_cases declared hr with hPseudo | hDeclared | ⟨m, hm, hName⟩
    · rw [hNot] at hPseudo
      cases hPseudo
    · exact Or.inl (Relation.mem_declaredNames.mpr hDeclared)
    · exact Or.inr (List.mem_map.mpr ⟨m, hm, hName⟩)

/-- The relations that are inferred: those mentioned by the clauses in their order, from left to
right inside of every expression, with what a sub-query infers itself at its place; the first
one of each name; none that is declared by the target or at any depth of the listed tables, where
a join declares what its sides declare. -/
theorem inferred_exact :
    (∀ e : Expr, e.mentions = e.cites ++ e.parts.flatMap Expr.mentions) ∧
    (∀ relation : Relation, (FromItem.relation relation).declares = [relation]) ∧
    (∀ (kind : JoinKind) (left right : FromItem) (predicate : Option Expr),
      (FromItem.join kind left right predicate).declares = left.declares ++ right.declares) ∧
    (∀ query : Select, Relation.Completes
      (query.items.flatMap Expr.mentions ++ query.filters.flatMap Expr.mentions ++
        query.groups.flatMap Expr.mentions ++ query.groupFilters.flatMap Expr.mentions ++
        query.order.flatMap fun key => key.expr.mentions)
      (query.tables.flatMap FromItem.declares) query.inferred) ∧
    (∀ update : Update, Relation.Completes
      (update.assignments.values.flatMap Expr.mentions ++ update.filters.flatMap Expr.mentions ++
        update.returning.flatMap Expr.mentions)
      (update.target :: update.tables.flatMap FromItem.declares) update.inferred) ∧
    (∀ delete : Delete, Relation.Completes
      (delete.filters.flatMap Expr.mentions ++ delete.returning.flatMap Expr.mentions)
      (delete.target :: delete.tables.flatMap FromItem.declares) delete.inferred) := by
  refine ⟨Expr.mentions_eq, fun _ => rfl, fun _ _ _ _ => rfl, fun query => ?_, fun update => ?_,
    fun delete => ?_⟩
  · rw [query.inferred_eq, ← query.mentions_eq]
    exact RelationSet.completes_difference _ _
  · rw [← update.mentions_eq]
    exact RelationSet.completes_difference _ _
  · rw [← delete.mentions_eq]
    exact RelationSet.completes_difference _ _

/-- A query over a join in a join: what is declared inside of it does not come, the excluded row
neither declares anything nor comes, and of two relations with one name the first counts. -/
theorem inferred_exact_joined :
    let a : Relation := .table none "a"
    let b : Relation := .table none "b"
    let c : Relation := .table none "c"
    let joined : FromItem :=
      .join .inner (.relation b) (.join .natural (.relation c) (.relation .excluded) none)
        (some (.binary .equal (b.column "i") (c.column "i")))
    let query : Select :=
      { items := [(a.rename "x").column "i", c.column "i", Relation.excluded.column "i"]
        tables := [joined]
        filters := [.binary .less (.column (.table none "x") "i") (b.column "i"),
          .subquery .exists { items := [.allOf (.table none "d")] }] }
    joined.declares = [b, c, .excluded] ∧
      Relation.Completes
        [a.rename "x", c, .excluded, .table none "x", b, .table none "d"] [b, c, .excluded]
        query.inferred ∧
      query.inferred = [a.rename "x", .table none "d"] := by
  intro a b c joined query
  obtain ⟨-, -, -, hSelect, -, -⟩ := inferred_exact
  exact ⟨rfl, hSelect query, rfl⟩

-- ---------------------------------------------------------------------------
-- The scope of a statement
-- ---------------------------------------------------------------------------

/-- The relations that a statement mentions, declares and infers. -/
structure Scope where
  referenced : RelationSet
  declared : RelationSet
  inferred : List Relation

/-- The scope of a statement. An INSERT has none of its own; if it takes its rows from a query, that
of the query counts. -/
def Statement.scope? : Statement → Option Scope
  | .select statement => some ⟨statement.referenced, statement.declared, statement.inferred⟩
  | .insert statement =>
    match statement.rows with
    | some (.query query) => some ⟨query.referenced, query.declared, query.inferred⟩
    | some (.values _) | some .defaults | none => none
  | .update statement => some ⟨statement.referenced, statement.declared, statement.inferred⟩
  | .delete statement => some ⟨statement.referenced, statement.declared, statement.inferred⟩

end QueryText

import QueryText.Proofs.Correlation
import QueryText.Proofs.Hereditary

/-!
# QueryText — the excluded row and inference

The row proposed for insertion is there without a declaration, so under its own name it is never
inferred. A renaming of it is an alias like that of a table: nothing looks below the alias, and
the row becomes an entry of the list of tables wherever a table of that name would.

## Main results

* `Relation.renamed_concat` — of many renamings the last one counts.
* `RelationSet.mem_difference_iff` — which relations are left to be inferred.
* `Statement.excluded_row_inferred_iff` — when a renaming of the excluded row is inferred.
* `renamed_excluded_row_inferred` — one that is listed in two places.
-/

namespace QueryText

-- ---------------------------------------------------------------------------
-- Renaming many times
-- ---------------------------------------------------------------------------

namespace Relation

/-- The relation after a renaming to each of the names. -/
def renamed (relation : Relation) (names : List String) : Relation :=
  names.foldl rename relation

/-- Of several names only the last one is kept. -/
theorem rename_renamed (relation : Relation) (names : List String) (last : String) :
    (relation.renamed names).rename last = relation.rename last := by
  induction names generalizing relation with
  | nil => rfl
  | cons name names ih =>
    show ((relation.rename name).renamed names).rename last = relation.rename last
    rw [ih, rename_rename]

/-- Of many renamings the last one counts. -/
theorem renamed_concat (relation : Relation) (names : List String) (last : String) :
    relation.renamed (names ++ [last]) = relation.rename last := by
  rw [renamed, List.foldl_append]
  exact relation.rename_renamed names last

/-- The first relation of a name, among those that need a declaration. -/
def firstNamed (relations : List Relation) (name : String) : Option Relation :=
  relations.find? fun r => !r.isPseudo && r.name == name

theorem firstNamed_cons_of_ne {first : Relation} {rest : List Relation} {name : String}
    (h : (!first.isPseudo && first.name == name) = false) :
    firstNamed (first :: rest) name = firstNamed rest name :=
  List.find?_cons_of_neg (by rw [h]; exact Bool.false_ne_true)

theorem firstNamed_cons_of_eq {first : Relation} {rest : List Relation} {name : String}
    (h : (!first.isPseudo && first.name == name) = true) :
    firstNamed (first :: rest) name = some first :=
  List.find?_cons_of_pos h

end Relation

-- ---------------------------------------------------------------------------
-- Members of what is left over
-- ---------------------------------------------------------------------------

namespace RelationSet

/-- A relation gets into a set exactly if it was there, or if its name was not and it is the first
of that name. -/
theorem mem_insertAll_iff (set : RelationSet) (relations : List Relation) (r : Relation) :
    r ∈ (set.insertAll relations).members ↔
      r ∈ set.members ∨
        set.contains r.name = false ∧ Relation.firstNamed relations r.name = some r := by
  induction relations generalizing set with
  | nil => simp [insertAll, Relation.firstNamed]
  | cons first rest ih =>
    have hStep : set.insertAll (first :: rest) = (set.insert first).insertAll rest := rfl
    rw [hStep, ih, contains_insert]
    cases hNamed : !first.isPseudo && first.name == r.name with
    | false =>
      have hSame : r ∈ (set.insert first).members ↔ r ∈ set.members := by
        refine ⟨fun h => (mem_insert h).resolve_right ?_, fun h => ?_⟩
        · rintro ⟨rfl, hNot⟩
          simp [hNot] at hNamed
        · unfold insert
          split
          · exact h
          · exact List.mem_append_left _ h
      rw [hSame, Relation.firstNamed_cons_of_ne hNamed, Bool.or_false]
    | true =>
      rw [Relation.firstNamed_cons_of_eq hNamed, Bool.or_true]
      simp only [Bool.and_eq_true, Bool.not_eq_true', beq_iff_eq] at hNamed
      cases hTaken : set.contains r.name with
      | true => simp [insert, hNamed, hTaken]
      | false => simp [insert, hNamed, hTaken, eq_comm]

/-- What is left over: the first relation of each name that is not declared. -/
theorem mem_difference_iff (mentioned declared : List Relation) (r : Relation) :
    r ∈ (ofList mentioned).difference (ofList declared) ↔
      r.name ∉ Relation.declaredNames declared ∧
        Relation.firstNamed mentioned r.name = some r := by
  have hMember : r ∈ (ofList mentioned).members ↔
      Relation.firstNamed mentioned r.name = some r := by
    rw [ofList, mem_insertAll_iff]
    simp [contains]
  have hDeclared : (ofList declared).contains r.name = true ↔
      r.name ∈ Relation.declaredNames declared := by
    rw [contains_ofList, Relation.mem_declaredNames]
  rw [difference, List.mem_filter, hMember, Bool.not_eq_true', ← Bool.not_eq_true, hDeclared,
    and_comm]

end RelationSet

-- ---------------------------------------------------------------------------
-- Columns and stars
-- ---------------------------------------------------------------------------

/-- A relation has a column or its star in an expression, inside of sub-queries as well, though not
in their lists of tables. -/
inductive Expr.Refers (r : Relation) : Expr → Prop where
  | column (name : String) : Refers r (.column r name)
  | allOf : Refers r (.allOf r)
  | part {e inner : Expr} : inner ∈ e.parts → Refers r inner → Refers r e
  | subquery {op : SubqueryOp} {query : Select} {e : Expr} :
    e ∈ query.exprs → Refers r e → Refers r (.subquery op query)

/-- What holds of every relation that a tree refers to passes on to its parts. -/
theorem Expr.refers_hereditary (P : Relation → Prop) :
    Hereditary P (fun e => ∀ r, e.Refers r → P r)
      (fun query => ∀ e ∈ query.exprs, ∀ r, e.Refers r → P r) where
  column h := h _ (.column _)
  allOf h := h _ .allOf
  part h _ hInner r hr := h r (.part hInner hr)
  subquery h _ he r hr := h r (.subquery he hr)
  clause h := h

/-- What an expression mentions is referred to in it. -/
theorem Expr.refers_of_mem_mentions {e : Expr} {r : Relation} (h : r ∈ e.mentions) :
    e.Refers r :=
  (refers_hereditary e.Refers).treeCases.expr e (fun _ hr => hr) r h

-- ---------------------------------------------------------------------------
-- The excluded row
-- ---------------------------------------------------------------------------

/-- What the excluded row has to do with the relations that are inferred from expressions. -/
structure Relation.ExcludedRow (exprs : List Expr) (declared inferred : List Relation) : Prop where
  /-- It is not there under its own name. -/
  unnamed : .excluded ∉ inferred
  /-- Under another name it is there where a table would be, as its last renaming. -/
  renamed : ∀ (names : List String) (last : String),
    excluded.renamed (names ++ [last]) ∈ inferred ↔
      last ∉ declaredNames declared ∧
        firstNamed (exprs.flatMap Expr.mentions) last = some (.aliased .excluded last)
  /-- It is not there at all exactly if every renaming of it that is mentioned first of its name
  has that name declared. -/
  absent : (∀ names : List String, excluded.renamed names ∉ inferred) ↔
    ∀ name : String,
      firstNamed (exprs.flatMap Expr.mentions) name = some (.aliased .excluded name) →
        name ∈ declaredNames declared
  /-- A relation is there only if a column or a star refers to it. -/
  occurs : ∀ r ∈ inferred, ∃ e ∈ exprs, e.Refers r

/-- What is left over has the excluded row exactly under another name. -/
theorem Relation.excludedRow_difference (exprs : List Expr) (declared : List Relation) :
    ExcludedRow exprs declared
      ((RelationSet.ofList (exprs.flatMap Expr.mentions)).difference (.ofList declared)) := by
  have hUnnamed : .excluded ∉ (RelationSet.ofList (exprs.flatMap Expr.mentions)).difference
      (.ofList declared) :=
    fun h => nomatch (RelationSet.mem_difference h).2
  have hRenamed : ∀ (names : List String) (last : String),
      excluded.renamed (names ++ [last]) ∈
          (RelationSet.ofList (exprs.flatMap Expr.mentions)).difference (.ofList declared) ↔
        last ∉ declaredNames declared ∧
          firstNamed (exprs.flatMap Expr.mentions) last = some (.aliased .excluded last) := by
    intro names last
    rw [renamed_concat]
    exact RelationSet.mem_difference_iff _ declared (.aliased .excluded last)
  refine ⟨hUnnamed, hRenamed, ⟨fun h name hFirst => ?_, fun h names => ?_⟩, fun r hr => ?_⟩
  · refine Decidable.byContradiction fun hUndeclared => ?_
    exact h ([] ++ [name]) ((hRenamed [] name).mpr ⟨hUndeclared, hFirst⟩)
  · rcases List.eq_nil_or_concat names with rfl | ⟨before, last, rfl⟩
    · exact hUnnamed
    · rw [List.concat_eq_append, hRenamed]
      exact fun hInferred => hInferred.1 (h last hInferred.2)
  · obtain ⟨e, he, hMentioned⟩ := List.mem_flatMap.mp (RelationSet.mem_difference hr).1
    exact ⟨e, he, Expr.refers_of_mem_mentions hMentioned⟩

/-- What a query infers has the excluded row exactly under another name. -/
theorem Select.excludedRow (query : Select) :
    Relation.ExcludedRow query.exprs (query.tables.flatMap FromItem.declares) query.inferred := by
  rw [query.inferred_eq, Select.referenced, query.mentions_eq_flatMap_exprs]
  exact Relation.excludedRow_difference _ _

namespace Statement

/-- The expressions that a statement infers relations from. An INSERT has them from the query that
it takes its rows from. -/
def sources : Statement → List Expr
  | .select statement => statement.exprs
  | .insert statement =>
    match statement.rows with
    | some (.query query) => query.exprs
    | some (.values _) | some .defaults | none => []
  | .update statement =>
    statement.assignments.values ++ statement.filters ++ statement.returning
  | .delete statement => statement.filters ++ statement.returning

/-- The relations that a statement declares, be it as its target or in its list of tables. -/
def declares : Statement → List Relation
  | .select statement => statement.tables.flatMap FromItem.declares
  | .insert statement =>
    match statement.rows with
    | some (.query query) => query.tables.flatMap FromItem.declares
    | some (.values _) | some .defaults | none => []
  | .update statement => statement.target :: statement.tables.flatMap FromItem.declares
  | .delete statement => statement.target :: statement.tables.flatMap FromItem.declares

/-- The relations that a statement adds to its list of tables. -/
def inferred (statement : Statement) : List Relation :=
  statement.scope?.elim [] Scope.inferred

/-- Neither a statement nor a sub-query ever infers the excluded row under its own name. A chain of
renamings of it is inferred exactly if its last name is not declared and the first relation of
that name, among those that the clauses mention, is the renamed row. So it stays away exactly if
all such names are declared, and it does where no column and no star refers to a renaming. -/
theorem excluded_row_inferred_iff (statement : Statement) (op : SubqueryOp) (query : Select) :
    Relation.ExcludedRow statement.sources statement.declares statement.inferred ∧
      Relation.ExcludedRow query.exprs (query.tables.flatMap FromItem.declares)
        (Expr.subquery op query).mentions := by
  refine ⟨?_, query.excludedRow⟩
  cases statement with
  | select query => exact query.excludedRow
  | insert insert =>
    simp only [sources, declares, inferred, scope?]
    cases insert.rows with
    | none => exact Relation.excludedRow_difference [] []
    | some rows =>
      cases rows with
      | values rows => exact Relation.excludedRow_difference [] []
      | query query => exact query.excludedRow
      | defaults => exact Relation.excludedRow_difference [] []
  | update update =>
    show Relation.ExcludedRow _ _ update.inferred
    rw [Update.inferred, Update.referenced, update.mentions_eq, ← List.flatMap_append,
      ← List.flatMap_append]
    exact Relation.excludedRow_difference _ _
  | delete delete =>
    show Relation.ExcludedRow _ _ delete.inferred
    rw [Delete.inferred, Delete.referenced, delete.mentions_eq, ← List.flatMap_append]
    exact Relation.excludedRow_difference _ _

end Statement

/-- A sub-query that reads a renaming of the excluded row passes it on, and the query around it
writes the row as a table of its FROM list. -/
theorem renamed_excluded_row_inferred :
    ∃ query outer : Select,
      outer.Uses query ∧ Relation.excluded.renamed ["x"] ∈ query.inferred ∧
      Relation.excluded.renamed ["x"] ∈ outer.inferred ∧
      (Statement.select outer).render ⟨.positional, true⟩ =
        .ok ⟨"SELECT \"t\".\"id\" FROM \"t\", excluded \"x\" WHERE EXISTS " ++
          "(SELECT 1 FROM \"u\" WHERE \"u\".\"k\" = \"x\".\"k\")", [], .positional⟩ := by
  refine ⟨
    { items := [.literal "1"]
      tables := [.relation (.table none "u")]
      filters := [.binary .equal (.column (.table none "u") "k")
        (.column (.aliased .excluded "x") "k")] },
    { items := [.column (.table none "t") "id"]
      filters := [.subquery .exists
        { items := [.literal "1"]
          tables := [.relation (.table none "u")]
          filters := [.binary .equal (.column (.table none "u") "k")
            (.column (.aliased .excluded "x") "k")] }] }, ?_, ?_, ?_, rfl⟩
  · exact ⟨_, List.mem_cons_of_mem _ (List.mem_cons_self ..), .operand .exists⟩
  · exact List.mem_cons_self ..
  · exact List.mem_cons_of_mem _ (List.mem_cons_self ..)

end QueryText

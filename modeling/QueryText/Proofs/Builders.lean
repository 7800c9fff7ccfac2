import QueryText.Builder
import QueryText.Proofs.Inference
import QueryText.Render.Equations

/-!
# QueryText — absent clauses and empty ones

A statement is built with clauses that are absent until a step is taken on them, and held by other
trees with clauses that are lists. Here it is shown that this forgets nothing that can be seen: a
clause that is there and empty is written as nothing and gathers nothing, like one that is absent.
So the statement that is built and the one that is held are written alike in every context and have
the same relations in scope; and where a query is held by another tree, the tree treats it as the
query that is built.

## Main results

* `Clause.write_eq`, `Clause.gather_eq` — a clause is written and gathered like its entries.
* `Builder.write_eq`, `Builder.report_eq`, `Builder.scope?_eq` — a statement that is built is
  treated like the one it stands for.
* `Select.Builder.servesFor` — queries that are written alike and expose the same relations serve
  for one another inside of other trees.
-/

namespace QueryText

-- ---------------------------------------------------------------------------
-- Clauses
-- ---------------------------------------------------------------------------

namespace Clause

variable {α : Type}

/-- The clause of a list has the entries of the list. -/
theorem entries_ofList (entries : List α) : (ofList entries).entries = entries := by
  cases entries <;> rfl

/-- A clause whose body writes nothing for no entries is written by its entries. -/
theorem write_eq (clause : Clause α) {body : List α → Writer} (hEmpty : body [] = Writer.nothing) :
    clause.write body = body clause.entries := by
  cases clause with
  | none => exact hEmpty.symm
  | some entries => rfl

/-- A clause gathers the relations of its entries. -/
theorem gather_eq (clause : Clause α) (relations : α → List Relation) (set : RelationSet) :
    clause.gather relations set = set.insertAll (clause.entries.flatMap relations) := by
  cases clause <;> rfl

/-- A list of tables is written by its entries and the missing relations. -/
theorem writeTables_eq (keyword : String) (clause : Clause FromItem) (missing : List Relation) :
    clause.writeTables keyword missing =
      Writer.tableClause keyword (clause.entries.map FromItem.write)
        (missing.map Relation.entry) := by
  cases clause <;> rfl

/-- A condition is written by its predicates. -/
theorem writeFilters_eq (keyword : String) (clause : Clause Expr) :
    clause.writeFilters keyword =
      Writer.conditionClause keyword (clause.entries.map Expr.write) :=
  clause.write_eq rfl

/-- A RETURNING clause is written by its items. -/
theorem writeReturning_eq (clause : Clause Expr) :
    clause.writeReturning = Writer.itemClause "RETURNING" (clause.entries.map Expr.write) :=
  clause.write_eq rfl

end Clause

/-- Relations can be inserted in one go or in two. -/
theorem RelationSet.insertAll_append (set : RelationSet) (relations more : List Relation) :
    set.insertAll (relations ++ more) = (set.insertAll relations).insertAll more :=
  List.foldl_append

-- ---------------------------------------------------------------------------
-- SELECT
-- ---------------------------------------------------------------------------

namespace Select.Builder

/-- A query that is built mentions the relations of the one it stands for. -/
theorem referenced_eq (builder : Builder) : builder.referenced = builder.query.referenced := by
  simp only [referenced, Clause.gather_eq, ← RelationSet.insertAll_append, Select.referenced,
    RelationSet.ofList, Select.mentions, Expr.mentionsAll_eq_flatMap,
    SortKey.mentionsAll_eq_flatMap, query]

/-- A query that is built declares the relations of the one it stands for. -/
theorem declared_eq (builder : Builder) : builder.declared = builder.query.declared :=
  builder.tables.gather_eq FromItem.declares {}

/-- A query that is built infers the relations of the one it stands for. -/
theorem inferred_eq (builder : Builder) : builder.inferred = builder.query.inferred := by
  rw [inferred, builder.referenced_eq, builder.declared_eq, Select.inferred_eq]

/-- The SELECT clause is written by its items. -/
theorem writeItems_eq (items : Clause Expr) :
    writeItems items = Writer.selectClause (items.entries.map Expr.write) := by
  cases items with
  | none => rfl
  | some items => cases items <;> rfl

/-- A query that is built is written like the one it stands for. -/
theorem write_eq (builder : Builder) : builder.write = builder.query.write := by
  have hGroups : (builder.groups.write fun groups =>
      Writer.listClause "GROUP BY" (groups.map Expr.write)) =
        Writer.listClause "GROUP BY" (builder.groups.entries.map Expr.write) :=
    builder.groups.write_eq rfl
  have hOrder : (builder.order.write fun keys =>
      Writer.listClause "ORDER BY" (keys.map SortKey.write)) =
        Writer.listClause "ORDER BY" (builder.order.entries.map SortKey.write) :=
    builder.order.write_eq rfl
  rw [Select.write_eq, write]
  simp only [writeItems_eq, Clause.writeTables_eq, Clause.writeFilters_eq, hGroups, hOrder,
    builder.inferred_eq, Select.added]
  rfl

/-- Going on from a query is going on from that query. -/
theorem query_ofQuery (query : Select) : (ofQuery query).query = query := by
  cases query
  simp only [Builder.query, ofQuery, Clause.entries_ofList]

end Select.Builder

-- ---------------------------------------------------------------------------
-- UPDATE
-- ---------------------------------------------------------------------------

namespace Update.Builder

/-- An UPDATE that is built mentions the relations of the one it stands for. -/
theorem referenced_eq (builder : Builder) :
    builder.referenced = builder.statement.referenced := by
  have hValues : Clause.entries (builder.assignments.map Assignments.values) =
      (builder.assignments.getD {}).values := by
    cases builder.assignments <;> rfl
  simp only [referenced, Clause.gather_eq, ← RelationSet.insertAll_append, Update.referenced,
    RelationSet.ofList, Update.mentions, Expr.mentionsAll_eq_flatMap, statement, hValues]

/-- An UPDATE that is built declares the relations of the one it stands for. -/
theorem declared_eq (builder : Builder) : builder.declared = builder.statement.declared :=
  builder.tables.gather_eq FromItem.declares _

/-- An UPDATE that is built infers the relations of the one it stands for. -/
theorem inferred_eq (builder : Builder) : builder.inferred = builder.statement.inferred := by
  rw [inferred, builder.referenced_eq, builder.declared_eq, Update.inferred]

/-- Assignments that are there and empty count as absent ones. -/
theorem filter_assignments (builder : Builder) :
    (builder.assignments.filter fun assignments => !assignments.isEmpty) =
      if builder.statement.assignments.isEmpty then none
      else some builder.statement.assignments := by
  unfold statement
  cases builder.assignments with
  | none => rfl
  | some assignments => cases h : assignments.isEmpty <;> simp [Option.filter, h]

/-- An UPDATE that is built is written like the one it stands for. -/
theorem write_eq (builder : Builder) : builder.write = builder.statement.write := by
  unfold write Update.write
  rw [builder.filter_assignments]
  by_cases hEmpty : builder.statement.assignments.isEmpty = true
  · rw [if_pos hEmpty, if_pos hEmpty]
    rfl
  · rw [if_neg hEmpty, if_neg hEmpty]
    simp only [Clause.writeTables_eq, Clause.writeFilters_eq, Clause.writeReturning_eq,
      builder.inferred_eq]
    rfl

end Update.Builder

-- ---------------------------------------------------------------------------
-- DELETE
-- ---------------------------------------------------------------------------

namespace Delete.Builder

/-- A DELETE that is built mentions the relations of the one it stands for. -/
theorem referenced_eq (builder : Builder) :
    builder.referenced = builder.statement.referenced := by
  simp only [referenced, Clause.gather_eq, ← RelationSet.insertAll_append, Delete.referenced,
    RelationSet.ofList, Delete.mentions, Expr.mentionsAll_eq_flatMap, statement]

/-- A DELETE that is built declares the relations of the one it stands for. -/
theorem declared_eq (builder : Builder) : builder.declared = builder.statement.declared :=
  builder.tables.gather_eq FromItem.declares _

/-- A DELETE that is built infers the relations of the one it stands for. -/
theorem inferred_eq (builder : Builder) : builder.inferred = builder.statement.inferred := by
  rw [inferred, builder.referenced_eq, builder.declared_eq, Delete.inferred]

/-- A DELETE that is built is written like the one it stands for. -/
theorem write_eq (builder : Builder) : builder.write = builder.statement.write := by
  unfold write Delete.write
  simp only [Clause.writeTables_eq, Clause.writeFilters_eq, Clause.writeReturning_eq,
    builder.inferred_eq, statement]

end Delete.Builder

-- ---------------------------------------------------------------------------
-- Statements of any kind
-- ---------------------------------------------------------------------------

namespace Builder

/-- The scope of a statement while it is built. -/
def scope? : Builder → Option Scope
  | select builder => some ⟨builder.referenced, builder.declared, builder.inferred⟩
  | insert built => (Statement.insert built).scope?
  | update builder => some ⟨builder.referenced, builder.declared, builder.inferred⟩
  | delete builder => some ⟨builder.referenced, builder.declared, builder.inferred⟩

/-- What is built is of the same kind as the statement it stands for. -/
theorem kind_eq (builder : Builder) : builder.kind = builder.statement.kind := by
  cases builder <;> rfl

/-- What is built is written like the statement it stands for. -/
theorem write_eq (builder : Builder) : builder.write = builder.statement.write := by
  cases builder with
  | select builder => exact builder.write_eq
  | insert built => rfl
  | update builder => exact builder.write_eq
  | delete builder => exact builder.write_eq

/-- What is built is rendered like the statement it stands for, with the same events. -/
theorem report_eq (builder : Builder) (options : Options) :
    builder.report options = builder.statement.report options := by
  rw [report, Statement.report, builder.write_eq, builder.kind_eq]

/-- What is built has the scope of the statement it stands for. -/
theorem scope?_eq (builder : Builder) : builder.scope? = builder.statement.scope? := by
  cases builder with
  | select builder =>
    rw [scope?, builder.referenced_eq, builder.declared_eq, builder.inferred_eq]
    rfl
  | insert built => rfl
  | update builder =>
    rw [scope?, builder.referenced_eq, builder.declared_eq, builder.inferred_eq]
    rfl
  | delete builder =>
    rw [scope?, builder.referenced_eq, builder.declared_eq, builder.inferred_eq]
    rfl

end Builder

-- ---------------------------------------------------------------------------
-- Queries inside of other trees
-- ---------------------------------------------------------------------------

/-- A tree that holds one query does what another one asks for. Each field is about one of the
places where a tree holds a query; what it does there is said by the writer and the scope of the
other query while that is built. -/
structure Select.Builder.ServesFor (held built : Select.Builder) : Prop where
  /-- As a sub-query. -/
  subquery : ∀ op, (Expr.subquery op held.query).write = Writer.subquery op built.write
  /-- What a sub-query leaves to the query around it. -/
  exposed : ∀ op, (Expr.subquery op held.query).mentions = built.inferred
  /-- As a derived table. -/
  derived : ∀ name, (Relation.derived held.query name).declare = Writer.derived built.write name
  /-- As the rows of an INSERT. -/
  rows : Insert.writeRows (some (.query held.query)) = built.write

/-- Queries that are written alike and infer the same relations serve for one another. In particular
each query serves for itself: what a tree holds of it is all that counts. -/
theorem Select.Builder.servesFor {held built : Select.Builder} (hWrite : held.write = built.write)
    (hInferred : held.inferred = built.inferred) : held.ServesFor built := by
  have hQuery : held.query.write = built.write := held.write_eq.symm.trans hWrite
  constructor
  case subquery =>
    intro op
    rw [Expr.write, hQuery]
  case exposed =>
    intro op
    rw [Expr.mentions, ← held.inferred_eq, hInferred]
  case derived =>
    intro name
    rw [Relation.declare, hQuery]
  case rows => exact hQuery

end QueryText

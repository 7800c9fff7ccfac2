import QueryText.Proofs.Builders

/-!
# QueryText — the order of building steps

A SELECT, an UPDATE or a DELETE is built step by step, and each step extends one clause. How the
steps on different clauses are mixed does not matter, and neither does how a list is cut into
steps: what counts is what was passed to each clause, one after the other, and of limits and
offsets the last one. So steps that pass nothing change nothing, although they leave a clause that
is there and empty where there was none. And predicates that were passed one by one count as one
predicate that connects them.

## Main results

* `Select.build_eq`, `Update.build_eq`, `Delete.build_eq` — what a sequence of steps builds.
* `Select.Builder.query_build`, `Update.Builder.statement_build`, `Delete.Builder.statement_build` —
  taking steps on the clauses that are built is taking them on the statement.
* `SameCondition.connect` — several predicates and the one that connects them.
* `clause_steps_commute` — statements for which the same was passed cannot be told apart.
-/

namespace QueryText

-- ---------------------------------------------------------------------------
-- Sequences of steps
-- ---------------------------------------------------------------------------

section Steps

variable {α σ π : Type} {apply : α → σ → α}

/-- A sequence of steps extends a statement by what is passed, if each step does. -/
theorem foldl_eq_extend {extend : α → π → α} {passed : List σ → π}
    (hNil : ∀ a, extend a (passed []) = a)
    (hCons : ∀ a step steps,
      extend (apply a step) (passed steps) = extend a (passed (step :: steps)))
    (start : α) (steps : List σ) : steps.foldl apply start = extend start (passed steps) := by
  induction steps generalizing start with
  | nil => exact (hNil start).symm
  | cons step steps ih => rw [List.foldl_cons, ih, hCons]

/-- Steps that change nothing can be left out. -/
theorem foldl_filter_blank {isBlank : σ → Bool}
    (hBlank : ∀ a step, isBlank step = true → apply a step = a) (start : α) (steps : List σ) :
    (steps.filter fun step => !isBlank step).foldl apply start = steps.foldl apply start := by
  rw [List.foldl_filter]
  congr 1
  funext a step
  cases h : isBlank step with
  | true => exact (hBlank a step h).symm
  | false => rfl

/-- Steps on what is built are steps on what it stands for. -/
theorem foldl_of_step {β : Type} {plain : α → β} {applyPlain : β → σ → β}
    (hStep : ∀ a step, plain (apply a step) = applyPlain (plain a) step) (start : α)
    (steps : List σ) : plain (steps.foldl apply start) = steps.foldl applyPlain (plain start) :=
  (List.foldl_hom plain fun a step => (hStep a step).symm).symm

end Steps

-- ---------------------------------------------------------------------------
-- The steps of each statement
-- ---------------------------------------------------------------------------

namespace Select

/-- A step of building a SELECT. -/
inductive Step where
  | items (items : List Expr)
  | tables (tables : List FromItem)
  | filter (predicate : Expr)
  | groups (groups : List Expr)
  | groupFilter (predicate : Expr)
  | order (keys : List SortKey)
  | limit (count : Nat)
  | offset (count : Nat)

/-- The query after a step. -/
def apply (query : Select) : Step → Select
  | .items items => query.withItems items
  | .tables tables => query.withTables tables
  | .filter predicate => query.withFilter predicate
  | .groups groups => query.withGroups groups
  | .groupFilter predicate => query.withGroupFilter predicate
  | .order keys => query.withOrder keys
  | .limit count => query.withLimit count
  | .offset count => query.withOffset count

/-- The query that a sequence of steps makes of another one. -/
def build (start : Select) (steps : List Step) : Select :=
  steps.foldl apply start

/-- What is passed to the clauses of a SELECT. -/
structure Passed where
  items : List Expr
  tables : List FromItem
  filters : List Expr
  groups : List Expr
  groupFilters : List Expr
  order : List SortKey
  limit : Option Nat
  offset : Option Nat

/-- What a sequence of steps passes to each clause: the lists one after the other, the predicates in
order, and the last limit and offset. -/
def passed (steps : List Step) : Passed where
  items := steps.flatMap fun | .items items => items | _ => []
  tables := steps.flatMap fun | .tables tables => tables | _ => []
  filters := steps.filterMap fun | .filter predicate => some predicate | _ => none
  groups := steps.flatMap fun | .groups groups => groups | _ => []
  groupFilters := steps.filterMap fun | .groupFilter predicate => some predicate | _ => none
  order := steps.flatMap fun | .order keys => keys | _ => []
  limit := (steps.filterMap fun | .limit count => some count | _ => none).getLast?
  offset := (steps.filterMap fun | .offset count => some count | _ => none).getLast?

/-- A step that passes an empty list. -/
def Step.isBlank : Step → Bool
  | items passed | groups passed => passed.isEmpty
  | tables passed => passed.isEmpty
  | order passed => passed.isEmpty
  | filter _ | groupFilter _ | limit _ | offset _ => false

/-- A query with what was passed to its clauses. -/
def extend (query : Select) (passed : Passed) : Select where
  items := query.items ++ passed.items
  tables := query.tables ++ passed.tables
  filters := query.filters ++ passed.filters
  groups := query.groups ++ passed.groups
  groupFilters := query.groupFilters ++ passed.groupFilters
  order := query.order ++ passed.order
  limit := passed.limit.or query.limit
  offset := passed.offset.or query.offset

/-- A step and then what is passed later is what is passed from that step on. -/
theorem extend_apply (query : Select) (step : Step) (steps : List Step) :
    (query.apply step).extend (passed steps) = query.extend (passed (step :: steps)) := by
  cases step <;>
    simp [apply, extend, passed, withItems, withTables, withFilter, withGroups, withGroupFilter,
      withOrder, withLimit, withOffset, List.getLast?_cons]

/-- A sequence of steps extends every clause by what is passed to it. -/
theorem build_eq (start : Select) (steps : List Step) :
    start.build steps = start.extend (passed steps) := by
  refine foldl_eq_extend (fun query => ?_) extend_apply start steps
  cases query
  simp [extend, passed]

/-- A step that passes nothing changes nothing. -/
theorem apply_of_isBlank (query : Select) {step : Step} (h : step.isBlank = true) :
    query.apply step = query := by
  cases query
  cases step <;>
    simp_all [Step.isBlank, apply, withItems, withTables, withGroups, withOrder]

namespace Builder

/-- The query that is built, after a step. -/
def apply (builder : Builder) : Step → Builder
  | .items items => builder.withItems items
  | .tables tables => builder.withTables tables
  | .filter predicate => builder.withFilter predicate
  | .groups groups => builder.withGroups groups
  | .groupFilter predicate => builder.withGroupFilter predicate
  | .order keys => builder.withOrder keys
  | .limit count => builder.withLimit count
  | .offset count => builder.withOffset count

/-- What a sequence of steps builds. -/
def build (start : Builder) (steps : List Step) : Builder :=
  steps.foldl apply start

/-- A step on the clauses that are built is a step on the query. -/
theorem query_apply (builder : Builder) (step : Step) :
    (builder.apply step).query = builder.query.apply step := by
  cases step <;> rfl

/-- Steps on the clauses that are built are steps on the query. -/
theorem query_build (start : Builder) (steps : List Step) :
    (start.build steps).query = start.query.build steps :=
  foldl_of_step query_apply start steps

end Builder

end Select

namespace Update

/-- A step of building an UPDATE. -/
inductive Step where
  | set (column : String) (value : Expr)
  | tables (tables : List FromItem)
  | filter (predicate : Expr)
  | returning (items : List Expr)

/-- The statement after a step. -/
def apply (update : Update) : Step → Update
  | .set column value => update.set column value
  | .tables tables => update.withTables tables
  | .filter predicate => update.withFilter predicate
  | .returning items => update.withReturning items

/-- The statement that a sequence of steps makes of another one. -/
def build (start : Update) (steps : List Step) : Update :=
  steps.foldl apply start

/-- What is passed to the clauses of an UPDATE. -/
structure Passed where
  assignments : List (String × Expr)
  tables : List FromItem
  filters : List Expr
  returning : List Expr

/-- What a sequence of steps passes to each clause: the assignments and the predicates in order, and
the lists one after the other. -/
def passed (steps : List Step) : Passed where
  assignments := steps.filterMap fun | .set column value => some (column, value) | _ => none
  tables := steps.flatMap fun | .tables tables => tables | _ => []
  filters := steps.filterMap fun | .filter predicate => some predicate | _ => none
  returning := steps.flatMap fun | .returning items => items | _ => []

/-- A step that passes an empty list. -/
def Step.isBlank : Step → Bool
  | tables passed => passed.isEmpty
  | returning passed => passed.isEmpty
  | set .. | filter _ => false

/-- A statement with what was passed to its clauses. -/
def extend (update : Update) (passed : Passed) : Update where
  target := update.target
  assignments :=
    passed.assignments.foldl (fun assigned entry => assigned.set entry.1 entry.2)
      update.assignments
  tables := update.tables ++ passed.tables
  filters := update.filters ++ passed.filters
  returning := update.returning ++ passed.returning

theorem extend_apply (update : Update) (step : Step) (steps : List Step) :
    (update.apply step).extend (passed steps) = update.extend (passed (step :: steps)) := by
  cases step <;>
    simp [apply, extend, passed, Update.set, withTables, withFilter, withReturning]

/-- A sequence of steps extends every clause by what is passed to it. -/
theorem build_eq (start : Update) (steps : List Step) :
    start.build steps = start.extend (passed steps) := by
  refine foldl_eq_extend (fun update => ?_) extend_apply start steps
  cases update
  simp [extend, passed]

theorem apply_of_isBlank (update : Update) {step : Step} (h : step.isBlank = true) :
    update.apply step = update := by
  cases update
  cases step <;> simp_all [Step.isBlank, apply, withTables, withReturning]

namespace Builder

/-- The statement that is built, after a step. -/
def apply (builder : Builder) : Step → Builder
  | .set column value => builder.set column value
  | .tables tables => builder.withTables tables
  | .filter predicate => builder.withFilter predicate
  | .returning items => builder.withReturning items

/-- What a sequence of steps builds. -/
def build (start : Builder) (steps : List Step) : Builder :=
  steps.foldl apply start

/-- A step on the clauses that are built is a step on the statement. -/
theorem statement_apply (builder : Builder) (step : Step) :
    (builder.apply step).statement = builder.statement.apply step := by
  cases step <;> rfl

/-- Steps on the clauses that are built are steps on the statement. -/
theorem statement_build (start : Builder) (steps : List Step) :
    (start.build steps).statement = start.statement.build steps :=
  foldl_of_step statement_apply start steps

end Builder

end Update

namespace Delete

/-- A step of building a DELETE. -/
inductive Step where
  | tables (tables : List FromItem)
  | filter (predicate : Expr)
  | returning (items : List Expr)

/-- The statement after a step. -/
def apply (delete : Delete) : Step → Delete
  | .tables tables => delete.withTables tables
  | .filter predicate => delete.withFilter predicate
  | .returning items => delete.withReturning items

/-- The statement that a sequence of steps makes of another one. -/
def build (start : Delete) (steps : List Step) : Delete :=
  steps.foldl apply start

/-- What is passed to the clauses of a DELETE. -/
structure Passed where
  tables : List FromItem
  filters : List Expr
  returning : List Expr

/-- What a sequence of steps passes to each clause: the lists one after the other, and the
predicates in order. -/
def passed (steps : List Step) : Passed where
  tables := steps.flatMap fun | .tables tables => tables | _ => []
  filters := steps.filterMap fun | .filter predicate => some predicate | _ => none
  returning := steps.flatMap fun | .returning items => items | _ => []

/-- A step that passes an empty list. -/
def Step.isBlank : Step → Bool
  | tables passed => passed.isEmpty
  | returning passed => passed.isEmpty
  | filter _ => false

/-- A statement with what was passed to its clauses. -/
def extend (delete : Delete) (passed : Passed) : Delete where
  target := delete.target
  tables := delete.tables ++ passed.tables
  filters := delete.filters ++ passed.filters
  returning := delete.returning ++ passed.returning

theorem extend_apply (delete : Delete) (step : Step) (steps : List Step) :
    (delete.apply step).extend (passed steps) = delete.extend (passed (step :: steps)) := by
  cases step <;> simp [apply, extend, passed, withTables, withFilter, withReturning]

/-- A sequence of steps extends every clause by what is passed to it. -/
theorem build_eq (start : Delete) (steps : List Step) :
    start.build steps = start.extend (passed steps) := by
  refine foldl_eq_extend (fun delete => ?_) extend_apply start steps
  cases delete
  simp [extend, passed]

theorem apply_of_isBlank (delete : Delete) {step : Step} (h : step.isBlank = true) :
    delete.apply step = delete := by
  cases delete
  cases step <;> simp_all [Step.isBlank, apply, withTables, withReturning]

namespace Builder

/-- The statement that is built, after a step. -/
def apply (builder : Builder) : Step → Builder
  | .tables tables => builder.withTables tables
  | .filter predicate => builder.withFilter predicate
  | .returning items => builder.withReturning items

/-- What a sequence of steps builds. -/
def build (start : Builder) (steps : List Step) : Builder :=
  steps.foldl apply start

/-- A step on the clauses that are built is a step on the statement. -/
theorem statement_apply (builder : Builder) (step : Step) :
    (builder.apply step).statement = builder.statement.apply step := by
  cases step <;> rfl

/-- Steps on the clauses that are built are steps on the statement. -/
theorem statement_build (start : Builder) (steps : List Step) :
    (start.build steps).statement = start.statement.build steps :=
  foldl_of_step statement_apply start steps

end Builder

end Delete

-- ---------------------------------------------------------------------------
-- Statements that cannot be told apart
-- ---------------------------------------------------------------------------

/-- Two statements that cannot be told apart by what is done with them. -/
structure Statement.Interchangeable (s t : Statement) : Prop where
  /-- Rendered under any options, they have the same outcome and the same events. -/
  report : ∀ options, s.report options = t.report options
  /-- They are written alike in whatever context they stand, also inside of another statement. -/
  write : s.write = t.write
  /-- They mention, declare and infer the same relations. -/
  scope : s.scope? = t.scope?

namespace Statement.Interchangeable

theorem of_eq {s t : Statement} (h : s = t) : s.Interchangeable t := by
  subst h
  exact ⟨fun _ => rfl, rfl, rfl⟩

/-- A report depends on nothing but the kind of a statement and how it is written. -/
theorem of_write {s t : Statement} (hKind : s.kind = t.kind) (hWrite : s.write = t.write)
    (hScope : s.scope? = t.scope?) : s.Interchangeable t := by
  refine ⟨fun options => ?_, hWrite, hScope⟩
  rw [Statement.report, Statement.report, hWrite, hKind]

end Statement.Interchangeable

/-- Two statements that cannot be told apart while they are built, and if they are queries, not by
what holds them afterwards either. -/
structure Builder.Interchangeable (s t : Builder) : Prop where
  /-- Rendered under any options, they have the same outcome and the same events. -/
  report : ∀ options, s.report options = t.report options
  /-- They are written alike in whatever context they stand. -/
  write : s.write = t.write
  /-- They mention, declare and infer the same relations. -/
  scope : s.scope? = t.scope?
  /-- Of two queries, a tree that holds the first does what the second asks for. -/
  nested : ∀ held built, s = .select held → t = .select built → held.ServesFor built

/-- What is built cannot be told apart if what it stands for cannot. -/
theorem Builder.Interchangeable.of_statement {s t : Builder}
    (h : s.statement.Interchangeable t.statement) : s.Interchangeable t := by
  have hWrite : s.write = t.write := by rw [s.write_eq, t.write_eq, h.write]
  have hScope : s.scope? = t.scope? := by rw [s.scope?_eq, t.scope?_eq, h.scope]
  refine ⟨fun options => ?_, hWrite, hScope, ?_⟩
  · rw [s.report_eq, t.report_eq, h.report]
  · rintro held built rfl rfl
    exact Select.Builder.servesFor hWrite (congrArg Scope.inferred (Option.some.inj hScope))

-- ---------------------------------------------------------------------------
-- Predicates that are connected
-- ---------------------------------------------------------------------------

/-- Two lists of predicates that make one condition. -/
structure SameCondition (ps qs : List Expr) : Prop where
  written : ∀ keyword, Writer.conditionClause keyword (ps.map Expr.write) =
    Writer.conditionClause keyword (qs.map Expr.write)
  mentions : Expr.mentionsAll ps = Expr.mentionsAll qs

namespace SameCondition

theorem refl (ps : List Expr) : SameCondition ps ps :=
  ⟨fun _ => rfl, rfl⟩

/-- Where a statement has no predicates, those that are passed to it are its whole condition. -/
theorem behind_none {held ps qs : List Expr} (hNone : held = []) (h : SameCondition ps qs) :
    SameCondition (held ++ ps) (held ++ qs) := by
  subst hNone
  exact h

/-- Several predicates make the same condition as the one that connects them. A single predicate
does not: a connective puts parentheses around it, and a clause does not. -/
theorem connect {ps : List Expr} {c : Expr} (hSeveral : 2 ≤ ps.length)
    (hConnect : Expr.connect .and ps = .ok c) : SameCondition ps [c] := by
  obtain ⟨p, q, rest, rfl⟩ : ∃ p q rest, ps = p :: q :: rest := by
    match ps, hSeveral with
    | p :: q :: rest, _ => exact ⟨p, q, rest, rfl⟩
  obtain rfl : Expr.logical .and (p :: q :: rest) = c := Except.ok.inj hConnect
  constructor
  case written =>
    intro keyword
    simp only [Writer.conditionClause, Writer.condition, Expr.write, Expr.writers_eq_map,
      List.map_cons, List.map_nil, List.isEmpty_cons]
  case mentions => simp only [Expr.mentionsAll, Expr.mentions, List.append_nil]

end SameCondition

/-- A query with other predicates that make the same conditions cannot be told apart. -/
theorem Select.interchangeable_of_conditions (query : Select) {filters groupFilters : List Expr}
    (hFilters : SameCondition query.filters filters)
    (hGroupFilters : SameCondition query.groupFilters groupFilters) :
    (Statement.select query).Interchangeable
      (.select { query with filters := filters, groupFilters := groupFilters }) := by
  have hReferenced : query.referenced =
      { query with filters := filters, groupFilters := groupFilters : Select }.referenced := by
    simp only [Select.referenced, Select.mentions, hFilters.mentions, hGroupFilters.mentions]
  have hInferred : query.inferred =
      { query with filters := filters, groupFilters := groupFilters : Select }.inferred := by
    rw [Select.inferred_eq, Select.inferred_eq, hReferenced]
    rfl
  refine .of_write rfl ?_ ?_
  · simp only [Statement.write, Select.write_eq, Select.added, hInferred, hFilters.written,
      hGroupFilters.written]
  · simp only [Statement.scope?, hReferenced, hInferred]
    rfl

theorem Update.interchangeable_of_conditions (update : Update) {filters : List Expr}
    (hFilters : SameCondition update.filters filters) :
    (Statement.update update).Interchangeable (.update { update with filters := filters }) := by
  have hReferenced :
      update.referenced = { update with filters := filters : Update }.referenced := by
    simp only [Update.referenced, Update.mentions, hFilters.mentions]
  have hInferred : update.inferred = { update with filters := filters : Update }.inferred := by
    rw [Update.inferred, Update.inferred, hReferenced]
    rfl
  refine .of_write rfl ?_ ?_
  · simp only [Statement.write, Update.write, hInferred, hFilters.written]
  · simp only [Statement.scope?, hReferenced, hInferred]
    rfl

theorem Delete.interchangeable_of_conditions (delete : Delete) {filters : List Expr}
    (hFilters : SameCondition delete.filters filters) :
    (Statement.delete delete).Interchangeable (.delete { delete with filters := filters }) := by
  have hReferenced :
      delete.referenced = { delete with filters := filters : Delete }.referenced := by
    simp only [Delete.referenced, Delete.mentions, hFilters.mentions]
  have hInferred : delete.inferred = { delete with filters := filters : Delete }.inferred := by
    rw [Delete.inferred, Delete.inferred, hReferenced]
    rfl
  refine .of_write rfl ?_ ?_
  · simp only [Statement.write, Delete.write, hInferred, hFilters.written]
  · simp only [Statement.scope?, hReferenced, hInferred]
    rfl

-- ---------------------------------------------------------------------------
-- The contract
-- ---------------------------------------------------------------------------

section Contract

variable {α β σ π : Type}

/-- Building depends on nothing but what the steps pass to each clause. -/
structure StepsCommute (builder : α → Builder) (build : α → List σ → α) (passed : List σ → π)
    (isBlank : σ → Bool) : Prop where
  /-- Where the same is passed to each clause, the statements cannot be told apart. -/
  same_passed : ∀ start steps others, passed steps = passed others →
    (builder (build start steps)).Interchangeable (builder (build start others))
  /-- Steps that pass an empty list can be left out. -/
  without_blank : ∀ start steps,
    (builder (build start steps)).Interchangeable
      (builder (build start (steps.filter fun step => !isBlank step)))

/-- The predicates of a clause count as one that connects them: `held` are those that a statement
has before the first step, `predicates` those that are passed, and `replaced` is what is passed
with other ones in their place. -/
structure PredicatesConnect (builder : α → Builder) (build : α → List σ → α)
    (passed : List σ → π) (held : α → List Expr) (predicates : π → List Expr)
    (replaced : π → List Expr → π) : Prop where
  /-- Two predicates or more, passed one by one, or in one step as a conjunction. -/
  connected : ∀ start steps others c, held start = [] →
    2 ≤ (predicates (passed steps)).length →
      Expr.connect .and (predicates (passed steps)) = .ok c →
        passed others = replaced (passed steps) [c] →
          (builder (build start steps)).Interchangeable (builder (build start others))

/-- Steps commute where what is built stands for a statement that is extended by what is passed, and
an empty list extends it by nothing. -/
theorem StepsCommute.of_extend {builder : α → Builder} {build : α → List σ → α}
    {statement : β → Statement} {plain : α → β} {apply : β → σ → β} {extend : β → π → β}
    {passed : List σ → π} {isBlank : σ → Bool}
    (hPlain : ∀ start steps,
      (builder (build start steps)).statement = statement (steps.foldl apply (plain start)))
    (hExtend : ∀ start steps, steps.foldl apply start = extend start (passed steps))
    (hBlank : ∀ start step, isBlank step = true → apply start step = start) :
    StepsCommute builder build passed isBlank where
  same_passed start steps others hPassed := by
    refine .of_statement (.of_eq ?_)
    rw [hPlain, hPlain, hExtend, hExtend, hPassed]
  without_blank start steps := by
    refine .of_statement (.of_eq ?_)
    rw [hPlain, hPlain, foldl_filter_blank hBlank]

/-- Predicates connect where other ones that make the same condition can be passed instead. -/
theorem PredicatesConnect.of_extend {builder : α → Builder} {build : α → List σ → α}
    {statement : β → Statement} {plain : α → β} {extend : β → π → β} {passed : List σ → π}
    {held : α → List Expr} {predicates : π → List Expr} {replaced : π → List Expr → π}
    (hExtend : ∀ start steps,
      (builder (build start steps)).statement = statement (extend (plain start) (passed steps)))
    (hReplace : ∀ start given ps, held start = [] → SameCondition (predicates given) ps →
      (statement (extend (plain start) given)).Interchangeable
        (statement (extend (plain start) (replaced given ps)))) :
    PredicatesConnect builder build passed held predicates replaced where
  connected start steps others c hHeld hSeveral hConnect hPassed := by
    refine .of_statement ?_
    rw [hExtend, hExtend, hPassed]
    exact hReplace start (passed steps) [c] hHeld (.connect hSeveral hConnect)

end Contract

namespace Select.Builder

/-- What steps build is the start, extended by what they pass. -/
theorem statement_select_build (start : Builder) (steps : List Step) :
    (QueryText.Builder.select (start.build steps)).statement =
      .select (start.query.extend (passed steps)) := by
  rw [QueryText.Builder.statement, query_build, build_eq]

/-- The steps of a SELECT commute, and blank ones do nothing. -/
theorem stepsCommute : StepsCommute .select build passed Step.isBlank :=
  .of_extend (fun start steps => congrArg Statement.select (query_build start steps)) build_eq
    fun query _ => query.apply_of_isBlank

/-- The predicates of a WHERE clause count as their conjunction. -/
theorem filtersConnect :
    PredicatesConnect .select build passed (fun start => start.filters.entries) Passed.filters
      fun passed filters => { passed with filters := filters } := by
  refine .of_extend statement_select_build fun start given ps hHeld hSame => ?_
  exact (start.query.extend given).interchangeable_of_conditions (hSame.behind_none hHeld) (.refl _)

/-- The predicates of a HAVING clause count as their conjunction. -/
theorem groupFiltersConnect :
    PredicatesConnect .select build passed (fun start => start.groupFilters.entries)
      Passed.groupFilters
      fun passed groupFilters => { passed with groupFilters := groupFilters } := by
  refine .of_extend statement_select_build fun start given ps hHeld hSame => ?_
  exact (start.query.extend given).interchangeable_of_conditions (.refl _) (hSame.behind_none hHeld)

end Select.Builder

namespace Update.Builder

/-- What steps build is the start, extended by what they pass. -/
theorem statement_update_build (start : Builder) (steps : List Step) :
    (QueryText.Builder.update (start.build steps)).statement =
      .update (start.statement.extend (passed steps)) := by
  rw [QueryText.Builder.statement, statement_build, build_eq]

theorem stepsCommute : StepsCommute .update build passed Step.isBlank :=
  .of_extend (fun start steps => congrArg Statement.update (statement_build start steps)) build_eq
    fun update _ => update.apply_of_isBlank

theorem filtersConnect :
    PredicatesConnect .update build passed (fun start => start.filters.entries) Passed.filters
      fun passed filters => { passed with filters := filters } := by
  refine .of_extend statement_update_build fun start given ps hHeld hSame => ?_
  exact (start.statement.extend given).interchangeable_of_conditions (hSame.behind_none hHeld)

end Update.Builder

namespace Delete.Builder

/-- What steps build is the start, extended by what they pass. -/
theorem statement_delete_build (start : Builder) (steps : List Step) :
    (QueryText.Builder.delete (start.build steps)).statement =
      .delete (start.statement.extend (passed steps)) := by
  rw [QueryText.Builder.statement, statement_build, build_eq]

theorem stepsCommute : StepsCommute .delete build passed Step.isBlank :=
  .of_extend (fun start steps => congrArg Statement.delete (statement_build start steps)) build_eq
    fun delete _ => delete.apply_of_isBlank

theorem filtersConnect :
    PredicatesConnect .delete build passed (fun start => start.filters.entries) Passed.filters
      fun passed filters => { passed with filters := filters } := by
  refine .of_extend statement_delete_build fun start given ps hHeld hSame => ?_
  exact (start.statement.extend given).interchangeable_of_conditions (hSame.behind_none hHeld)

end Delete.Builder

/-- Steps on different clauses commute, a list can be passed in any number of steps, and predicates
that are passed one by one count as their conjunction. The clauses of what is built are absent or
there, and those that are there may be empty: none of this can be told from the statement. -/
theorem clause_steps_commute :
    StepsCommute .select Select.Builder.build Select.passed Select.Step.isBlank ∧
    StepsCommute .update Update.Builder.build Update.passed Update.Step.isBlank ∧
    StepsCommute .delete Delete.Builder.build Delete.passed Delete.Step.isBlank ∧
    PredicatesConnect .select Select.Builder.build Select.passed
      (fun start => start.filters.entries) Select.Passed.filters
      (fun passed filters => { passed with filters := filters }) ∧
    PredicatesConnect .select Select.Builder.build Select.passed
      (fun start => start.groupFilters.entries) Select.Passed.groupFilters
      (fun passed groupFilters => { passed with groupFilters := groupFilters }) ∧
    PredicatesConnect .update Update.Builder.build Update.passed
      (fun start => start.filters.entries) Update.Passed.filters
      (fun passed filters => { passed with filters := filters }) ∧
    PredicatesConnect .delete Delete.Builder.build Delete.passed
      (fun start => start.filters.entries) Delete.Passed.filters
      (fun passed filters => { passed with filters := filters }) :=
  ⟨Select.Builder.stepsCommute, Update.Builder.stepsCommute, Delete.Builder.stepsCommute,
    Select.Builder.filtersConnect, Select.Builder.groupFiltersConnect,
    Update.Builder.filtersConnect, Delete.Builder.filtersConnect⟩

/-- Tables before items, predicates in one step or in two, a limit that is replaced and a list that
is empty: the first query has no GROUP BY clause, the second an empty one. -/
theorem clause_steps_commute_mixed :
    let key : Expr := .column (.table none "t") "id"
    let small : Expr := .binary .less key (.literal "9")
    let positive : Expr := .binary .greater key (.literal "0")
    let query : Select.Builder := Select.Builder.build {}
      [.tables [.relation (.table none "t")], .limit 5, .filter small, .items [key, .star],
        .filter positive, .limit 7]
    let other : Select.Builder := Select.Builder.build {}
      [.items [key], .filter small, .filter positive, .groups [], .items [.star], .limit 7,
        .tables [.relation (.table none "t")]]
    query.groups = none ∧ other.groups = some [] ∧
    (Builder.select query).Interchangeable (.select other) ∧
    (Builder.delete (Delete.Builder.build { target := .table none "t" }
        [.filter small, .returning [key], .filter positive])).Interchangeable
      (.delete (Delete.Builder.build { target := .table none "t" }
        [.returning [key], .filter (.logical .and [small, positive])])) := by
  intro key small positive query other
  obtain ⟨hSelect, -, -, -, -, -, hDelete⟩ := clause_steps_commute
  exact ⟨rfl, rfl, hSelect.same_passed _ _ _ rfl,
    hDelete.connected _ _ _ _ rfl (Nat.le_refl 2) rfl rfl⟩

end QueryText

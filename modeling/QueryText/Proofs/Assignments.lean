import Mathlib.Data.List.Induction
import Mathlib.Data.List.Nodup
import QueryText.Proofs.ClauseSteps
import QueryText.Proofs.Declarations.Text

/-!
# QueryText — assignments that are repeated

A column can be assigned any number of times, in an UPDATE and in an upsert alike. What is left is
one assignment for each column, in the order in which the columns were first assigned, with the
value that came last. A value that was replaced leaves no trace: its arguments get no
placeholder, and its relations are not inferred.

## Main results

* `Assignments.Keeps.set`, `Assignments.keeps_ofCalls` — what one call keeps, and any row of them.
* `Assignments.Keeps.unique` — calls that agree leave the same assignments.
* `Layout.tags_spaced` — the arguments of a statement are those of its clauses.
* `repeated_assignments_replace` — UPDATE and upsert.
-/

namespace QueryText

-- ---------------------------------------------------------------------------
-- Calls that assign values
-- ---------------------------------------------------------------------------

namespace Assignments

/-- The value that a column is given last. -/
def lastValue? (calls : List (String × Expr)) (column : String) : Option Expr :=
  (calls.filter fun call => call.1 = column).getLast?.map Prod.snd

/-- The assignments that calls leave, one after the other. -/
def ofCalls (calls : List (String × Expr)) : Assignments :=
  calls.foldl (fun assigned call => assigned.set call.1 call.2) {}

/-- What assignments keep of the calls that made them. -/
structure Keeps (assignments : Assignments) (calls : List (String × Expr)) : Prop where
  /-- No column comes twice. -/
  distinct : assignments.columns.Nodup
  /-- The columns are those that were assigned, in the order in which they first were. -/
  order : assignments.columns = (calls.map Prod.fst).eraseDups
  /-- Each of them has the value that it was given last. -/
  last : ∀ column value,
    (column, value) ∈ assignments.entries ↔ lastValue? calls column = some value

/-- Calls that agree in the order in which the columns are first assigned and in the value that each
column is given last. -/
structure CallsAgree (calls others : List (String × Expr)) : Prop where
  order : (calls.map Prod.fst).eraseDups = (others.map Prod.fst).eraseDups
  last : ∀ column, lastValue? calls column = lastValue? others column

/-- The last call decides about its own column and about no other. -/
theorem lastValue?_concat (calls : List (String × Expr)) (column : String) (value : Expr)
    (name : String) :
    lastValue? (calls ++ [(column, value)]) name =
      if column = name then some value else lastValue? calls name := by
  unfold lastValue?
  rw [List.filter_append]
  by_cases h : column = name
  · rw [List.filter_cons_of_pos (by simpa using h), List.filter_nil, List.getLast?_concat,
      if_pos h]
    rfl
  · rw [List.filter_cons_of_neg (by simpa using h), List.filter_nil, List.append_nil, if_neg h]

/-- Putting a value under a name changes nothing under other names. -/
theorem mem_put_iff {entries : List (String × Expr)} (hDistinct : (entries.map Prod.fst).Nodup)
    (column : String) (value : Expr) (name : String) (held : Expr) :
    (name, held) ∈ put column value entries ↔
      if column = name then held = value else (name, held) ∈ entries := by
  induction entries with
  | nil => simp [put, eq_comm]
  | cons entry entries ih =>
    obtain ⟨first, old⟩ := entry
    obtain ⟨hFresh, hRest⟩ := List.nodup_cons.mp hDistinct
    have hElsewhere : ∀ held, (first, held) ∉ entries :=
      fun held hMem => hFresh (List.mem_map.mpr ⟨_, hMem, rfl⟩)
    by_cases hFirst : first = column
    · rw [put, if_pos hFirst, ← hFirst]
      by_cases hName : first = name
      · subst hName
        simp [hElsewhere]
      · simp [hName, Ne.symm hName]
    · rw [put, if_neg hFirst, List.mem_cons, ih hRest]
      by_cases hName : column = name
      · subst hName
        simp [Ne.symm hFirst]
      · simp [hName]

/-- One more call replaces the value of a column that was assigned before and puts any other column
at the end. -/
theorem Keeps.set {assignments : Assignments} {calls : List (String × Expr)}
    (h : assignments.Keeps calls) (column : String) (value : Expr) :
    (assignments.set column value).Keeps (calls ++ [(column, value)]) := by
  have hColumns : (assignments.set column value).columns =
      if column ∈ assignments.columns then assignments.columns
      else assignments.columns ++ [column] :=
    map_fst_put column value assignments.entries
  have hAssigned : column ∈ assignments.columns ↔ column ∈ calls.map Prod.fst := by
    rw [h.order, List.mem_eraseDups]
  constructor
  case distinct =>
    rw [hColumns]
    split
    · exact h.distinct
    · rw [← List.concat_eq_append]
      exact h.distinct.concat ‹_›
  case order =>
    rw [hColumns, List.map_append, List.map_singleton]
    by_cases hOld : column ∈ assignments.columns
    · rw [if_pos hOld, eraseDups_concat_of_mem (hAssigned.mp hOld), h.order]
    · rw [if_neg hOld, eraseDups_concat_of_notMem (hAssigned.not.mp hOld), h.order]
  case last =>
    intro name held
    rw [lastValue?_concat]
    refine (mem_put_iff h.distinct column value name held).trans ?_
    by_cases hName : column = name
    · rw [if_pos hName, if_pos hName, Option.some_inj, eq_comm]
    · rw [if_neg hName, if_neg hName, h.last]

/-- What any row of calls leaves keeps them. -/
theorem keeps_ofCalls (calls : List (String × Expr)) : (ofCalls calls).Keeps calls := by
  induction calls using List.reverseRecOn with
  | nil => exact ⟨List.nodup_nil, rfl, fun column value => ⟨nofun, nofun⟩⟩
  | append_singleton calls call ih =>
    have hStep : ofCalls (calls ++ [call]) = (ofCalls calls).set call.1 call.2 :=
      List.foldl_concat ..
    rw [hStep]
    exact ih.set call.1 call.2

/-- Calls that agree leave the same assignments. -/
theorem Keeps.unique {assignments others : Assignments} {calls otherCalls : List (String × Expr)}
    (h : assignments.Keeps calls) (h' : others.Keeps otherCalls)
    (hAgree : CallsAgree calls otherCalls) : assignments = others := by
  -- an entry is the name of its column with the last value
  have hEntries : ∀ {assignments : Assignments} {calls : List (String × Expr)},
      assignments.Keeps calls → assignments.entries.map some =
        assignments.columns.map fun column => (lastValue? calls column).map (column, ·) := by
    intro assignments calls h
    rw [columns, List.map_map]
    refine List.map_congr_left fun entry hEntry => ?_
    rw [Function.comp_apply, (h.last entry.1 entry.2).mp hEntry]
    rfl
  have hSame : assignments.entries.map some = others.entries.map some := by
    rw [hEntries h, hEntries h', h.order, h'.order, hAgree.order]
    simp only [hAgree.last]
  have hLists := List.map_injective_iff.mpr (fun _ _ => Option.some.inj) hSame
  cases assignments
  cases others
  exact congrArg Assignments.mk hLists

/-- Calls that agree on the columns and their last values make the same assignments. -/
theorem ofCalls_eq_of_agree {calls others : List (String × Expr)} (h : CallsAgree calls others) :
    ofCalls calls = ofCalls others :=
  (keeps_ofCalls calls).unique (keeps_ofCalls others) h

end Assignments

-- ---------------------------------------------------------------------------
-- The arguments of clauses
-- ---------------------------------------------------------------------------

namespace Layout

/-- Layouts that are put together have their arguments one after the other, if the separator has
none. -/
theorem tags_intercalate {separator : Layout} (h : separator.tags = []) (ls : List Layout) :
    tags (separator.intercalate ls) = ls.flatMap tags := by
  induction ls with
  | nil => rfl
  | cons l ls ih =>
    cases ls with
    | nil => rw [List.intercalate_singleton, List.flatMap_singleton]
    | cons m ms =>
      rw [List.intercalate_cons_cons, tags_append, tags_append, h, ih, List.append_nil]
      exact List.flatMap_cons.symm

/-- The arguments of clauses stand one clause after the other. -/
theorem tags_spaced (clauses : List Layout) : (spaced clauses).tags = clauses.flatMap tags :=
  tags_intercalate (show gap.tags = [] from rfl) clauses

/-- A clause of a list has the arguments of its items. -/
theorem tags_listClause (keyword : String) (items : List Layout) :
    (listClause keyword items).flatMap tags = items.flatMap tags := by
  cases items with
  | nil => rfl
  | cons item items =>
    have hSeparator : (text ", ").tags = [] := rfl
    rw [listClause, if_neg (by simp), List.flatMap_singleton, clause, tags_append, separated,
      tags_intercalate hSeparator]
    rfl

end Layout

namespace Assignments

/-- The arguments of a SET clause are those of the values. -/
theorem tags_layouts (auto : Bool) (assignments : Assignments) :
    (assignments.layouts auto).flatMap Layout.tags =
      assignments.values.flatMap fun value => (value.layout auto .reference).tags := by
  rw [layouts, values, List.flatMap_map, List.flatMap_map]
  refine List.flatMap_congr fun entry _ => ?_
  rw [Layout.tags_append]
  rfl

/-- What a statement makes of the calls that made its assignments: with its other clauses before and
behind them, it writes what they keep. -/
structure Settled (assignments : Assignments) (calls : List (String × Expr))
    (statement : Statement) (before behind : Bool → List Layout) : Prop
    extends assignments.Keeps calls where
  written : ∀ options rendering, statement.render options = .ok rendering →
    rendering.sql = (Layout.spaced (before options.inferring ++
      Layout.listClause "SET" (assignments.layouts options.inferring) ++
      behind options.inferring)).spelling options.placeholder []
  placeholders : ∀ options rendering, statement.render options = .ok rendering →
    (statement.written options).map Placeholder.tag =
      (before options.inferring).flatMap Layout.tags ++
      (assignments.values.flatMap fun value => (value.layout options.inferring .reference).tags) ++
      (behind options.inferring).flatMap Layout.tags

/-- Calls are settled by their assignments, if the SET clause stands among the clauses of the
statement. -/
theorem Settled.of_clauses {assignments : Assignments} {calls : List (String × Expr)}
    {statement : Statement} {before behind : Bool → List Layout} (h : assignments.Keeps calls)
    (hClauses : statement.fault = none → ∀ auto, statement.clauses auto =
      before auto ++ Layout.listClause "SET" (assignments.layouts auto) ++ behind auto) :
    assignments.Settled calls statement before behind where
  toKeeps := h
  written options rendering hRender := by
    have hFault := (Statement.of_render_ok hRender).2.2
    rw [Statement.sql_of_ok hRender, Statement.pieces, hClauses hFault]
  placeholders options rendering hRender := by
    have hFault := (Statement.of_render_ok hRender).2.2
    rw [(Statement.written_of_ok hRender).1, Slots.map_tag_run,
      (statement.alike_clauses _).tags, Layout.tags_closed, Layout.tags_spaced,
      hClauses hFault, List.flatMap_append, List.flatMap_append, Layout.tags_listClause,
      tags_layouts]

end Assignments

-- ---------------------------------------------------------------------------
-- UPDATE
-- ---------------------------------------------------------------------------

namespace Update

/-- The clauses before the assignments. -/
def leading (update : Update) (auto : Bool) : List Layout :=
  [Layout.clause "UPDATE" (update.target.layout auto)]

/-- The clauses behind the assignments. -/
def trailing (update : Update) (auto : Bool) : List Layout :=
  Layout.tableClause "FROM" (update.tables.map (·.layout auto))
      ((update.completion auto).map (Relation.draft auto)) ++
    Layout.conditionClause "WHERE" (update.filters.map (·.layout auto .reference)) ++
    Layout.listClause "RETURNING" (update.returning.map (·.layout auto .declaration))

/-- An UPDATE keeps the assignments that its steps call for. -/
theorem assignments_build (target : Relation) (steps : List Step) :
    (build { target := target } steps).assignments =
      Assignments.ofCalls (passed steps).assignments := by
  rw [build_eq]
  rfl

/-- The calls of an UPDATE are settled by its assignments. -/
theorem settled_build (target : Relation) (steps : List Step) :
    (build { target := target } steps).assignments.Settled (passed steps).assignments
      (.update (build { target := target } steps)) (build { target := target } steps).leading
      (build { target := target } steps).trailing := by
  have hKeeps := Assignments.keeps_ofCalls (passed steps).assignments
  rw [← assignments_build target] at hKeeps
  refine .of_clauses hKeeps fun hFault auto => ?_
  have hSome : ¬ (build { target := target } steps).assignments.isEmpty = true := by
    intro hEmpty
    rw [Statement.fault, if_pos hEmpty] at hFault
    cases hFault
  rw [Statement.clauses, if_neg hSome, Update.clauses, leading, trailing]
  simp only [List.append_assoc]

/-- The relations that are inferred come from the values that are left. -/
theorem completes_inferred (update : Update) :
    Relation.Completes
      (update.assignments.values.flatMap Expr.mentions ++ update.filters.flatMap Expr.mentions ++
        update.returning.flatMap Expr.mentions)
      (update.target :: update.tables.flatMap FromItem.declares) update.inferred := by
  rw [← update.mentions_eq]
  exact RelationSet.completes_difference _ _

/-- Steps that pass the same apart from calls that agree build the same statement. -/
theorem build_eq_of_agree (target : Relation) {steps others : List Step}
    (hAgree : Assignments.CallsAgree (passed steps).assignments (passed others).assignments)
    (hRest : { passed steps with assignments := [] } =
      { passed others with assignments := [] }) :
    build { target := target } steps = build { target := target } others := by
  obtain ⟨-, hTables, hFilters, hReturning⟩ := Passed.mk.inj hRest
  have hAssignments := Assignments.ofCalls_eq_of_agree hAgree
  rw [Assignments.ofCalls, Assignments.ofCalls] at hAssignments
  rw [build_eq, build_eq, extend, extend, hAssignments, hTables, hFilters, hReturning]

end Update

-- ---------------------------------------------------------------------------
-- Upserts
-- ---------------------------------------------------------------------------

namespace Upsert

/-- A step of building an upsert. -/
inductive Step where
  | set (column : String) (value : Expr)
  | filter (predicate : Expr)

/-- The upsert after a step. -/
def apply (upsert : Upsert) : Step → Upsert
  | .set column value => upsert.set column value
  | .filter predicate => upsert.withFilter predicate

/-- The upsert that a sequence of steps builds. -/
def build (steps : List Step) : Upsert :=
  steps.foldl apply {}

/-- What is passed to an upsert. -/
structure Passed where
  assignments : List (String × Expr)
  filters : List Expr

/-- What a sequence of steps passes, in order. -/
def passed (steps : List Step) : Passed where
  assignments := steps.filterMap fun | .set column value => some (column, value) | _ => none
  filters := steps.filterMap fun | .filter predicate => some predicate | _ => none

/-- An upsert with what was passed to it. -/
def extend (upsert : Upsert) (passed : Passed) : Upsert where
  assignments :=
    passed.assignments.foldl (fun assigned entry => assigned.set entry.1 entry.2)
      upsert.assignments
  filters := upsert.filters ++ passed.filters

/-- A step and then what is passed later is what is passed from that step on. -/
theorem extend_apply (upsert : Upsert) (step : Step) (steps : List Step) :
    (upsert.apply step).extend (passed steps) = upsert.extend (passed (step :: steps)) := by
  cases step <;> simp [apply, extend, passed, Upsert.set, withFilter]

/-- An upsert is made of what is passed to it. -/
theorem build_eq (steps : List Step) :
    build steps = ⟨Assignments.ofCalls (passed steps).assignments, (passed steps).filters⟩ := by
  refine foldl_eq_extend (fun upsert => ?_) extend_apply {} steps
  cases upsert
  simp [extend, passed]

/-- Steps that agree on the assignments and pass the same filters build the same upsert. -/
theorem build_eq_of_agree {steps others : List Step}
    (hAgree : Assignments.CallsAgree (passed steps).assignments (passed others).assignments)
    (hFilters : (passed steps).filters = (passed others).filters) :
    build steps = build others := by
  rw [build_eq, build_eq, Assignments.ofCalls_eq_of_agree hAgree, hFilters]

end Upsert

namespace Insert

/-- The clauses before the assignments of an upsert. -/
def leading (insert : Insert) (targets : List Expr) (auto : Bool) : List Layout :=
  insert.head auto ++ insert.rows.toList.map (rowsLayout auto) ++
    [Layout.text "ON CONFLICT"] ++ targetsClause auto targets ++ [Layout.text "DO UPDATE"]

/-- The clauses behind the assignments of an upsert. -/
def trailing (insert : Insert) (upsert : Upsert) (auto : Bool) : List Layout :=
  Layout.conditionClause "WHERE" (upsert.filters.map (·.layout auto .reference)) ++
    Layout.listClause "RETURNING" (insert.returning.map (·.layout auto .declaration))

/-- The calls of an upsert are settled by its assignments. -/
theorem settled_upsert {insert : Insert} {targets : List Expr} {steps : List Upsert.Step}
    (h : insert.conflict = some ⟨targets, .update (Upsert.build steps)⟩) :
    (Upsert.build steps).assignments.Settled (Upsert.passed steps).assignments (.insert insert)
      (insert.leading targets) (insert.trailing (Upsert.build steps)) := by
  have hKeeps := Assignments.keeps_ofCalls (Upsert.passed steps).assignments
  have hAssignments : (Upsert.build steps).assignments =
      Assignments.ofCalls (Upsert.passed steps).assignments := by rw [Upsert.build_eq]
  rw [← hAssignments] at hKeeps
  refine .of_clauses hKeeps fun hFault auto => ?_
  obtain ⟨hMisuse, hSome⟩ := insert.fault_eq_none_iff.mp hFault
  obtain ⟨rows, hRows⟩ := Option.isSome_iff_exists.mp hSome
  rw [Statement.clauses, Insert.clauses, hMisuse, hRows, h, leading, trailing, hRows]
  simp only [conflictClauses, actionClauses, Option.toList_some, List.map_singleton,
    List.append_assoc]

end Insert

-- ---------------------------------------------------------------------------
-- Both statements
-- ---------------------------------------------------------------------------

/-- Assigning a column again replaces its value where it stands, in an UPDATE and in an upsert. Each
column that was assigned is written once, in the order of first assignment, with its last value;
the arguments and the inferred relations are those of the values that are left, and an INSERT
infers nothing from its upsert. Calls that agree in that order and in the last values make
statements that cannot be told apart. -/
theorem repeated_assignments_replace :
    (∀ (target : Relation) (steps : List Update.Step),
        let update := Update.build { target := target } steps
        update.assignments.Settled (Update.passed steps).assignments (.update update)
            update.leading update.trailing ∧
          Relation.Completes
            (update.assignments.values.flatMap Expr.mentions ++
              update.filters.flatMap Expr.mentions ++ update.returning.flatMap Expr.mentions)
            (update.target :: update.tables.flatMap FromItem.declares) update.inferred) ∧
      (∀ (insert : Insert) (targets : List Expr) (steps : List Upsert.Step),
        insert.conflict = some ⟨targets, .update (Upsert.build steps)⟩ →
        (Upsert.build steps).assignments.Settled (Upsert.passed steps).assignments
            (.insert insert) (insert.leading targets) (insert.trailing (Upsert.build steps)) ∧
          (Statement.insert insert).scope? =
            (Statement.insert { insert with conflict := none }).scope?) ∧
      (∀ (target : Relation) (steps others : List Update.Step),
        Assignments.CallsAgree (Update.passed steps).assignments
            (Update.passed others).assignments →
          { Update.passed steps with assignments := [] } =
            { Update.passed others with assignments := [] } →
          (Statement.update (Update.build { target := target } steps)).Interchangeable
            (.update (Update.build { target := target } others))) ∧
      ∀ (insert : Insert) (targets : List Expr) (steps others : List Upsert.Step),
        Assignments.CallsAgree (Upsert.passed steps).assignments
            (Upsert.passed others).assignments →
          (Upsert.passed steps).filters = (Upsert.passed others).filters →
          (Statement.insert
            (insert.onConflictDoUpdate targets (Upsert.build steps))).Interchangeable
            (.insert (insert.onConflictDoUpdate targets (Upsert.build others))) := by
  refine ⟨fun target steps => ⟨Update.settled_build target steps, Update.completes_inferred _⟩,
    fun insert targets steps h => ⟨Insert.settled_upsert h, rfl⟩, ?_, ?_⟩
  · intro target steps others hAgree hRest
    rw [Update.build_eq_of_agree target hAgree hRest]
    exact .of_eq rfl
  · intro insert targets steps others hAgree hFilters
    rw [Upsert.build_eq_of_agree hAgree hFilters]
    exact .of_eq rfl

/-- An anonymous argument and a column of another table are replaced: with named placeholders the
argument would be refused, and the table would be inferred. -/
theorem repeated_assignments_replace_both :
    let steps : List Update.Step :=
      [.set "a" (.argument ""), .set "b" (.column (.table none "u") "k"),
        .set "a" (.argument "x"), .set "b" (.literal "1")]
    let others : List Update.Step := [.set "a" (.argument "x"), .set "b" (.literal "1")]
    let update := Update.build { target := .table none "t" } steps
    let row : Insert := (Insert.into (.table none "t") []).withDefaults
    let targets : List Expr := [.column (.table none "t") "id"]
    let upsert : List Upsert.Step := [.set "a" (.argument ""), .set "a" (.argument "x")]
    let insert := row.onConflictDoUpdate targets (Upsert.build upsert)
    (Statement.update update).render ⟨.named, true⟩ =
        .ok ⟨"UPDATE \"t\" SET \"a\" = :x, \"b\" = 1", ["x"], .named⟩ ∧
      update.assignments.columns = ["a", "b"] ∧ update.inferred = [] ∧
      (Statement.update update).Interchangeable
        (.update (Update.build { target := .table none "t" } others)) ∧
      ((Statement.insert insert).written ⟨.named, true⟩).map Placeholder.tag = ["x"] ∧
      (Statement.insert insert).Interchangeable
        (.insert (row.onConflictDoUpdate targets (Upsert.build [.set "a" (.argument "x")]))) := by
  intro steps others update row targets upsert insert
  obtain ⟨hUpdate, hUpsert, hSame, hSameUpsert⟩ := repeated_assignments_replace
  have hRender : (Statement.update update).render ⟨.named, true⟩ =
      .ok ⟨"UPDATE \"t\" SET \"a\" = :x, \"b\" = 1", ["x"], .named⟩ := by
    decide +kernel
  have hInsert : (Statement.insert insert).render ⟨.named, true⟩ =
      .ok ⟨"INSERT INTO \"t\" DEFAULT VALUES ON CONFLICT (\"id\") DO UPDATE SET \"a\" = :x",
        ["x"], .named⟩ := by
    decide +kernel
  have hCalls : Assignments.CallsAgree (Update.passed steps).assignments
      (Update.passed others).assignments := by
    refine ⟨by decide, fun column => ?_⟩
    by_cases hFirst : "a" = column
    · subst hFirst
      rfl
    · by_cases hSecond : "b" = column
      · subst hSecond
        rfl
      · simp [Assignments.lastValue?, Update.passed, steps, others, hFirst, hSecond]
  have hUpsertCalls : Assignments.CallsAgree (Upsert.passed upsert).assignments
      (Upsert.passed [.set "a" (.argument "x")]).assignments := by
    refine ⟨by decide, fun column => ?_⟩
    by_cases hFirst : "a" = column
    · subst hFirst
      rfl
    · simp [Assignments.lastValue?, Upsert.passed, upsert, hFirst]
  exact ⟨hRender, (hUpdate _ steps).1.order, (hUpdate _ steps).2.exact,
    hSame _ steps others hCalls rfl, (hUpsert insert targets upsert rfl).1.placeholders _ _ hInsert,
    hSameUpsert row targets upsert _ hUpsertCalls rfl⟩

end QueryText

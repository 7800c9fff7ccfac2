import Mathlib.Data.List.Induction
import QueryText.Proofs.Declarations.Text
import QueryText.Proofs.Targets

/-!
# QueryText — the grammar of INSERT

The steps that build an INSERT can be taken in any order and any number of times, and each of them
asks for a part of the statement. The parts that are asked for, put into the order of the language,
may or may not be a sentence of its grammar: a target; the column defaults, or rows or a query
behind a column list that may be missing; a conflict clause; a list of items to return. Nothing is
left out of what is written, so what is not a sentence has to be refused.

## Main results

* `Insert.History.misuses_eq_nil_iff` — nothing was refused exactly if each step fits behind the
  earlier ones.
* `Insert.fault_build_eq_none_iff` — which steps make a statement, said about the steps alone.
* `Insert.clauses_build` — a statement has the clauses that its steps ask for.
* `Insert.written_by_grammar` — when what is written is a sentence.
* `Insert.listed_defaults_written` — a statement that is written and is none.
-/

namespace QueryText.Insert

-- ---------------------------------------------------------------------------
-- The grammar
-- ---------------------------------------------------------------------------

/-- A clause of an INSERT. -/
inductive Clause where
  | target (relation : Relation)
  | columns (names : List String)
  | rows (rows : Rows)
  | conflict (conflict : Conflict)
  | returning (items : List Expr)

/-- Whether a relation can be a target: a table, or a name for one, where the excluded row counts
as a table of that name. -/
def TargetName : Relation → Prop
  | .table .. => True
  | .aliased relation _ => relation.Named
  | .derived .. | .excluded => False

/-- Whether rows can be written: VALUES have a row, and every row has a value. -/
def Filled : Rows → Prop
  | .values rows => rows ≠ [] ∧ ∀ row ∈ rows, row ≠ []
  | .query _ | .defaults => True

/-- Whether a conflict clause says what to do: an upsert has a conflict target and an assignment. -/
def Complete (conflict : Conflict) : Prop :=
  match conflict.action with
  | .nothing => True
  | .update upsert => conflict.targets ≠ [] ∧ upsert.assignments.isEmpty = false

/-- What may come at the end: nothing, or a list of items to return. -/
def AfterConflict : List Clause → Prop
  | [] => True
  | [.returning items] => items ≠ []
  | _ => False

/-- What may come after the rows. -/
def AfterRows : List Clause → Prop
  | .conflict conflict :: rest => Complete conflict ∧ AfterConflict rest
  | rest => AfterConflict rest

/-- What may come after a column list. -/
def AfterColumns : List Clause → Prop
  | .rows .defaults :: _ => False
  | .rows origin :: rest => Filled origin ∧ AfterRows rest
  | _ => False

/-- What may come after the target. The column defaults have no column list before them. -/
def AfterTarget : List Clause → Prop
  | .columns names :: rest => names ≠ [] ∧ AfterColumns rest
  | .rows origin :: rest => Filled origin ∧ AfterRows rest
  | _ => False

/-- The sentences of the grammar. -/
def Sentence : List Clause → Prop
  | .target relation :: rest => TargetName relation ∧ AfterTarget rest
  | _ => False

/-- What a clause is written as. -/
def Clause.layouts (auto : Bool) : Clause → List Layout
  | target relation => [Layout.clause "INSERT INTO" (targetLayout auto relation)]
  | columns names => [Layout.parenthesized (Layout.separated "," (names.map Layout.name))]
  | rows origin => [rowsLayout auto origin]
  | conflict clause => conflictClauses auto (some clause)
  | returning items =>
    [Layout.clause "RETURNING" (Layout.separated ", " (items.map (·.layout auto .declaration)))]

-- ---------------------------------------------------------------------------
-- What steps ask for
-- ---------------------------------------------------------------------------

/-- The rows that a step asks for on its own. -/
def Step.single? : Step → Option Rows
  | query q => some (.query q)
  | defaults => some .defaults
  | row _ | doNothing _ | doUpdate _ _ | returning _ => none

def Step.conflict? : Step → Option Conflict
  | doNothing targets => some ⟨targets, .nothing⟩
  | doUpdate targets upsert => some ⟨targets, .update upsert⟩
  | row _ | query _ | defaults | returning _ => none

def Step.items : Step → List Expr
  | returning items => items
  | row _ | query _ | defaults | doNothing _ | doUpdate _ _ => []

/-- Where steps want the rows to come from. All rows that are passed are one origin. -/
def askedRows (steps : List Step) : List Rows :=
  (if (passedRows steps).isEmpty then [] else [.values (passedRows steps)]) ++
    steps.filterMap Step.single?

/-- The conflict clause that steps ask for is the last one. -/
def askedConflict? (steps : List Step) : Option Conflict :=
  (steps.filterMap Step.conflict?).getLast?

def askedItems (steps : List Step) : List Expr :=
  steps.flatMap Step.items

/-- The clauses behind the rows. -/
def askedEnding (steps : List Step) : List Clause :=
  (askedConflict? steps).toList.map .conflict ++
    if (askedItems steps).isEmpty then [] else [.returning (askedItems steps)]

/-- The clauses that a statement is to have, in the order of the language. -/
def asked (target : Relation) (columns : List String) (steps : List Step) : List Clause :=
  .target target ::
    ((if columns.isEmpty then [] else [.columns columns]) ++
      ((askedRows steps).map .rows ++ askedEnding steps))

/-- Whether steps ask for the column defaults behind a column list. -/
def ListsDefaults (columns : List String) (steps : List Step) : Prop :=
  columns ≠ [] ∧ .defaults ∈ steps

/-- What steps have to keep to beyond the grammar. -/
structure Orderly (columns : List String) (steps : List Step) : Prop where
  /-- All rows have one length, that of the column list if there is one. -/
  lengths : ∃ n, (columns ≠ [] → n = columns.length) ∧
    ∀ row ∈ passedRows steps, row.length = n
  /-- Every upsert is complete, also one that is replaced by a later conflict clause. -/
  upserts : ∀ conflict ∈ steps.filterMap Step.conflict?, Complete conflict

-- ---------------------------------------------------------------------------
-- Sentences
-- ---------------------------------------------------------------------------

/-- What steps ask for behind the rows is grammatical exactly if the conflict clause is complete. -/
theorem afterRows_askedEnding (steps : List Step) :
    AfterRows (askedEnding steps) ↔ ∀ conflict ∈ askedConflict? steps, Complete conflict := by
  have hItems : AfterConflict
      (if (askedItems steps).isEmpty then [] else [.returning (askedItems steps)]) := by
    split
    · trivial
    · rename_i hSome
      exact fun hNone => hSome (List.isEmpty_iff.mpr hNone)
  unfold askedEnding
  cases askedConflict? steps with
  | none =>
    refine ⟨fun _ => nofun, fun _ => ?_⟩
    rw [Option.toList_none, List.map_nil, List.nil_append]
    split
    · trivial
    · rename_i hSome
      rwa [if_neg hSome] at hItems
  | some conflict =>
    rw [Option.toList_some, List.map_singleton, List.singleton_append, AfterRows,
      and_iff_left hItems]
    exact ⟨fun h _ hSome => Option.some.inj hSome ▸ h, fun h => h conflict rfl⟩

/-- What comes behind the rows cannot stand in their place. -/
theorem not_afterTarget_askedEnding (steps : List Step) : ¬ AfterTarget (askedEnding steps) := by
  unfold askedEnding
  cases askedConflict? steps with
  | some conflict => exact id
  | none =>
    rw [Option.toList_none, List.map_nil, List.nil_append]
    split
    · exact id
    · exact id

/-- A sentence without a column list has one origin of rows. -/
theorem afterTarget_rows_iff (rows : List Rows) (steps : List Step) :
    AfterTarget (rows.map .rows ++ askedEnding steps) ↔
      (∃ origin, rows = [origin] ∧ Filled origin) ∧
        ∀ conflict ∈ askedConflict? steps, Complete conflict := by
  rw [← afterRows_askedEnding]
  match rows with
  | [] =>
    refine ⟨fun h => absurd h (not_afterTarget_askedEnding steps), ?_⟩
    rintro ⟨⟨origin, hNone, -⟩, -⟩
    cases hNone
  | [origin] => simp [AfterTarget]
  | first :: second :: rows =>
    -- a second origin is no end of a statement
    simp [AfterTarget, AfterRows, AfterConflict]

/-- Behind a column list the rows are not the column defaults. -/
theorem afterColumns_rows_iff (rows : List Rows) (steps : List Step) :
    AfterColumns (rows.map .rows ++ askedEnding steps) ↔
      AfterTarget (rows.map .rows ++ askedEnding steps) ∧ .defaults ∉ rows := by
  match rows with
  | [] =>
    have hNot : ¬ AfterColumns (askedEnding steps) := by
      unfold askedEnding
      cases askedConflict? steps <;> cases (askedItems steps).isEmpty <;> exact id
    exact ⟨fun h => absurd h hNot, fun h => absurd h.1 (not_afterTarget_askedEnding steps)⟩
  | [origin] => cases origin <;> simp [AfterColumns, AfterTarget]
  | first :: second :: rows =>
    cases first <;> simp [AfterColumns, AfterTarget, AfterRows, AfterConflict]

/-- The defaults are asked for exactly by a step that passes them. -/
theorem defaults_mem_askedRows_iff (steps : List Step) :
    .defaults ∈ askedRows steps ↔ .defaults ∈ steps := by
  have hValues : Rows.defaults ∉
      (if (passedRows steps).isEmpty then [] else [.values (passedRows steps)]) := by
    split <;> simp
  rw [askedRows, List.mem_append, or_iff_right hValues, List.mem_filterMap]
  constructor
  · rintro ⟨step, hStep, hSingle⟩
    cases step with
    | defaults => exact hStep
    | query q => cases hSingle
    | row values => cases hSingle
    | doNothing targets => cases hSingle
    | doUpdate targets upsert => cases hSingle
    | returning items => cases hSingle
  · exact fun hStep => ⟨.defaults, hStep, rfl⟩

/-- Without a column list, steps ask for a sentence if they name a target, agree on one origin of
the rows, and complete the conflict clause. -/
theorem sentence_asked_nil_iff (target : Relation) (steps : List Step) :
    Sentence (asked target [] steps) ↔ TargetName target ∧
      (∃ origin, askedRows steps = [origin] ∧ Filled origin) ∧
        ∀ conflict ∈ askedConflict? steps, Complete conflict :=
  and_congr_right fun _ => afterTarget_rows_iff (askedRows steps) steps

/-- A column list takes from the sentences those that have the column defaults for rows. -/
theorem sentence_asked_iff (target : Relation) (columns : List String) (steps : List Step) :
    Sentence (asked target columns steps) ↔
      Sentence (asked target [] steps) ∧ ¬ ListsDefaults columns steps := by
  cases columns with
  | nil => exact (and_iff_left fun hLists => hLists.1 rfl).symm
  | cons first columns =>
    have hListed : ListsDefaults (first :: columns) steps ↔ .defaults ∈ askedRows steps := by
      rw [defaults_mem_askedRows_iff]
      exact and_iff_right (List.cons_ne_nil first columns)
    have hColumns : Sentence (asked target (first :: columns) steps) ↔ TargetName target ∧
        AfterColumns ((askedRows steps).map .rows ++ askedEnding steps) :=
      and_congr_right fun _ => and_iff_right (List.cons_ne_nil first columns)
    rw [hColumns, hListed, afterColumns_rows_iff, ← and_assoc]
    exact Iff.rfl

-- ---------------------------------------------------------------------------
-- Steps that fit
-- ---------------------------------------------------------------------------

/-- Whether each step fits behind the earlier ones. -/
def Fits (columns : List String) (steps : List Step) : Prop :=
  ∀ before step after, steps = before ++ step :: after →
    step.misfit? columns (before.filter (·.origin?.isSome)) = none

/-- Nothing was refused exactly if each step fits behind the earlier ones. -/
theorem History.misuses_eq_nil_iff {columns : List String} {history : History}
    {steps : List Step} :
    (steps.foldl (add columns) history).misuses = [] ↔
      history.misuses = [] ∧ ∀ before step after, steps = before ++ step :: after →
        step.misfit? columns (history.accepted ++ before.filter (·.origin?.isSome)) = none := by
  induction steps generalizing history with
  | nil => simp
  | cons first steps ih =>
    rw [List.foldl_cons, ih]
    cases hMisfit : first.misfit? columns history.accepted with
    | some cause =>
      rw [add_of_misfit hMisfit]
      constructor
      · rintro ⟨hNone, -⟩
        exact absurd hNone (List.append_ne_nil_of_right_ne_nil _ (List.cons_ne_nil _ _))
      · rintro ⟨-, hFits⟩
        have hFirst := hFits [] first steps rfl
        rw [List.filter_nil, List.append_nil, hMisfit] at hFirst
        cases hFirst
    | none =>
      rw [add_of_fit hMisfit]
      refine and_congr_right fun _ => ⟨fun hRest before step after hSplit => ?_, ?_⟩
      · cases before with
        | nil =>
          obtain ⟨rfl, -⟩ := List.cons.inj hSplit
          rwa [List.filter_nil, List.append_nil]
        | cons head before =>
          obtain ⟨rfl, hSteps⟩ := List.cons.inj hSplit
          have hFits := hRest before step after hSteps
          rwa [List.append_assoc, ← List.filter_append] at hFits
      · intro hFits before step after hSplit
        rw [List.append_assoc, ← List.filter_append]
        exact hFits (first :: before) step after (congrArg (first :: ·) hSplit)

/-- The rows of accepted steps are the one origin that these ask for. -/
theorem Accepted.askedRows_eq {columns : List String} {accepted : List Step}
    {rows : Option Rows} (h : Accepted columns accepted rows) :
    askedRows accepted = rows.toList ∧ ∀ origin ∈ rows, Filled origin := by
  cases h with
  | nothing => exact ⟨rfl, nofun⟩
  | query q => exact ⟨rfl, fun _ hRows => Option.some.inj hRows ▸ trivial⟩
  | defaults => exact ⟨rfl, fun _ hRows => Option.some.inj hRows ▸ trivial⟩
  | values first rows hFirst hColumns hRows =>
    have hSingles : ((first :: rows).map Step.row).filterMap Step.single? = [] := by
      rw [List.filterMap_map]
      exact List.filterMap_eq_nil_iff.mpr fun _ _ => rfl
    refine ⟨?_, ?_⟩
    · rw [askedRows, hSingles, passedRows_map_row]
      rfl
    · rintro _ ⟨⟩
      refine ⟨List.cons_ne_nil _ _, List.forall_mem_cons.mpr ⟨hFirst, fun row hRow => ?_⟩⟩
      rw [← List.length_pos_iff, hRows row hRow]
      exact List.length_pos_of_ne_nil hFirst

/-- Only steps that concern the rows ask for rows. -/
theorem askedRows_filter (steps : List Step) :
    askedRows (steps.filter (·.origin?.isSome)) = askedRows steps := by
  have hSingles : (steps.filter (·.origin?.isSome)).filterMap Step.single? =
      steps.filterMap Step.single? := by
    rw [List.filterMap_filter]
    apply List.filterMap_congr
    intro step _
    cases step <;> rfl
  rw [askedRows, askedRows, passedRows_filter, hSingles]

/-- Of the relations that can be built, exactly those can be a target that are accepted as one. -/
theorem targetName_iff {target : Relation} (hBuilt : target.Built) :
    TargetName target ↔ targetMisfit? target = none := by
  cases target with
  | table schema name => exact iff_of_true trivial rfl
  | aliased relation name => exact iff_of_true (hBuilt.named_of_aliased rfl) rfl
  | derived query name => exact iff_of_false id nofun
  | excluded => exact iff_of_false id nofun

/-- One origin is all rows that are passed, or what one step asks for. -/
theorem askedRows_eq_singleton_iff {steps : List Step} {origin : Rows} :
    askedRows steps = [origin] ↔
      (passedRows steps ≠ [] ∧ .values (passedRows steps) = origin ∧
          steps.filterMap Step.single? = []) ∨
        passedRows steps = [] ∧ steps.filterMap Step.single? = [origin] := by
  unfold askedRows
  by_cases hPassed : passedRows steps = []
  · simp [hPassed]
  · simp [hPassed]

/-- No rows are asked for exactly if no step passes any. -/
theorem askedRows_eq_nil_iff {steps : List Step} :
    askedRows steps = [] ↔ steps.filter (·.origin?.isSome) = [] := by
  have hRows : askedRows steps = [] ↔
      ∀ step ∈ steps, step.row? = none ∧ step.single? = none := by
    simp [askedRows, passedRows, List.filterMap_eq_nil_iff, forall_and]
  rw [hRows, List.filter_eq_nil_iff]
  refine forall₂_congr fun step _ => ?_
  cases step <;> simp [Step.row?, Step.single?, Step.origin?]

/-- Where there is one origin, no step that concerns the rows stands before one that asks for rows
on its own. -/
theorem filter_eq_nil_of_single {before after : List Step} {step : Step} {rows origin : Rows}
    (hSingle : step.single? = some rows)
    (hOne : askedRows (before ++ step :: after) = [origin]) :
    before.filter (·.origin?.isSome) = [] := by
  have hSingles : (before ++ step :: after).filterMap Step.single? =
      before.filterMap Step.single? ++ rows :: after.filterMap Step.single? := by
    rw [List.filterMap_append, List.filterMap_cons_some hSingle]
  rcases askedRows_eq_singleton_iff.mp hOne with ⟨-, -, hNone⟩ | ⟨hPassed, hSome⟩
  · rw [hSingles] at hNone
    exact absurd hNone (List.append_ne_nil_of_right_ne_nil _ (List.cons_ne_nil _ _))
  · rw [passedRows, List.filterMap_append, List.append_eq_nil_iff] at hPassed
    have hBefore : before.filterMap Step.single? = [] := by
      rw [hSingles, List.append_eq_singleton_iff] at hSome
      rcases hSome with ⟨hNone, -⟩ | ⟨-, hCons⟩
      · exact hNone
      · cases hCons
    rw [← askedRows_eq_nil_iff, askedRows, passedRows, hPassed.1, hBefore]
    rfl

/-- A row goes behind rows. -/
theorem clash?_values_eq_none {accepted : List Step}
    (h : ∀ step ∈ accepted, step.single? = none) : clash? accepted .values = none := by
  cases accepted with
  | nil => rfl
  | cons first rest =>
    have hFirst := h first (List.mem_cons_self ..)
    cases first with
    | row values => rfl
    | query q => cases hFirst
    | defaults => cases hFirst
    | doNothing targets => rfl
    | doUpdate targets upsert => rfl
    | returning items => rfl

/-- A row is not too long or too short if it is as long as the columns and the earlier rows. -/
theorem wrongLength?_eq_none {columns : List String} {accepted : List Step} {row : List Expr}
    {n : Nat} (hColumns : columns ≠ [] → n = columns.length)
    (hAccepted : ∀ other ∈ passedRows accepted, other.length = n) (hRow : row.length = n) :
    wrongLength? columns accepted row = none := by
  have hExpected : ∀ expected ∈ expectedLength? columns accepted, row.length = expected := by
    intro expected hExpected
    unfold expectedLength? at hExpected
    split at hExpected
    · obtain ⟨first, hFirst, rfl⟩ := Option.map_eq_some_iff.mp hExpected
      rw [hRow, hAccepted first (List.mem_of_mem_head? hFirst)]
    · rename_i hListed
      rw [hRow, hColumns fun hNone => hListed (List.isEmpty_iff.mpr hNone)]
      exact Option.some.inj hExpected
  unfold wrongLength?
  cases hSome : expectedLength? columns accepted with
  | none => rfl
  | some expected => exact if_pos (hExpected expected hSome)

/-- A conflict clause fits exactly if it is complete, wherever it stands. -/
theorem misfit?_conflict_iff {columns : List String} {accepted : List Step} {step : Step}
    {conflict : Conflict} (h : step.conflict? = some conflict) :
    step.misfit? columns accepted = none ↔ Complete conflict := by
  cases step with
  | doNothing targets =>
    cases h
    exact iff_of_true rfl trivial
  | doUpdate targets upsert =>
    cases h
    cases hAssigned : upsert.assignments.isEmpty <;>
      simp [Step.misfit?, Complete, hAssigned]
  | row values => cases h
  | query q => cases h
  | defaults => cases h
  | returning items => cases h

/-- A row of the one origin fits behind the other rows. -/
theorem Orderly.misfit?_row_eq_none {columns : List String} {before after : List Step}
    {values : List Expr} (h : Orderly columns (before ++ .row values :: after)) {origin : Rows}
    (hOne : askedRows (before ++ .row values :: after) = [origin]) (hFilled : Filled origin) :
    (Step.row values).misfit? columns (before.filter (·.origin?.isSome)) = none := by
  have hRow : values ∈ passedRows (before ++ .row values :: after) :=
    List.mem_filterMap.mpr ⟨_, List.mem_append_right _ (List.mem_cons_self ..), rfl⟩
  obtain ⟨-, rfl, hNone⟩ := (askedRows_eq_singleton_iff.mp hOne).resolve_right
    fun hOther => List.ne_nil_of_mem hRow hOther.1
  have hValues : ¬ values.isEmpty = true := by simpa using hFilled.2 values hRow
  have hClash : clash? (before.filter (·.origin?.isSome)) .values = none := by
    apply clash?_values_eq_none
    exact fun other hOther => List.filterMap_eq_nil_iff.mp hNone other
      (List.mem_append_left _ (List.mem_filter.mp hOther).1)
  obtain ⟨n, hColumns, hLengths⟩ := h.lengths
  have hLength : wrongLength? columns (before.filter (·.origin?.isSome)) values = none := by
    refine wrongLength?_eq_none hColumns (fun other hOther => hLengths other ?_)
      (hLengths values hRow)
    rw [passedRows_filter] at hOther
    rw [passedRows, List.filterMap_append]
    exact List.mem_append_left _ hOther
  rw [Step.misfit?, if_neg hValues, hLength, hClash]
  rfl

/-- Steps that ask for one origin of rows and are in order fit one behind the other. -/
theorem Orderly.fits {columns : List String} {steps : List Step} (h : Orderly columns steps)
    {origin : Rows} (hOne : askedRows steps = [origin]) (hFilled : Filled origin) :
    Fits columns steps := by
  rintro before step after rfl
  cases step with
  | row values => exact h.misfit?_row_eq_none hOne hFilled
  | query q =>
    rw [Step.misfit?, filter_eq_nil_of_single rfl hOne]
    rfl
  | defaults =>
    rw [Step.misfit?, filter_eq_nil_of_single rfl hOne]
    rfl
  | doUpdate targets upsert =>
    have hConflict : (Step.doUpdate targets upsert).conflict? = some ⟨targets, .update upsert⟩ :=
      rfl
    have hMem : .doUpdate targets upsert ∈ before ++ .doUpdate targets upsert :: after :=
      List.mem_append_right _ (List.mem_cons_self ..)
    exact (misfit?_conflict_iff hConflict).mpr
      (h.upserts _ (List.mem_filterMap.mpr ⟨_, hMem, hConflict⟩))
  | doNothing targets => rfl
  | returning items => rfl

/-- No step is refused exactly if the target is one and each step fits behind the earlier ones. -/
theorem misuse_build_eq_none_iff {target : Relation} (hBuilt : target.Built)
    (columns : List String) (steps : List Step) :
    (build target columns steps).misuse = none ↔
      TargetName target ∧ Fits columns steps := by
  rw [(describes_build target columns steps).misuse, List.head?_eq_none_iff, History.of,
    History.misuses_eq_nil_iff, targetName_iff hBuilt, Option.toList_eq_nil_iff]
  exact Iff.rfl

/-- Where nothing was refused, every step that concerns the rows was accepted. -/
theorem accepted_build {target : Relation} {columns : List String} {steps : List Step}
    (h : (build target columns steps).misuse = none) :
    Accepted columns (steps.filter (·.origin?.isSome)) (build target columns steps).rows := by
  have hDescribes := describes_build target columns steps
  have hMisuses : (History.of target columns steps).misuses = [] := by
    rw [← List.head?_eq_none_iff, ← hDescribes.misuse, h]
  have hAll := (History.accepted_of_misuses_nil hMisuses).2
  rw [List.nil_append] at hAll
  exact hAll ▸ hDescribes.rows

/-- The rows of a statement are the one origin that its steps ask for. -/
theorem askedRows_build {target : Relation} {columns : List String} {steps : List Step}
    {origin : Rows} (hMisuse : (build target columns steps).misuse = none)
    (hRows : (build target columns steps).rows = some origin) :
    askedRows steps = [origin] ∧ Filled origin := by
  obtain ⟨hAsked, hFilled⟩ := (accepted_build hMisuse).askedRows_eq
  rw [askedRows_filter, hRows, Option.toList_some] at hAsked
  exact ⟨hAsked, hFilled origin hRows⟩

/-- Steps that built a statement with rows, none of them refused, were orderly. -/
theorem orderly_build {target : Relation} (hBuilt : target.Built) {columns : List String}
    {steps : List Step} {origin : Rows} (hMisuse : (build target columns steps).misuse = none)
    (hRows : (build target columns steps).rows = some origin) : Orderly columns steps := by
  have hFits := ((misuse_build_eq_none_iff hBuilt columns steps).mp hMisuse).2
  constructor
  case upserts =>
    intro conflict hConflict
    obtain ⟨step, hStep, hSame⟩ := List.mem_filterMap.mp hConflict
    obtain ⟨before, after, hSplit⟩ := List.append_of_mem hStep
    exact (misfit?_conflict_iff hSame).mp (hFits before step after hSplit)
  case lengths =>
    have hOne := (askedRows_build hMisuse hRows).1
    rcases askedRows_eq_singleton_iff.mp hOne with ⟨-, rfl, -⟩ | ⟨hPassed, -⟩
    · obtain ⟨-, n, -, hColumns, hLengths⟩ := (hRows ▸ accepted_build hMisuse).lengths
      exact ⟨n, hColumns, hLengths⟩
    · refine ⟨columns.length, fun _ => rfl, fun row hRow => ?_⟩
      rw [hPassed] at hRow
      cases hRow

/-- Which steps make a statement: those that ask for a sentence, if one does not look at the column
list, and are in order. -/
theorem fault_build_eq_none_iff {target : Relation} (hBuilt : target.Built)
    (columns : List String) (steps : List Step) :
    (build target columns steps).fault = none ↔
      Sentence (asked target [] steps) ∧ Orderly columns steps := by
  have hMisuse := misuse_build_eq_none_iff hBuilt columns steps
  rw [fault_eq_none_iff, sentence_asked_nil_iff]
  constructor
  · rintro ⟨hNone, hSome⟩
    obtain ⟨origin, hRows⟩ := Option.isSome_iff_exists.mp hSome
    have hOrderly := orderly_build hBuilt hNone hRows
    exact ⟨⟨(hMisuse.mp hNone).1, ⟨origin, askedRows_build hNone hRows⟩, fun conflict hLast =>
      hOrderly.upserts conflict (List.mem_of_getLast? hLast)⟩, hOrderly⟩
  · rintro ⟨⟨hTarget, ⟨origin, hOne, hFilled⟩, -⟩, hOrderly⟩
    have hNone : (build target columns steps).misuse = none :=
      hMisuse.mpr ⟨hTarget, hOrderly.fits hOne hFilled⟩
    refine ⟨hNone, (accepted_build hNone).isSome_iff.mpr fun hEmpty => ?_⟩
    have hNoRows := askedRows_eq_nil_iff.mpr hEmpty
    rw [hOne] at hNoRows
    cases hNoRows

-- ---------------------------------------------------------------------------
-- What is written
-- ---------------------------------------------------------------------------

/-- A step that concerns the rows leaves the clauses behind them alone. -/
theorem ending_withRows (insert : Insert) (rows : Rows) :
    (insert.withRows rows).conflict = insert.conflict ∧
      (insert.withRows rows).returning = insert.returning := by
  unfold withRows
  split
  · exact ⟨rfl, rfl⟩
  · exact ⟨rfl, rfl⟩

/-- A row that is added leaves what stands behind the rows as it is. -/
theorem ending_appendRow (insert : Insert) (row : List Expr) :
    (insert.appendRow row).conflict = insert.conflict ∧
      (insert.appendRow row).returning = insert.returning := by
  unfold appendRow
  split
  · exact ⟨rfl, rfl⟩
  · exact insert.ending_withRows _

/-- A row leaves what stands behind the rows as it is, even if it is refused. -/
theorem ending_withRow (insert : Insert) (row : List Expr) :
    (insert.withRow row).conflict = insert.conflict ∧
      (insert.withRow row).returning = insert.returning := by
  unfold withRow
  split
  · exact ⟨rfl, rfl⟩
  · split
    · split
      · exact insert.ending_appendRow row
      · exact ⟨rfl, rfl⟩
    · exact insert.ending_appendRow row

/-- What a step does to the clauses behind the rows. -/
theorem ending_apply (insert : Insert) (step : Step) :
    (insert.apply step).conflict = step.conflict?.or insert.conflict ∧
      (insert.apply step).returning = insert.returning ++ step.items := by
  cases step with
  | row values =>
    rw [Step.items, List.append_nil]
    exact insert.ending_withRow values
  | query q =>
    rw [Step.items, List.append_nil]
    exact insert.ending_withRows _
  | defaults =>
    rw [Step.items, List.append_nil]
    exact insert.ending_withRows _
  | doNothing targets => exact ⟨rfl, (List.append_nil _).symm⟩
  | doUpdate targets upsert =>
    refine ⟨rfl, ?_⟩
    rw [Step.items, List.append_nil, apply, onConflictDoUpdate]
    dsimp only
    split <;> split <;> rfl
  | returning items => exact ⟨rfl, rfl⟩

/-- The clauses behind the rows are those that the steps ask for. -/
theorem ending_build (target : Relation) (columns : List String) (steps : List Step) :
    (build target columns steps).conflict = askedConflict? steps ∧
      (build target columns steps).returning = askedItems steps := by
  induction steps using List.reverseRecOn with
  | nil => cases target <;> exact ⟨rfl, rfl⟩
  | append_singleton steps step ih =>
    obtain ⟨hConflict, hItems⟩ := ih
    obtain ⟨hLast, hMore⟩ := (build target columns steps).ending_apply step
    rw [build_append, List.foldl_cons, List.foldl_nil, hLast, hMore, hConflict, hItems]
    constructor
    · rw [askedConflict?, askedConflict?, List.filterMap_append, List.getLast?_append]
      cases hStep : step.conflict? with
      | none => rw [List.filterMap_cons_none hStep]; rfl
      | some conflict => rw [List.filterMap_cons_some hStep]; rfl
    · rw [askedItems, askedItems, List.flatMap_append, List.flatMap_singleton]

/-- The column list is laid out as its clause, if it is there at all. -/
theorem flatMap_layouts_columns (auto : Bool) (columns : List String) :
    (if columns.isEmpty then [] else [Clause.columns columns]).flatMap (Clause.layouts auto) =
      columnsClause columns := by
  unfold columnsClause
  split
  · rfl
  · rfl

/-- The clauses behind the rows are laid out as the statement lays them out. -/
theorem flatMap_layouts_askedEnding (auto : Bool) (steps : List Step) :
    (askedEnding steps).flatMap (Clause.layouts auto) =
      conflictClauses auto (askedConflict? steps) ++
        Layout.listClause "RETURNING" ((askedItems steps).map (·.layout auto .declaration)) := by
  have hConflict : ((askedConflict? steps).toList.map Clause.conflict).flatMap
      (Clause.layouts auto) = conflictClauses auto (askedConflict? steps) := by
    cases askedConflict? steps with
    | none => rfl
    | some conflict => exact List.append_nil _
  have hItems : (if (askedItems steps).isEmpty then []
        else [Clause.returning (askedItems steps)]).flatMap (Clause.layouts auto) =
      Layout.listClause "RETURNING" ((askedItems steps).map (·.layout auto .declaration)) := by
    unfold Layout.listClause
    rw [List.isEmpty_map]
    split
    · rfl
    · rfl
  rw [askedEnding, List.flatMap_append, hConflict, hItems]

/-- A statement has the clauses that its steps ask for. -/
theorem clauses_build {target : Relation} {columns : List String} {steps : List Step}
    (h : (build target columns steps).fault = none) (auto : Bool) :
    (build target columns steps).clauses auto =
      (asked target columns steps).flatMap (Clause.layouts auto) := by
  obtain ⟨hMisuse, hSome⟩ := (fault_eq_none_iff _).mp h
  obtain ⟨origin, hRows⟩ := Option.isSome_iff_exists.mp hSome
  obtain ⟨hConflict, hItems⟩ := ending_build target columns steps
  have hColumns := (describes_build target columns steps).listed
  have hOne := (askedRows_build hMisuse hRows).1
  rw [clauses, hMisuse, hRows, asked, List.flatMap_cons, List.flatMap_append, List.flatMap_append,
    flatMap_layouts_columns, flatMap_layouts_askedEnding, hOne]
  simp only [head, target_build, hColumns, hConflict, hItems, List.append_assoc]
  rfl

-- ---------------------------------------------------------------------------
-- The grammar of what is written
-- ---------------------------------------------------------------------------

/-- Steps that do not make a statement are reported, whatever the options are. -/
theorem render_of_fault {target : Relation} (hBuilt : target.Built) {columns : List String}
    {steps : List Step} {cause : Misuse} (h : (build target columns steps).fault = some cause)
    (options : Options) :
    (Statement.insert (build target columns steps)).render options = .error (.misuse cause) := by
  have hFault : (Statement.insert (build target columns steps)).fault = some cause := h
  have hTags : ((Statement.insert (build target columns steps)).layout options.inferring).tags =
      [] :=
    (Statement.Built.insert columns steps hBuilt).untagged_of_fault hFault options.inferring
  have hAllowed : ¬ ∃ tag ∈ ([] : List String), options.placeholder.Refuses tag := by
    rintro ⟨tag, hTag, -⟩
    exact List.not_mem_nil hTag
  rw [Statement.render_eq_outcome, Layout.outcome.eq_def, hTags, hFault]
  exact if_neg hAllowed

/-- How an INSERT that is built by steps goes with the grammar. -/
structure KeepsGrammar (target : Relation) (columns : List String) (steps : List Step) : Prop where
  /-- What is written are the clauses that the steps ask for, with one space between each two. -/
  written : ∀ options rendering,
    (Statement.insert (build target columns steps)).render options = .ok rendering →
      rendering.sql = (Layout.spaced
        ((asked target columns steps).flatMap (Clause.layouts options.inferring))).spelling
          options.placeholder []
  /-- They are a sentence, but for the column defaults behind a column list. -/
  sentence_iff : ∀ options rendering,
    (Statement.insert (build target columns steps)).render options = .ok rendering →
      (Sentence (asked target columns steps) ↔ ¬ ListsDefaults columns steps)
  /-- Also then, they are a sentence but for the column list. -/
  unlisted : ∀ options rendering,
    (Statement.insert (build target columns steps)).render options = .ok rendering →
      Sentence (asked target [] steps)
  /-- Every other combination of steps that is no sentence is reported. -/
  reported : ¬ Sentence (asked target columns steps) → ¬ ListsDefaults columns steps →
    ∀ options, ∃ cause,
      (Statement.insert (build target columns steps)).render options = .error (.misuse cause)
  /-- What is not written is reported as a misuse, but for an anonymous argument where arguments are
  written by their names. -/
  failures : ∀ options error,
    (Statement.insert (build target columns steps)).render options = .error error →
      (∃ cause, error = .misuse cause) ∨
        error = .anonymousArgument ∧ options.placeholder = .named ∧
          Sentence (asked target [] steps) ∧ Orderly columns steps
  /-- Nothing but sentences is written, and of them those that are in order. -/
  renders_iff : ∀ inferring,
    (∃ rendering, (Statement.insert (build target columns steps)).render
      ⟨.positional, inferring⟩ = .ok rendering) ↔
        Sentence (asked target [] steps) ∧ Orderly columns steps

/-- An INSERT that is written is a sentence of the grammar unless it has the column defaults behind
a column list, and every other combination of steps is reported. -/
theorem written_by_grammar {target : Relation} (hBuilt : target.Built) (columns : List String)
    (steps : List Step) : KeepsGrammar target columns steps := by
  have hFits := fault_build_eq_none_iff hBuilt columns steps
  have hFault : ∀ options rendering,
      (Statement.insert (build target columns steps)).render options = .ok rendering →
        (build target columns steps).fault = none :=
    fun _ _ hRender => (Statement.of_render_ok hRender).2.2
  constructor
  case written =>
    intro options rendering hRender
    rw [Statement.sql_of_ok hRender, ← clauses_build (hFault options rendering hRender)]
    rfl
  case sentence_iff =>
    intro options rendering hRender
    rw [sentence_asked_iff]
    exact and_iff_right (hFits.mp (hFault options rendering hRender)).1
  case unlisted =>
    exact fun options rendering hRender => (hFits.mp (hFault options rendering hRender)).1
  case reported =>
    intro hSentence hLists options
    cases hCause : (build target columns steps).fault with
    | some cause => exact ⟨cause, render_of_fault hBuilt hCause options⟩
    | none =>
      exact absurd ((sentence_asked_iff target columns steps).mpr ⟨(hFits.mp hCause).1, hLists⟩)
        hSentence
  case failures =>
    intro options error hRender
    cases hCause : (build target columns steps).fault with
    | some cause =>
      rw [render_of_fault hBuilt hCause options] at hRender
      exact Or.inl ⟨cause, (Except.error.inj hRender).symm⟩
    | none =>
      have hNone : (Statement.insert (build target columns steps)).fault = none := hCause
      rw [Statement.render_eq_outcome, Layout.outcome.eq_def, hNone] at hRender
      split at hRender
      · rename_i hTag
        obtain ⟨tag, -, hStyle, -⟩ := hTag
        exact Or.inr ⟨(Except.error.inj hRender).symm, hStyle, hFits.mp hCause⟩
      · cases hRender
  case renders_iff =>
    intro inferring
    rw [Statement.exists_render_positional_iff]
    exact hFits

/-- An upsert of one row that gives back a column is a sentence, in whatever order its parts come;
with a query for a second origin of its rows it is none, and it is reported. -/
theorem written_by_grammar_upsert :
    let key : Expr := .column (.table none "t") "a"
    let steps : List Step :=
      [.returning [key], .doUpdate [key] ⟨⟨[("b", .literal "2")]⟩, []⟩, .row [.literal "1"]]
    (Statement.insert (build (.table none "t") ["a"] steps)).render ⟨.positional, true⟩ =
        .ok ⟨"INSERT INTO \"t\" (\"a\") VALUES (1) " ++
          "ON CONFLICT (\"a\") DO UPDATE SET \"b\" = 2 RETURNING \"t\".\"a\"", [], .positional⟩ ∧
      Sentence (asked (.table none "t") ["a"] steps) ∧ Orderly ["a"] steps ∧
      ∃ cause, (Statement.insert (build (.table none "t") ["a"] (steps ++ [.query {}]))).render
        ⟨.named, true⟩ = .error (.misuse cause) := by
  intro key steps
  have hUpsert := written_by_grammar (.table none "t") ["a"] steps
  have hQuery := written_by_grammar (.table none "t") ["a"] (steps ++ [.query {}])
  have hRender : (Statement.insert (build (.table none "t") ["a"] steps)).render
      ⟨.positional, true⟩ = .ok ⟨"INSERT INTO \"t\" (\"a\") VALUES (1) " ++
        "ON CONFLICT (\"a\") DO UPDATE SET \"b\" = 2 RETURNING \"t\".\"a\"", [], .positional⟩ := by
    decide +kernel
  have hUnlisted : ¬ ListsDefaults ["a"] steps := by simp [ListsDefaults, steps]
  have hQueryUnlisted : ¬ ListsDefaults ["a"] (steps ++ [.query {}]) := by
    simp [ListsDefaults, steps]
  refine ⟨hRender, (hUpsert.sentence_iff _ _ hRender).mpr hUnlisted,
    ((hUpsert.renders_iff true).mp ⟨_, hRender⟩).2, ?_⟩
  -- behind the row there is the query
  exact hQuery.reported (fun hSentence => hSentence.2.2.2) hQueryUnlisted _

/-- The column defaults are written behind a column list, which no sentence has there. -/
theorem listed_defaults_written :
    (Statement.insert (build (.table none "t") ["a"] [.defaults])).render ⟨.positional, true⟩ =
        .ok ⟨"INSERT INTO \"t\" (\"a\") DEFAULT VALUES", [], .positional⟩ ∧
      ¬ Sentence (asked (.table none "t") ["a"] [.defaults]) := by
  refine ⟨by decide +kernel, fun hSentence => ?_⟩
  exact hSentence.2.2

end QueryText.Insert

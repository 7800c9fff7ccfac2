import QueryText.Proofs.Building
import QueryText.Proofs.Styles

/-!
# QueryText — the steps of an INSERT

An INSERT keeps the rows so far and the first misuse, and judges each step by them. Here a step is
judged by the steps before it that were accepted, and the whole history is kept: every accepted
step that concerns the rows, and every misuse. The statement is then what its history says: its
rows are those of the accepted steps, and its misuse is the first of the list.

## Main results

* `Insert.History.Describes.add`, `Insert.describes_build` — what one step preserves, and all steps.
* `Insert.steps_contract` — when an INSERT can be rendered, what it writes, and what it reports.
-/

namespace QueryText

namespace Insert

-- ---------------------------------------------------------------------------
-- Histories
-- ---------------------------------------------------------------------------

/-- Where a step wants the rows to come from. -/
def Step.origin? : Step → Option RowOrigin
  | row _ => some .values
  | query _ => some .query
  | defaults => some .defaults
  | doNothing _ | doUpdate _ _ | returning _ => none

def Step.row? : Step → Option (List Expr)
  | row values => some values
  | query _ | defaults | doNothing _ | doUpdate _ _ | returning _ => none

/-- The rows that steps pass, in order. -/
def passedRows (steps : List Step) : List (List Expr) :=
  steps.filterMap Step.row?

/-- What is wrong with a further origin: the rows come from one place, and only VALUES can be
given more than once. -/
def clash? (accepted : List Step) (added : RowOrigin) : Option Misuse :=
  (accepted.head?.bind Step.origin?).bind fun present =>
    if present = .values ∧ added = .values then none else some (.secondOrigin present added)

/-- The length that a row must have: that of the column list, or of the first accepted row if no
columns are listed. -/
def expectedLength? (columns : List String) (accepted : List Step) : Option Nat :=
  if columns.isEmpty then (passedRows accepted).head?.map List.length else some columns.length

def wrongLength? (columns : List String) (accepted : List Step) (row : List Expr) :
    Option Misuse :=
  (expectedLength? columns accepted).bind fun expected =>
    if row.length = expected then none else some (.rowLength row.length expected)

/-- What is wrong with a step after the accepted ones, if anything is. -/
def Step.misfit? (columns : List String) (accepted : List Step) : Step → Option Misuse
  | row values =>
    if values.isEmpty then some .emptyRow
    else (wrongLength? columns accepted values).or (clash? accepted .values)
  | query _ => clash? accepted .query
  | defaults => clash? accepted .defaults
  | doUpdate targets upsert =>
    if upsert.assignments.isEmpty then some .conflictWithoutAssignment
    else if targets.isEmpty then some .conflictWithoutTarget
    else none
  | doNothing _ | returning _ => none

/-- What is wrong with a target, if anything is. -/
def targetMisfit? : Relation → Option Misuse
  | .derived _ name => some (.notATable name)
  | .excluded => some (.notATable Relation.excludedName)
  | .table .. | .aliased .. => none

/-- What has happened to a statement. -/
structure History where
  /-- The accepted steps that concern the rows, in order. -/
  accepted : List Step := []
  /-- Every misuse, in order. -/
  misuses : List Misuse := []

namespace History

/-- The history after one more step. -/
def add (columns : List String) (history : History) (step : Step) : History :=
  match step.misfit? columns history.accepted with
  | some cause => { history with misuses := history.misuses ++ [cause] }
  | none =>
    if step.origin?.isSome then { history with accepted := history.accepted ++ [step] }
    else history

/-- The history of a statement that was built by steps. -/
def of (target : Relation) (columns : List String) (steps : List Step) : History :=
  steps.foldl (add columns) { misuses := (targetMisfit? target).toList }

/-- A step that does not fit is noted and goes no further. -/
theorem add_of_misfit {columns : List String} {history : History} {step : Step} {cause : Misuse}
    (h : step.misfit? columns history.accepted = some cause) :
    history.add columns step = { history with misuses := history.misuses ++ [cause] } := by
  rw [add, h]

/-- A step that fits is accepted. -/
theorem add_of_fit {columns : List String} {history : History} {step : Step}
    (h : step.misfit? columns history.accepted = none) :
    history.add columns step =
      { history with accepted := history.accepted ++ [step].filter (·.origin?.isSome) } := by
  rw [add, h]
  by_cases hSource : step.origin?.isSome = true
  · simp [hSource]
  · simp [hSource]

end History

-- ---------------------------------------------------------------------------
-- What a statement owes to its history
-- ---------------------------------------------------------------------------

/-- The rows of a statement with the steps that they come from. -/
inductive Accepted (columns : List String) : List Step → Option Rows → Prop where
  | nothing : Accepted columns [] none
  | query (query : Select) : Accepted columns [.query query] (some (.query query))
  | defaults : Accepted columns [.defaults] (some .defaults)
  | values (first : List Expr) (rows : List (List Expr)) (hFirst : first ≠ [])
    (hColumns : columns ≠ [] → first.length = columns.length)
    (hRows : ∀ row ∈ rows, row.length = first.length) :
    Accepted columns ((first :: rows).map .row) (some (.values (first :: rows)))

theorem passedRows_map_row (rows : List (List Expr)) : passedRows (rows.map .row) = rows := by
  rw [passedRows, List.filterMap_map]
  exact List.filterMap_some

namespace Accepted

variable {columns : List String} {accepted : List Step} {rows : Option Rows}

/-- The first accepted step tells where the rows come from. -/
theorem origin_eq (h : Accepted columns accepted rows) :
    accepted.head?.bind Step.origin? = rows.map Rows.origin := by
  cases h <;> rfl

/-- Another origin clashes with the first one, but rows of values go together. -/
theorem clash?_eq (h : Accepted columns accepted rows) (added : RowOrigin) :
    clash? accepted added = (rows.map Rows.origin).bind fun present =>
      if present = .values ∧ added = .values then none
      else some (.secondOrigin present added) := by
  rw [clash?, h.origin_eq]

/-- The first accepted row sets the length of all. -/
theorem head?_passedRows_eq : Accepted columns accepted rows →
    (passedRows accepted).head?.map List.length =
      match rows with
      | some (.values rows) => rows.head?.map List.length
      | _ => none := by
  rintro (_ | _ | _ | ⟨first, rows⟩)
  · rfl
  · rfl
  · rfl
  · rw [passedRows_map_row]

/-- Without rows no step was accepted that passes any. -/
theorem eq_nil (h : Accepted columns accepted none) : accepted = [] := by
  cases h
  rfl

/-- A row after others that has the length of the first one. -/
theorem nextRow {rows : List (List Expr)} {row : List Expr}
    (h : Accepted columns accepted (some (.values rows)))
    (hLength : ∀ n ∈ expectedLength? columns accepted, row.length = n) :
    Accepted columns (accepted ++ [.row row]) (some (.values (rows ++ [row]))) := by
  cases h with
  | values first rows hFirst hColumns hRows =>
    have hSame : row.length = first.length := by
      -- without a column list the first row sets the length, else it has the length of the list
      by_cases hNone : columns = []
      · apply hLength
        rw [expectedLength?, if_pos (by simp [hNone]), passedRows_map_row]
        rfl
      · rw [hColumns hNone]
        exact hLength _ (if_neg (by simpa using hNone))
    have hAll : ∀ other ∈ rows ++ [row], other.length = first.length := by
      rw [List.forall_mem_append, List.forall_mem_singleton]
      exact ⟨hRows, hSame⟩
    have hMore := Accepted.values first (rows ++ [row]) hFirst hColumns hAll
    rwa [← List.cons_append, List.map_append] at hMore

end Accepted

/-- A history describes a statement. -/
structure History.Describes (columns : List String) (history : History) (insert : Insert) :
    Prop where
  listed : insert.columns = columns
  rows : Accepted columns history.accepted insert.rows
  misuse : insert.misuse = history.misuses.head?

namespace History.Describes

variable {columns : List String} {history : History} {insert : Insert}

/-- The length that the next row must have is that of the columns or of the first accepted row. -/
theorem rowLength?_eq (h : history.Describes columns insert) :
    insert.rowLength? = expectedLength? columns history.accepted := by
  have hFirst := h.rows.head?_passedRows_eq
  unfold rowLength? expectedLength?
  rw [h.listed]
  exact congrArg (fun length => if columns.isEmpty then length else some columns.length)
    hFirst.symm

/-- A misuse that is reported goes to the end of the list. -/
theorem report (h : history.Describes columns insert) (cause : Misuse) :
    Describes columns { history with misuses := history.misuses ++ [cause] }
      (insert.report cause) := by
  refine ⟨h.listed, h.rows, ?_⟩
  rw [Insert.report, h.misuse]
  cases history.misuses <;> rfl

/-- An origin for rows that have none. -/
theorem withRows_open (h : history.Describes columns insert) {step : Step} {rows : Rows}
    (hOpen : insert.rows = none) (hFirst : Accepted columns [step] (some rows))
    (hMisfit : step.misfit? columns history.accepted = clash? history.accepted rows.origin) :
    (history.add columns step).Describes columns (insert.withRows rows) := by
  have hAccepted : history.accepted = [] := Accepted.eq_nil (hOpen ▸ h.rows)
  have hOrigin : step.origin? = some rows.origin := hFirst.origin_eq
  have hFits : step.misfit? columns history.accepted = none := by
    rw [hMisfit, hAccepted]
    rfl
  rw [History.add_of_fit hFits, hAccepted, List.filter_cons_of_pos (by rw [hOrigin]; rfl),
    Insert.withRows, hOpen]
  exact ⟨h.listed, hFirst, h.misuse⟩

/-- An origin for rows that have one already. -/
theorem withRows_present (h : history.Describes columns insert) {step : Step}
    {present rows : Rows} (hPresent : insert.rows = some present)
    (hOther : ¬ (present.origin = .values ∧ rows.origin = .values))
    (hMisfit : step.misfit? columns history.accepted = clash? history.accepted rows.origin) :
    (history.add columns step).Describes columns (insert.withRows rows) := by
  have hClash : step.misfit? columns history.accepted =
      some (.secondOrigin present.origin rows.origin) := by
    rw [hMisfit, h.rows.clash?_eq, hPresent]
    exact if_neg hOther
  rw [History.add_of_misfit hClash, Insert.withRows, hPresent]
  exact h.report _

/-- A step that passes rows other than values is described by the history. -/
theorem withRows (h : history.Describes columns insert) {step : Step} {rows : Rows}
    (hFirst : Accepted columns [step] (some rows)) (hOther : rows.origin ≠ .values)
    (hMisfit : step.misfit? columns history.accepted = clash? history.accepted rows.origin) :
    (history.add columns step).Describes columns (insert.withRows rows) := by
  cases hRows : insert.rows with
  | none => exact h.withRows_open hRows hFirst hMisfit
  | some present => exact h.withRows_present hRows (fun hBoth => hOther hBoth.2) hMisfit

/-- A row of the right length goes after the other ones, or gives the rows their origin. -/
theorem appendRow (h : history.Describes columns insert) {row : List Expr} (hRow : row ≠ [])
    (hLength : ∀ n ∈ expectedLength? columns history.accepted, row.length = n)
    (hMisfit : (Step.row row).misfit? columns history.accepted =
      clash? history.accepted .values) :
    (history.add columns (.row row)).Describes columns (insert.appendRow row) := by
  unfold Insert.appendRow
  split
  · rename_i rows hRows
    have hFits : (Step.row row).misfit? columns history.accepted = none := by
      rw [hMisfit, h.rows.clash?_eq, hRows]
      rfl
    rw [History.add_of_fit hFits]
    exact ⟨h.listed, (hRows ▸ h.rows).nextRow hLength, h.misuse⟩
  · rename_i hNoRows
    have hFirst : Accepted columns [.row row] (some (.values [row])) := by
      refine .values row [] hRow ?_ (fun _ hMem => absurd hMem List.not_mem_nil)
      exact fun hListed => hLength _ (if_neg (by simpa using hListed))
    cases hRows : insert.rows with
    | none => exact h.withRows_open hRows hFirst hMisfit
    | some present =>
      refine h.withRows_present hRows (fun hBoth => ?_) hMisfit
      cases present with
      | values rows => exact hNoRows rows hRows
      | query q => cases hBoth.1
      | defaults => cases hBoth.1

/-- A step that passes a row of values is described by the history as well. -/
theorem row (h : history.Describes columns insert) (values : List Expr) :
    (history.add columns (.row values)).Describes columns (insert.withRow values) := by
  unfold Insert.withRow
  split
  · rename_i hEmpty
    have hMisfit : (Step.row values).misfit? columns history.accepted = some .emptyRow :=
      if_pos hEmpty
    rw [History.add_of_misfit hMisfit]
    exact h.report _
  · rename_i hEmpty
    have hMisfit : (Step.row values).misfit? columns history.accepted =
        (wrongLength? columns history.accepted values).or (clash? history.accepted .values) :=
      if_neg hEmpty
    have hValues : values ≠ [] := by simpa using hEmpty
    rw [h.rowLength?_eq]
    cases hExpected : expectedLength? columns history.accepted with
    | none =>
      rw [wrongLength?, hExpected] at hMisfit
      refine h.appendRow hValues (fun n hn => ?_) hMisfit
      rw [hExpected] at hn
      cases hn
    | some expected =>
      rw [wrongLength?, hExpected, Option.bind_some] at hMisfit
      dsimp only
      by_cases hLength : values.length = expected
      · rw [if_pos hLength] at hMisfit
        rw [if_pos hLength]
        refine h.appendRow hValues (fun n hn => ?_) hMisfit
        rw [hExpected] at hn
        exact hLength.trans (Option.some.inj hn)
      · rw [if_neg hLength] at hMisfit
        rw [if_neg hLength, History.add_of_misfit hMisfit]
        exact h.report _

/-- What a step does to the conflict clause and the RETURNING list is no part of the history. -/
theorem of_fields (h : history.Describes columns insert) (conflict : Option Conflict)
    (returning : List Expr) :
    history.Describes columns { insert with conflict := conflict, returning := returning } :=
  ⟨h.listed, h.rows, h.misuse⟩

/-- A step that does not concern the rows and fits leaves no trace. -/
theorem add_of_other (h : history.Describes columns insert) {step : Step}
    (hOther : step.origin? = none) (hFits : step.misfit? columns history.accepted = none) :
    (history.add columns step).Describes columns insert := by
  rw [History.add_of_fit hFits, List.filter_cons_of_neg (by simp [hOther]), List.filter_nil,
    List.append_nil]
  exact h

/-- An upsert without an assignment and without a target is reported once. -/
theorem doUpdate (h : history.Describes columns insert) (targets : List Expr) (upsert : Upsert) :
    (history.add columns (.doUpdate targets upsert)).Describes columns
      (insert.onConflictDoUpdate targets upsert) := by
  have hMisfit : (Step.doUpdate targets upsert).misfit? columns history.accepted =
      if upsert.assignments.isEmpty then some .conflictWithoutAssignment
      else if targets.isEmpty then some .conflictWithoutTarget
      else none := rfl
  unfold Insert.onConflictDoUpdate
  dsimp only
  by_cases hSet : upsert.assignments.isEmpty = true
  · rw [if_pos hSet] at hMisfit
    rw [History.add_of_misfit hMisfit, if_pos hSet]
    have hReported := h.report .conflictWithoutAssignment
    by_cases hTargets : targets.isEmpty = true
    · rw [if_pos hTargets]
      exact hReported.of_fields _ _
    · rw [if_neg hTargets]
      exact hReported.of_fields _ _
  · rw [if_neg hSet] at hMisfit ⊢
    by_cases hTargets : targets.isEmpty = true
    · rw [if_pos hTargets] at hMisfit ⊢
      rw [History.add_of_misfit hMisfit]
      exact (h.report .conflictWithoutTarget).of_fields _ _
    · rw [if_neg hTargets] at hMisfit ⊢
      exact (h.add_of_other rfl hMisfit).of_fields _ _

/-- One more step on both sides. -/
theorem add (h : history.Describes columns insert) (step : Step) :
    (history.add columns step).Describes columns (insert.apply step) := by
  cases step with
  | row values => exact h.row values
  | query q => exact h.withRows (.query q) (fun hOther => nomatch hOther) rfl
  | defaults => exact h.withRows .defaults (fun hOther => nomatch hOther) rfl
  | doNothing targets => exact (h.add_of_other rfl rfl).of_fields _ _
  | doUpdate targets upsert => exact h.doUpdate targets upsert
  | returning items => exact (h.add_of_other rfl rfl).of_fields _ _

end History.Describes

/-- What a history says about a statement stays true as both grow. -/
theorem History.Describes.steps {columns : List String} {history : History} {insert : Insert}
    (h : history.Describes columns insert) (steps : List Step) :
    (steps.foldl (History.add columns) history).Describes columns (steps.foldl apply insert) := by
  induction steps generalizing history insert with
  | nil => exact h
  | cons step steps ih => exact ih (h.add step)

/-- The history of a sequence of steps describes the statement that they build. -/
theorem describes_build (target : Relation) (columns : List String) (steps : List Step) :
    (History.of target columns steps).Describes columns (build target columns steps) := by
  refine History.Describes.steps ?_ steps
  cases target <;> exact ⟨rfl, .nothing, rfl⟩

-- ---------------------------------------------------------------------------
-- Histories without a misuse
-- ---------------------------------------------------------------------------

/-- Where nothing was refused, every step that concerns the rows was accepted. -/
theorem History.accepted_of_misuses_nil {columns : List String} {history : History}
    {steps : List Step} (h : (steps.foldl (History.add columns) history).misuses = []) :
    history.misuses = [] ∧ (steps.foldl (History.add columns) history).accepted =
      history.accepted ++ steps.filter (·.origin?.isSome) := by
  induction steps generalizing history with
  | nil => exact ⟨h, (List.append_nil _).symm⟩
  | cons step steps ih =>
    obtain ⟨hMisuses, hAccepted⟩ := ih h
    cases hMisfit : step.misfit? columns history.accepted with
    | some cause =>
      rw [History.add_of_misfit hMisfit] at hMisuses
      exact absurd hMisuses (List.append_ne_nil_of_right_ne_nil _ (List.cons_ne_nil _ _))
    | none =>
      rw [History.add_of_fit hMisfit] at hMisuses
      refine ⟨hMisuses, ?_⟩
      rw [List.foldl_cons, hAccepted, History.add_of_fit hMisfit, List.append_assoc,
        ← List.filter_append]
      rfl

/-- Steps that pass no rows can be left out. -/
theorem passedRows_filter (steps : List Step) :
    passedRows (steps.filter (·.origin?.isSome)) = passedRows steps := by
  rw [passedRows, List.filterMap_filter]
  apply List.filterMap_congr
  intro step _
  cases step <;> rfl

/-- The rows of accepted steps. -/
def rowsOf (accepted : List Step) : Option Rows :=
  accepted.head?.map fun
    | .query query => .query query
    | .defaults => .defaults
    | _ => .values (passedRows accepted)

namespace Accepted

variable {columns : List String} {accepted : List Step} {rows : Option Rows}

/-- There are rows exactly if a step that passes some was accepted. -/
theorem isSome_iff (h : Accepted columns accepted rows) : rows.isSome ↔ accepted ≠ [] := by
  cases h <;> simp

/-- The rows of values are those that the accepted steps passed. -/
theorem passedRows_eq {rows : List (List Expr)}
    (h : Accepted columns accepted (some (.values rows))) : passedRows accepted = rows := by
  cases h with
  | values first rows => exact passedRows_map_row _

/-- The accepted steps determine the rows. -/
theorem rows_eq (h : Accepted columns accepted rows) : rows = rowsOf accepted := by
  cases h with
  | nothing => rfl
  | query q => rfl
  | defaults => rfl
  | values first rows => exact congrArg (some ∘ Rows.values) (passedRows_map_row _).symm

/-- VALUES are not empty, and all rows have one length, that of the column list if there is one. -/
theorem lengths {rows : List (List Expr)} (h : Accepted columns accepted (some (.values rows))) :
    rows ≠ [] ∧ ∃ n, 0 < n ∧ (columns ≠ [] → n = columns.length) ∧
      ∀ row ∈ rows, row.length = n := by
  cases h with
  | values first rows hFirst hColumns hRows =>
    refine ⟨List.cons_ne_nil _ _, first.length, List.length_pos_of_ne_nil hFirst, hColumns, ?_⟩
    exact List.forall_mem_cons.mpr ⟨rfl, hRows⟩

end Accepted

-- ---------------------------------------------------------------------------
-- The contract
-- ---------------------------------------------------------------------------

/-- A misuse is reported before anything is written. -/
theorem render_of_misuse {insert : Insert} {cause : Misuse} (h : insert.misuse = some cause)
    (options : Options) : (Statement.insert insert).render options = .error (.misuse cause) := by
  have hLayout : (Statement.insert insert).layout options.inferring = [] := by
    show insert.layout options.inferring = []
    rw [layout, h]
  have hFault : (Statement.insert insert).fault = some cause := by
    show insert.fault = some cause
    rw [fault, h]
  rw [Statement.render_eq_outcome, hLayout, hFault]
  exact if_neg fun ⟨_, hTag, _⟩ => List.not_mem_nil hTag

/-- What an INSERT writes after its rows. -/
def ending (auto : Bool) (insert : Insert) : Layout :=
  conflictLayout auto insert.conflict ++ Layout.closed
    (Layout.listClause "RETURNING" (insert.returning.map (·.layout auto .declaration)))

/-- Where the rows stand in the layout of a statement. -/
theorem layout_of_values {insert : Insert} {rows : List (List Expr)}
    (hMisuse : insert.misuse = none) (hRows : insert.rows = some (.values rows)) (auto : Bool) :
    insert.layout auto = Layout.closed (insert.head auto) ++
      Layout.clause "VALUES" (Layout.separated ", " (rows.map (rowLayout auto))) ++
        Layout.gap ++ insert.ending auto := by
  have hLayout : insert.layout auto =
      Layout.closed (insert.head auto) ++ insert.tail auto (.values rows) := by
    rw [layout, hMisuse, hRows]
  rw [hLayout, tail, ending, Layout.closed_singleton, rowsLayout]
  simp only [List.append_assoc]

/-- What an INSERT that is built by steps can be relied on for. -/
structure Contract (target : Relation) (columns : List String) (steps : List Step) : Prop where
  /-- It can be rendered exactly if nothing was refused and some step gave it rows. -/
  renders_iff : ∀ inferring,
    (∃ rendering, (Statement.insert (build target columns steps)).render
      ⟨.positional, inferring⟩ = .ok rendering) ↔
        (History.of target columns steps).misuses = [] ∧ ∃ step ∈ steps, step.origin?.isSome
  /-- The rows that it writes are those that were passed, and they have one length. -/
  rows_written : ∀ inferring rendering rows,
    (Statement.insert (build target columns steps)).render
      ⟨.positional, inferring⟩ = .ok rendering →
    (build target columns steps).rows = some (.values rows) →
      rows = passedRows steps ∧
        (rows ≠ [] ∧ ∃ n, 0 < n ∧ (columns ≠ [] → n = columns.length) ∧
          ∀ row ∈ rows, row.length = n) ∧
        rendering = Layout.rendering
          (Layout.closed ((build target columns steps).head inferring) ++
            Layout.clause "VALUES"
              (Layout.separated ", " ((passedRows steps).map (rowLayout inferring))) ++
                Layout.gap ++ (build target columns steps).ending inferring)
          .positional
  /-- The first misuse is what is reported from then on. -/
  first_misuse : ∀ cause, (History.of target columns steps).misuses.head? = some cause →
    ∀ more options,
      (Statement.insert (build target columns (steps ++ more))).misuse? = some cause ∧
        (Statement.insert (build target columns (steps ++ more))).render options =
          .error (.misuse cause)
  /-- A step that is refused leaves the rows as they are. -/
  refused : ∀ step cause,
    step.misfit? columns (History.of target columns steps).accepted = some cause →
      (build target columns (steps ++ [step])).rows = (build target columns steps).rows

/-- Every INSERT keeps the contract, whatever its target, its columns and its steps are. -/
theorem steps_contract (target : Relation) (columns : List String) (steps : List Step) :
    Contract target columns steps := by
  have hDescribes := describes_build target columns steps
  have hAccepted : (History.of target columns steps).misuses = [] →
      (History.of target columns steps).accepted = steps.filter (·.origin?.isSome) :=
    fun hMisuses => (History.accepted_of_misuses_nil hMisuses).2
  have hMisuse : (build target columns steps).misuse = none ↔
      (History.of target columns steps).misuses = [] := by
    rw [hDescribes.misuse, List.head?_eq_none_iff]
  constructor
  case renders_iff =>
    intro inferring
    have hFault : (Statement.insert (build target columns steps)).fault = none ↔
        (build target columns steps).misuse = none ∧
          (build target columns steps).rows.isSome := fault_eq_none_iff _
    rw [Statement.exists_render_positional_iff, hFault, hMisuse]
    refine and_congr_right fun hNone => ?_
    rw [hDescribes.rows.isSome_iff, hAccepted hNone, Ne, List.filter_eq_nil_iff]
    push Not
    rfl
  case rows_written =>
    intro inferring rendering rows hRender hRows
    obtain ⟨-, hRendering, hFault⟩ := Statement.of_render_ok hRender
    have hNone := ((fault_eq_none_iff _).mp hFault).1
    have hValues : Accepted columns _ (some (.values rows)) := hRows ▸ hDescribes.rows
    have hPassed : rows = passedRows steps := by
      rw [← hValues.passedRows_eq, hAccepted (hMisuse.mp hNone), passedRows_filter]
    refine ⟨hPassed, hValues.lengths, ?_⟩
    rw [hRendering, ← hPassed, ← layout_of_values hNone hRows inferring]
    rfl
  case first_misuse =>
    intro cause hFirst more options
    have hMisuse : (build target columns (steps ++ more)).misuse = some cause := by
      rw [build_append]
      exact (extends_steps _ more).misuse cause (hDescribes.misuse.trans hFirst)
    exact ⟨hMisuse, render_of_misuse hMisuse options⟩
  case refused =>
    intro step cause hMisfit
    have hBefore := hDescribes.rows
    have hAfter := (hDescribes.add step).rows
    rw [History.add_of_misfit hMisfit] at hAfter
    rw [build_append]
    exact hAfter.rows_eq.trans hBefore.rows_eq.symm

/-- A row of another length is refused, and so is a query after it, but the row is what is reported;
without the two, the statement can be rendered. -/
theorem steps_contract_misaligned :
    (∃ rendering, (Statement.insert (build (.table none "t") ["a"]
        [.row [.literal "1"], .row [.literal "2"]])).render ⟨.positional, true⟩ =
          .ok rendering) ∧
      (Statement.insert (build (.table none "t") ["a"]
        [.row [.literal "1"], .row [.literal "2", .literal "3"], .query {}])).render
          ⟨.positional, true⟩ = .error (.misuse (.rowLength 2 1)) ∧
      (build (.table none "t") ["a"]
        [.row [.literal "1"], .row [.literal "2", .literal "3"]]).rows =
          (build (.table none "t") ["a"] [.row [.literal "1"]]).rows := by
  have hRows := steps_contract (.table none "t") ["a"] [.row [.literal "1"], .row [.literal "2"]]
  have hMisaligned := steps_contract (.table none "t") ["a"]
    [.row [.literal "1"], .row [.literal "2", .literal "3"]]
  have hOne := steps_contract (.table none "t") ["a"] [.row [.literal "1"]]
  refine ⟨(hRows.renders_iff true).mpr ⟨rfl, _, List.mem_cons_self .., rfl⟩, ?_, ?_⟩
  · exact (hMisaligned.first_misuse (.rowLength 2 1) rfl [.query {}] ⟨.positional, true⟩).2
  · exact hOne.refused (.row [.literal "2", .literal "3"]) (.rowLength 2 1) rfl

end Insert

end QueryText

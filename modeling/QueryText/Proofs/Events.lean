import QueryText.Proofs.Declarations.Text

/-!
# QueryText — the events of a pass

A pass tells of each relation that it adds to a list, right before the declaration of the relation
is written, and of the statement when it is finished. So its events mirror the text: one for each
added relation at any depth, in the order in which the declarations stand there, and then one for
the whole text. A pass that fails tells of what it had added until then.

## Main results

* `Statement.allListed` — without inference nothing is added.
* `Statement.events_mirror` — the events of every pass.
-/

namespace QueryText

-- ---------------------------------------------------------------------------
-- Nothing is added without inference
-- ---------------------------------------------------------------------------

/-- Every relation that is declared stands in a list itself. -/
def Declaration.AllListed (ds : List Declaration) : Prop :=
  ∀ d ∈ ds, d.addedTo = none

namespace Declaration.AllListed

variable {ds es : List Declaration}

theorem nil : AllListed [] :=
  fun _ hd => absurd hd List.not_mem_nil

theorem append (h : AllListed ds) (h' : AllListed es) : AllListed (ds ++ es) :=
  List.forall_mem_append.mpr ⟨h, h'⟩

theorem flatMap {α : Type} {f : α → List Declaration} {xs : List α}
    (h : ∀ x ∈ xs, AllListed (f x)) : AllListed (xs.flatMap f) := by
  intro d hd
  obtain ⟨x, hx, hd⟩ := List.mem_flatMap.mp hd
  exact h x hx d hd

/-- A relation that was not added is listed, with everything in it. -/
theorem relation {r : Relation} (h : AllListed (r.contents false)) :
    AllListed (r.declarations false none) :=
  List.forall_mem_cons.mpr ⟨rfl, h⟩

/-- A list of tables to which nothing was added is listed. -/
theorem tables {keyword : String} {tables : List FromItem}
    (h : ∀ f ∈ tables, AllListed (f.declarations false)) :
    AllListed (tableDeclarations false keyword tables []) :=
  (flatMap h).append nil

/-- Nothing that is declared inside of a list of expressions was added. -/
theorem lists {exprs : List Expr} {naming : Naming}
    (h : ∀ e ∈ exprs, AllListed (e.declarations false naming)) :
    AllListed (Expr.declarationLists false exprs naming).flatten := by
  rw [Expr.flatten_declarationLists]
  exact flatMap h

end Declaration.AllListed

open Declaration (AllListed)

/-- With inference off, everything that a tree declares is listed. -/
theorem allListedCases :
    TreeCases (fun r => AllListed (r.contents false))
      (fun e => ∀ naming, AllListed (e.declarations false naming))
      (fun f => AllListed (f.declarations false))
      (fun q => AllListed (q.declarations false false)) where
  table _ _ := .nil
  aliased _ _ h := h
  derived _ _ h := h
  excluded := .nil
  column _ _ _ _ := .nil
  star _ := .nil
  allOf _ _ _ := .nil
  argument _ _ := .nil
  literal _ _ := .nil
  raw sql operands h naming := by
    rw [Expr.declarations_raw]
    exact .flatMap fun e he => h e (List.mem_of_mem_take he) naming.inner
  group _ h naming := h naming.inner
  list _ h naming := .lists fun e he => h e he naming.inner
  unary _ _ h naming := h naming.inner
  binary _ _ _ hLeft hRight naming := (hLeft naming.inner).append (hRight naming.inner)
  logical _ _ h naming := .lists fun e he => h e he naming.inner
  call _ _ h naming := .lists fun e he => h e he naming.inner
  named inner name h naming := by
    rw [Expr.declarations]
    split
    · exact h .reference
    · exact .nil
  subquery _ _ h _ := h
  listed _ h := .relation h
  join kind left right predicate hLeft hRight hOn := by
    cases predicate with
    | none => exact (hLeft.append hRight).append .nil
    | some condition => exact (hLeft.append hRight).append (hOn condition rfl .reference)
  query q hItems hTables hFilters hGroups hGroupFilters hOrder _ := by
    have hKeys : ∀ k ∈ q.order, AllListed (k.declarations false) := by
      rintro ⟨expr, direction⟩ hk
      exact hOrder _ hk .reference
    rw [Select.declarations_eq]
    refine .append (.append (.append (.append (.append ?_ (.tables hTables)) ?_) ?_) ?_) ?_
    · exact .flatMap fun e he => hItems e he _
    · exact .flatMap fun e he => hFilters e he _
    · exact .flatMap fun e he => hGroups e he _
    · exact .flatMap fun e he => hGroupFilters e he _
    · exact .flatMap hKeys

/-- With inference off, expressions add no table. -/
theorem Expr.allListed (exprs : List Expr) (naming : Naming) :
    AllListed (exprs.flatMap (·.declarations false naming)) :=
  .flatMap fun e _ => allListedCases.expr e naming

namespace Insert

theorem allListed_target (target : Relation) : AllListed (targetDeclarations false target) := by
  have hRelation := fun r => AllListed.relation (allListedCases.relation r)
  cases target <;> exact hRelation _

theorem allListed_rows (rows : Rows) : AllListed (rowsDeclarations false rows) := by
  cases rows with
  | values rows => exact .flatMap fun row _ => Expr.allListed row .reference
  | query query => exact allListedCases.select query
  | defaults => exact .nil

theorem allListed_conflict (conflict : Option Conflict) :
    AllListed (conflictDeclarations false conflict) := by
  cases conflict with
  | none => exact .nil
  | some conflict =>
    refine .append (Expr.allListed conflict.targets .bare) ?_
    cases conflict.action with
    | nothing => exact .nil
    | update upsert =>
      exact (Expr.allListed upsert.assignments.values .reference).append
        (Expr.allListed upsert.filters .reference)

/-- With inference off, an INSERT adds no table. -/
theorem allListed (insert : Insert) : AllListed (insert.declarations false) := by
  unfold declarations
  cases insert.misuse with
  | some cause => exact .nil
  | none =>
    cases insert.rows with
    | none => exact allListed_target insert.target
    | some rows =>
      exact (((allListed_target insert.target).append (allListed_rows rows)).append
        (allListed_conflict insert.conflict)).append (Expr.allListed insert.returning .declaration)

end Insert

/-- Without inference, every relation that a statement declares stands in a list itself. -/
theorem Statement.allListed (statement : Statement) :
    AllListed (statement.declarations false) := by
  cases statement with
  | select query => exact allListedCases.select query
  | insert statement => exact statement.allListed
  | update statement =>
    show AllListed (statement.declarations false)
    unfold Update.declarations
    split
    · exact .nil
    · refine .append (.append (.append (.append ?_ ?_) (.tables ?_)) ?_) ?_
      · exact .relation (allListedCases.relation statement.target)
      · exact Expr.allListed _ _
      · exact fun f _ => allListedCases.fromItem f
      · exact Expr.allListed _ _
      · exact Expr.allListed _ _
  | delete statement =>
    refine .append (.append (.append ?_ (.tables ?_)) ?_) ?_
    · exact .relation (allListedCases.relation statement.target)
    · exact fun f _ => allListedCases.fromItem f
    · exact Expr.allListed _ _
    · exact Expr.allListed _ _

-- ---------------------------------------------------------------------------
-- The events of a pass
-- ---------------------------------------------------------------------------

namespace Statement

/-- The relations that a pass over a statement adds to lists, with the keywords of the lists, in the
order in which their declarations start. -/
def additions (statement : Statement) (options : Options) : List Inference :=
  (statement.declarations options.inferring).filterMap Declaration.note?

/-- What a part of the layout of a statement notes are the first of the additions. -/
theorem notes_isPrefix {statement : Statement} {options : Options} {written rest : Layout}
    (h : statement.layout options.inferring = written ++ rest) :
    written.notes <+: statement.additions options := by
  rw [additions, ← statement.notes_layout, h, Layout.notes_append]
  exact List.prefix_append _ _

/-- How a pass ends: with the whole layout and its notes, or behind a part of it. -/
theorem report_cases (statement : Statement) (options : Options) :
    (∃ rendering, statement.report options = ⟨.ok rendering,
        (statement.additions options).map .inferredTable ++
          [.renderedStatement statement.kind rendering]⟩) ∨
      ∃ error noted, noted <+: statement.additions options ∧
        statement.report options = ⟨.error error, noted.map .inferredTable⟩ := by
  have hStops : statement.write.Stops (Context.start options).place
      (statement.layout options.inferring) statement.fault := statement.stops options
  generalize statement.fault = fault at hStops
  unfold report Writer.report
  by_cases hTags : ∃ tag ∈ (statement.layout options.inferring).tags,
      (Context.start options).options.placeholder.Refuses tag
  · obtain ⟨written, rest, after, hSplit, hWrote, hRun⟩ := hStops.run_refused hTags
    have hNotes : after.inferences.toList = written.notes := hWrote.inferences
    rw [hRun]
    exact Or.inr ⟨_, written.notes, notes_isPrefix hSplit, by rw [← hNotes]⟩
  · obtain ⟨after, hWrote, hRun⟩ := hStops.run_ok hTags
    have hNotes : after.inferences.toList = statement.additions options := by
      rw [additions, ← statement.notes_layout]
      exact hWrote.inferences
    rw [hRun]
    cases fault with
    | none => exact Or.inl ⟨after.finish, by rw [← hNotes]⟩
    | some cause => exact Or.inr ⟨_, _, List.prefix_refl _, by rw [← hNotes]⟩

/-- A statement with a recorded misuse is not even begun. -/
theorem report_of_misuse {statement : Statement} {cause : Misuse}
    (h : statement.misuse? = some cause) (options : Options) :
    statement.report options = ⟨.error (.misuse cause), []⟩ := by
  cases statement with
  | insert statement =>
    have hMisuse : statement.misuse = some cause := h
    rw [report, Writer.report, write, Insert.write, hMisuse]
    rfl
  | select query => cases h
  | update statement => cases h
  | delete statement => cases h

/-- How the events of a pass over a statement mirror what it writes. -/
structure Mirrored (statement : Statement) (options : Options) (report : Report) : Prop where
  /-- A finished pass tells of each addition, in the order in which the declarations stand in the
  text, and at last of the statement. -/
  finished : ∀ rendering, report.outcome = .ok rendering →
    report.events = (statement.additions options).map .inferredTable ++
        [.renderedStatement statement.kind rendering] ∧
      Declaration.Placed options.inferring options.placeholder rendering.sql
        (statement.declarations options.inferring)
  /-- A pass that fails tells of the additions that it had come to, and of nothing else. -/
  failed : ∀ error, report.outcome = .error error →
    ∃ noted, noted <+: statement.additions options ∧ report.events = noted.map .inferredTable
  /-- A statement with a recorded misuse tells of nothing. -/
  misused : statement.misuse?.isSome → report.events = []
  /-- Without inference, no pass tells of an addition. -/
  silent : options.inferring = false → ∀ note, .inferredTable note ∉ report.events

/-- The events of every pass mirror what it writes. -/
theorem events_mirror (statement : Statement) (options : Options) :
    statement.Mirrored options (statement.report options) := by
  have hCases := statement.report_cases options
  constructor
  case finished =>
    intro rendering hOutcome
    refine ⟨?_, placed_of_ok hOutcome⟩
    obtain ⟨rendering', hReport⟩ | ⟨error, noted, -, hReport⟩ := hCases
    · rw [hReport] at hOutcome ⊢
      rw [← Except.ok.inj hOutcome]
    · rw [hReport] at hOutcome
      cases hOutcome
  case failed =>
    intro error hOutcome
    obtain ⟨rendering, hReport⟩ | ⟨error', noted, hPrefix, hReport⟩ := hCases
    · rw [hReport] at hOutcome
      cases hOutcome
    · exact ⟨noted, hPrefix, by rw [hReport]⟩
  case misused =>
    intro hMisuse
    obtain ⟨cause, hCause⟩ := Option.isSome_iff_exists.mp hMisuse
    rw [report_of_misuse hCause]
  case silent =>
    intro hOff note
    have hNone : statement.additions options = [] := by
      rw [additions, hOff, List.filterMap_eq_nil_iff]
      intro d hd
      rw [Declaration.note?, statement.allListed d hd, Option.map_none]
    rw [hNone] at hCases
    obtain ⟨rendering, hReport⟩ | ⟨error, noted, hPrefix, hReport⟩ := hCases
    · rw [hReport]
      simp
    · rw [hReport, List.prefix_nil.mp hPrefix]
      simp

/-- A derived table that is added itself, and one in a sub-query expression, which adds nothing
itself: three relations are added at three places. -/
theorem events_mirror_nested :
    let inner : Select := { items := [.column (.table none "t") "k"] }
    let listed : Select :=
      { tables := [.relation (.derived { items := [.allOf (.table none "u")] } "e")] }
    let statement : Statement := .select
      { items := [.column (.derived inner "d") "k"], filters := [.subquery .exists listed] }
    let rendering : Rendering :=
      ⟨"SELECT \"d\".\"k\" FROM (SELECT \"t\".\"k\" FROM \"t\") \"d\" " ++
        "WHERE EXISTS (SELECT FROM (SELECT \"u\".* FROM \"u\") \"e\")", [], .positional⟩
    (statement.report ⟨.positional, true⟩).outcome = .ok rendering ∧
      (statement.report ⟨.positional, true⟩).events =
        [.inferredTable ⟨"d", "FROM"⟩, .inferredTable ⟨"t", "FROM"⟩, .inferredTable ⟨"u", "FROM"⟩,
          .renderedStatement .select rendering] := by
  intro inner listed statement rendering
  have hOutcome : (statement.report ⟨.positional, true⟩).outcome = .ok rendering := by
    decide +kernel
  have hAdditions : statement.additions ⟨.positional, true⟩ =
      [⟨"d", "FROM"⟩, ⟨"t", "FROM"⟩, ⟨"u", "FROM"⟩] := by
    decide +kernel
  have hEvents := ((events_mirror statement ⟨.positional, true⟩).finished rendering hOutcome).1
  rw [hAdditions] at hEvents
  exact ⟨hOutcome, hEvents⟩

end Statement

end QueryText

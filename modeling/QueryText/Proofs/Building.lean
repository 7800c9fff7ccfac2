import QueryText.Statement

/-!
# QueryText — how statements are built

The steps by which relations and INSERT statements come about. An INSERT keeps its target and its
columns through every step, and once a step did not fit, this stays its misuse.

## Main results

* `Insert.extends_build` — what a sequence of steps leaves of the statement it starts from.
* `Relation.Built.named_of_aliased` — below an alias there is never a query.
-/

namespace QueryText

-- ---------------------------------------------------------------------------
-- Relations
-- ---------------------------------------------------------------------------

/-- The relations that can be built: a table, a derived table, the excluded row, and each of them
renamed any number of times. -/
inductive Relation.Built : Relation → Prop where
  | table (schema : Option String) (name : String) : Built (.table schema name)
  | derived (query : Select) (name : String) : Built (.derived query name)
  | excluded : Built .excluded
  | rename {relation : Relation} (name : String) : Built relation → Built (relation.rename name)

/-- Whether a relation is a table or the excluded row under its own name. -/
def Relation.Named : Relation → Prop
  | .table _ _ => True
  | .excluded => True
  | .aliased _ _ => False
  | .derived _ _ => False

/-- Below an alias there is a table or the excluded row. -/
theorem Relation.Built.named_of_aliased {relation inner : Relation} {name : String}
    (h : relation.Built) (hAliased : relation = .aliased inner name) : inner.Named := by
  induction h generalizing inner name with
  | table schema name => cases hAliased
  | derived query name => cases hAliased
  | excluded => cases hAliased
  | @rename relation newName _ ih =>
    cases relation with
    | table schema name =>
      obtain ⟨rfl, -⟩ := Relation.aliased.inj hAliased
      trivial
    | aliased below name =>
      obtain ⟨rfl, -⟩ := Relation.aliased.inj hAliased
      exact ih rfl
    | derived query name => cases hAliased
    | excluded =>
      obtain ⟨rfl, -⟩ := Relation.aliased.inj hAliased
      trivial

-- ---------------------------------------------------------------------------
-- INSERT
-- ---------------------------------------------------------------------------

namespace Insert

/-- A step of building an INSERT. -/
inductive Step where
  | row (row : List Expr)
  | query (query : Select)
  | defaults
  | doNothing (targets : List Expr)
  | doUpdate (targets : List Expr) (upsert : Upsert)
  | returning (items : List Expr)

/-- The statement after a step. -/
def apply (insert : Insert) : Step → Insert
  | .row row => insert.withRow row
  | .query query => insert.withQuery query
  | .defaults => insert.withDefaults
  | .doNothing targets => insert.onConflictDoNothing targets
  | .doUpdate targets upsert => insert.onConflictDoUpdate targets upsert
  | .returning items => insert.withReturning items

/-- The statement that a sequence of steps builds. -/
def build (target : Relation) (columns : List String) (steps : List Step) : Insert :=
  steps.foldl apply (into target columns)

/-- A statement that came about from another one by steps. -/
structure Extends (before after : Insert) : Prop where
  target : after.target = before.target
  columns : after.columns = before.columns
  /-- The first misuse stays. -/
  misuse : ∀ cause, before.misuse = some cause → after.misuse = some cause

theorem Extends.refl (insert : Insert) : insert.Extends insert :=
  ⟨rfl, rfl, fun _ h => h⟩

/-- What extends an extension extends the statement. -/
theorem Extends.trans {a b c : Insert} (h : a.Extends b) (h' : b.Extends c) : a.Extends c :=
  ⟨h'.target.trans h.target, h'.columns.trans h.columns,
    fun cause hCause => h'.misuse cause (h.misuse cause hCause)⟩

/-- A misuse that is noted changes nothing else. -/
theorem extends_report (insert : Insert) (cause : Misuse) :
    insert.Extends (insert.report cause) := by
  refine ⟨rfl, rfl, fun first hFirst => ?_⟩
  rw [report, hFirst]
  rfl

/-- Setting the rows leaves the target and the columns as they are, also if it is refused. -/
theorem extends_withRows (insert : Insert) (rows : Rows) :
    insert.Extends (insert.withRows rows) := by
  unfold withRows
  split
  · exact insert.extends_report _
  · exact ⟨rfl, rfl, fun _ h => h⟩

theorem extends_appendRow (insert : Insert) (row : List Expr) :
    insert.Extends (insert.appendRow row) := by
  unfold appendRow
  split
  · exact ⟨rfl, rfl, fun _ h => h⟩
  · exact insert.extends_withRows _

theorem extends_withRow (insert : Insert) (row : List Expr) :
    insert.Extends (insert.withRow row) := by
  unfold withRow
  split
  · exact insert.extends_report _
  · split
    · split
      · exact insert.extends_appendRow row
      · exact insert.extends_report _
    · exact insert.extends_appendRow row

theorem extends_onConflictDoUpdate (insert : Insert) (targets : List Expr) (upsert : Upsert) :
    insert.Extends (insert.onConflictDoUpdate targets upsert) := by
  have hReported : ∀ (before : Insert) (c : Prop) [Decidable c] (cause : Misuse),
      before.Extends (if c then before.report cause else before) := by
    intro before c _ cause
    split
    · exact before.extends_report cause
    · exact Extends.refl before
  have hBoth := (hReported insert (upsert.assignments.isEmpty = true)
    .conflictWithoutAssignment).trans
      (hReported _ (targets.isEmpty = true) .conflictWithoutTarget)
  exact ⟨hBoth.target, hBoth.columns, hBoth.misuse⟩

/-- A step keeps the target, the columns and the first misuse. -/
theorem extends_apply (insert : Insert) (step : Step) : insert.Extends (insert.apply step) := by
  cases step with
  | row row => exact insert.extends_withRow row
  | query query => exact insert.extends_withRows _
  | defaults => exact insert.extends_withRows _
  | doNothing targets => exact ⟨rfl, rfl, fun _ h => h⟩
  | doUpdate targets upsert => exact insert.extends_onConflictDoUpdate targets upsert
  | returning items => exact ⟨rfl, rfl, fun _ h => h⟩

/-- A sequence of steps keeps the target, the columns and the first misuse. -/
theorem extends_steps (insert : Insert) (steps : List Step) :
    insert.Extends (steps.foldl apply insert) := by
  induction steps generalizing insert with
  | nil => exact Extends.refl insert
  | cons step steps ih => exact (insert.extends_apply step).trans (ih _)

/-- No sequence of steps changes the target or the columns. -/
theorem extends_build (target : Relation) (columns : List String) (steps : List Step) :
    (into target columns).Extends (build target columns steps) :=
  extends_steps _ steps

/-- Later steps are applied to what the earlier ones built. -/
theorem build_append (target : Relation) (columns : List String) (steps more : List Step) :
    build target columns (steps ++ more) = more.foldl apply (build target columns steps) :=
  List.foldl_append

/-- No step changes the target. -/
theorem target_build (target : Relation) (columns : List String) (steps : List Step) :
    (build target columns steps).target = target := by
  rw [(extends_build target columns steps).target]
  cases target <;> rfl

/-- Without a misuse, the target is a table or an alias. -/
theorem target_of_misuse_none {target : Relation} {columns : List String} {steps : List Step}
    (h : (build target columns steps).misuse = none) :
    (∃ schema name, target = .table schema name) ∨
      ∃ inner name, target = .aliased inner name := by
  have hRefused : ∀ cause, (into target columns).misuse ≠ some cause := by
    intro cause hCause
    have hKept := (extends_build target columns steps).misuse cause hCause
    rw [h] at hKept
    cases hKept
  cases target with
  | table schema name => exact Or.inl ⟨schema, name, rfl⟩
  | aliased inner name => exact Or.inr ⟨inner, name, rfl⟩
  | derived query name => exact absurd rfl (hRefused _)
  | excluded => exact absurd rfl (hRefused _)

end Insert

/-- The statements that can be built. Only an INSERT refuses steps, so only there it matters how it
came about. -/
inductive Statement.Built : Statement → Prop where
  | select (query : Select) : Built (.select query)
  | update (update : Update) : Built (.update update)
  | delete (delete : Delete) : Built (.delete delete)
  | insert {target : Relation} (columns : List String) (steps : List Insert.Step) :
    target.Built → Built (.insert (Insert.build target columns steps))

end QueryText

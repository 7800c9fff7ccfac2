import QueryText.Proofs.Building
import QueryText.Proofs.Layout.Composition
import QueryText.Proofs.Outcome

/-!
# QueryText — the two placeholder styles

Both styles write the same layout and number its arguments in the same way. They differ in how a
placeholder is spelled, and in that an anonymous argument cannot be written by tag. A statement
with a fault has no argument before it, so the fault is found in both styles.

## Main results

* `Statement.Built.untagged_of_fault` — nothing that is written before a fault is an argument.
* `Statement.styles_agree` — what the two renderings of a statement have in common.
-/

namespace QueryText

-- ---------------------------------------------------------------------------
-- Layouts without arguments
-- ---------------------------------------------------------------------------

namespace Layout

/-- There is no argument in the layout. -/
def Untagged (l : Layout) : Prop :=
  l.tags = []

/-- Layouts without arguments have none together. -/
theorem Untagged.composes : Composes Untagged where
  nil := rfl
  text _ := rfl
  name _ := rfl
  gap := rfl
  append l m hl hm := by
    have hl : l.tags = [] := hl
    have hm : m.tags = [] := hm
    show (l ++ m).tags = []
    rw [tags_append, hl, hm, List.append_nil]

end Layout

/-- A table has no arguments, and neither has the excluded row. -/
theorem Relation.Named.untagged {auto : Bool} {relation : Relation} (h : relation.Named) :
    (relation.layout auto).Untagged := by
  cases relation with
  | table schema name => cases schema <;> rfl
  | excluded => rfl
  | aliased relation name => exact h.elim
  | derived query name => exact h.elim

/-- The clauses before the rows of an INSERT have no argument, if it can be built. -/
theorem Insert.untagged_head {auto : Bool} {target : Relation} {columns : List String}
    {steps : List Insert.Step} (hBuilt : target.Built)
    (hMisuse : (build target columns steps).misuse = none) :
    (Layout.closed ((build target columns steps).head auto)).Untagged := by
  have h := Layout.Untagged.composes
  have hTarget : (targetLayout auto target).Untagged := by
    rcases target_of_misuse_none hMisuse with ⟨schema, name, rfl⟩ | ⟨inner, name, rfl⟩
    · have hTable : (Relation.table schema name).Named := trivial
      exact hTable.untagged
    · have hInner : (inner.layout auto).Untagged := (hBuilt.named_of_aliased rfl).untagged
      rw [Layout.Untagged, ← Layout.tags_anonymized] at hInner
      exact h.append _ _ (h.append _ _ hInner (h.text " AS ")) rfl
  apply h.closed
  rw [head, List.forall_mem_append, List.forall_mem_singleton, target_build]
  exact ⟨h.clause _ hTarget, h.insertColumns _⟩

/-- What is written before a fault has no argument. -/
theorem Statement.Built.untagged_of_fault {statement : Statement} (h : statement.Built)
    {cause : Misuse} (hFault : statement.fault = some cause) (auto : Bool) :
    (statement.layout auto).Untagged := by
  cases h with
  | select query => cases hFault
  | delete delete => cases hFault
  | update update =>
    show (update.layout auto).Untagged
    have hFault : (if update.assignments.isEmpty = true then some .updateWithoutAssignment
      else none) = some cause := hFault
    by_cases hEmpty : update.assignments.isEmpty = true
    · rw [Update.layout, if_pos hEmpty]
      rfl
    · rw [if_neg hEmpty] at hFault
      cases hFault
  | @insert target columns steps hTarget =>
    show ((Insert.build target columns steps).layout auto).Untagged
    have hFault : (Insert.build target columns steps).fault = some cause := hFault
    unfold Insert.fault at hFault
    unfold Insert.layout
    cases hMisuse : (Insert.build target columns steps).misuse with
    | some first => rfl
    | none =>
      rw [hMisuse] at hFault
      cases hRows : (Insert.build target columns steps).rows with
      | none => exact Insert.untagged_head hTarget hMisuse
      | some rows =>
        rw [hRows] at hFault
        cases hFault

-- ---------------------------------------------------------------------------
-- Agreement
-- ---------------------------------------------------------------------------

namespace Statement

/-- How the renderings of a statement in the two styles go together. -/
structure StylesAgree (statement : Statement) (inferring : Bool) : Prop where
  /-- A misuse is reported in both. -/
  misuse : ∀ cause,
    statement.render ⟨.named, inferring⟩ = .error (.misuse cause) ↔
      statement.render ⟨.positional, inferring⟩ = .error (.misuse cause)
  /-- Apart from misuses, positional placeholders can always be written. -/
  positional : (∀ cause, statement.render ⟨.positional, inferring⟩ ≠ .error (.misuse cause)) →
    ∃ rendering, statement.render ⟨.positional, inferring⟩ = .ok rendering
  /-- Apart from misuses, named placeholders only fail for an anonymous argument, and they do so
  exactly if one is written. -/
  named : (∀ cause, statement.render ⟨.positional, inferring⟩ ≠ .error (.misuse cause)) →
    ((∃ error, statement.render ⟨.named, inferring⟩ = .error error) ↔
        ∃ p ∈ statement.written ⟨.positional, inferring⟩, p.tag = "") ∧
      ∀ error, statement.render ⟨.named, inferring⟩ = .error error → error = .anonymousArgument
  /-- Two finished texts are the same fragments, which spell a slot by its number or its tag. -/
  finished : ∀ positional named,
    statement.render ⟨.positional, inferring⟩ = .ok positional →
    statement.render ⟨.named, inferring⟩ = .ok named →
    positional.arguments = named.arguments ∧
      statement.fragments ⟨.positional, inferring⟩ =
        statement.fragments ⟨.named, inferring⟩ ∧
      positional.sql =
        dropFinalSpace (spellAll .positional (statement.fragments ⟨.positional, inferring⟩)) ∧
      named.sql =
        dropFinalSpace (spellAll .named (statement.fragments ⟨.named, inferring⟩)) ∧
      ∀ p ∈ statement.written ⟨.positional, inferring⟩,
        0 < p.number ∧ positional.arguments[p.number - 1]? = some p.tag

variable {statement : Statement} {inferring : Bool}

/-- With positional placeholders only a fault stops a pass. -/
theorem render_positional (statement : Statement) (inferring : Bool) :
    statement.render ⟨.positional, inferring⟩ =
      match statement.fault with
      | some cause => .error (.misuse cause)
      | none => .ok ((statement.layout inferring).rendering .positional) := by
  have hOutcome := statement.render_eq_outcome ⟨.positional, inferring⟩
  unfold Layout.outcome at hOutcome
  rw [if_neg fun ⟨_, _, hStyle, _⟩ => nomatch hStyle] at hOutcome
  exact hOutcome.trans (by cases statement.fault <;> rfl)

/-- With positional placeholders, rendering fails only at a fault. -/
theorem exists_render_positional_iff (statement : Statement) (inferring : Bool) :
    (∃ rendering, statement.render ⟨.positional, inferring⟩ = .ok rendering) ↔
      statement.fault = none := by
  rw [render_positional]
  cases statement.fault <;> simp

/-- With named placeholders an anonymous argument stops a pass first. -/
theorem render_named (statement : Statement) (inferring : Bool) :
    statement.render ⟨.named, inferring⟩ =
      if "" ∈ (statement.layout inferring).tags then .error .anonymousArgument
      else
        match statement.fault with
        | some cause => .error (.misuse cause)
        | none => .ok ((statement.layout inferring).rendering .named) := by
  rw [render_eq_outcome]
  unfold Layout.outcome
  refine if_congr ?_ rfl (by cases statement.fault <;> rfl)
  constructor
  · rintro ⟨tag, hTag, -, rfl⟩
    exact hTag
  · exact fun hTag => ⟨"", hTag, rfl, rfl⟩

/-- An anonymous placeholder is written exactly if an argument without a tag is laid out. -/
theorem anonymous_written_iff (hFault : statement.fault = none) :
    (∃ p ∈ statement.written ⟨.positional, inferring⟩, p.tag = "") ↔
      "" ∈ (statement.layout inferring).tags := by
  have hPositional := statement.render_positional inferring
  rw [hFault] at hPositional
  obtain ⟨hWritten, -⟩ := written_of_ok hPositional
  rw [← List.mem_map, hWritten, Slots.map_tag_run]

/-- A fault is found in both styles. -/
theorem stylesAgree_of_fault {cause : Misuse} (hFault : statement.fault = some cause)
    (hUntagged : (statement.layout inferring).Untagged) : statement.StylesAgree inferring := by
  have hTags : (statement.layout inferring).tags = [] := hUntagged
  have hPositional := statement.render_positional inferring
  have hNamed := statement.render_named inferring
  rw [hFault] at hPositional
  rw [hFault, hTags, if_neg List.not_mem_nil] at hNamed
  constructor
  case misuse => exact fun _ => by rw [hNamed, hPositional]
  case positional => exact fun hNot => absurd hPositional (hNot cause)
  case named => exact fun hNot => absurd hPositional (hNot cause)
  case finished =>
    intro positional named hOk
    cases hPositional.symm.trans hOk

/-- An anonymous argument is refused in one style only. -/
theorem stylesAgree_of_anonymous (hFault : statement.fault = none)
    (hEmpty : "" ∈ (statement.layout inferring).tags) : statement.StylesAgree inferring := by
  have hPositional := statement.render_positional inferring
  have hNamed := statement.render_named inferring
  rw [hFault] at hPositional
  rw [if_pos hEmpty] at hNamed
  constructor
  case misuse =>
    intro cause
    rw [hNamed, hPositional]
    exact ⟨nofun, nofun⟩
  case positional => exact fun _ => ⟨_, hPositional⟩
  case named =>
    intro _
    refine ⟨⟨fun _ => (anonymous_written_iff hFault).mpr hEmpty, fun _ => ⟨_, hNamed⟩⟩, ?_⟩
    exact fun error hError => (Except.error.inj (hNamed.symm.trans hError)).symm
  case finished =>
    intro positional named _ hOk
    cases hNamed.symm.trans hOk

/-- Without a fault and without anonymous arguments both styles write the statement. -/
theorem stylesAgree_of_tagged (hFault : statement.fault = none)
    (hTagged : "" ∉ (statement.layout inferring).tags) : statement.StylesAgree inferring := by
  have hPositional := statement.render_positional inferring
  have hNamed := statement.render_named inferring
  rw [hFault] at hPositional
  rw [hFault, if_neg hTagged] at hNamed
  constructor
  case misuse =>
    intro cause
    rw [hNamed, hPositional]
    exact ⟨nofun, nofun⟩
  case positional => exact fun _ => ⟨_, hPositional⟩
  case named =>
    intro _
    refine ⟨⟨?_, fun hWrites => absurd ((anonymous_written_iff hFault).mp hWrites) hTagged⟩, ?_⟩
    · rintro ⟨error, hError⟩
      cases hNamed.symm.trans hError
    · intro error hError
      cases hNamed.symm.trans hError
  case finished =>
    intro positional named hOk hOkNamed
    obtain rfl := Except.ok.inj (hPositional.symm.trans hOk)
    obtain rfl := Except.ok.inj (hNamed.symm.trans hOkNamed)
    have hFragments := (of_render_ok hPositional).1
    have hFragmentsNamed := (of_render_ok hNamed).1
    obtain ⟨hWritten, -⟩ := written_of_ok hPositional
    refine ⟨rfl, hFragments.trans hFragmentsNamed.symm, ?_, ?_, ?_⟩
    · rw [hFragments]
      rfl
    · rw [hFragmentsNamed]
      rfl
    · rw [hWritten]
      exact (Numbered.run _).slot

/-- With positional placeholders a query and a bare expression can always be written, and the two
styles agree on every statement that can be built. -/
theorem styles_agree {statement : Statement} (h : statement.Built) (inferring : Bool) :
    (∀ query : Select, ∃ rendering,
        (Statement.select query).render ⟨.positional, inferring⟩ = .ok rendering) ∧
      (∀ expr : Expr, ∃ sql, expr.toSql ⟨.positional, inferring⟩ = .ok sql) ∧
      statement.StylesAgree inferring := by
  refine ⟨fun query => ⟨_, render_positional (.select query) inferring⟩, ?_, ?_⟩
  · intro expr
    have hRender := expr.render_eq_outcome ⟨.positional, inferring⟩
    unfold Layout.outcome at hRender
    rw [if_neg fun ⟨_, _, hStyle, _⟩ => nomatch hStyle] at hRender
    have hSql : expr.toSql ⟨.positional, inferring⟩ =
        .ok ((expr.layout inferring .reference).rendering .positional).sql := by
      rw [Expr.toSql, hRender]
      rfl
    exact ⟨_, hSql⟩
  · cases hFault : statement.fault with
    | some cause => exact stylesAgree_of_fault hFault (h.untagged_of_fault hFault inferring)
    | none =>
      by_cases hEmpty : "" ∈ (statement.layout inferring).tags
      · exact stylesAgree_of_anonymous hFault hEmpty
      · exact stylesAgree_of_tagged hFault hEmpty

/-- A row with a tag that occurs twice, in both styles. -/
theorem styles_agree_repeated :
    ∃ statement : Statement,
      statement.render ⟨.positional, true⟩ =
        .ok ⟨"INSERT INTO \"t\" VALUES ($1, $1)", ["a"], .positional⟩ ∧
      statement.render ⟨.named, true⟩ =
        .ok ⟨"INSERT INTO \"t\" VALUES (:a, :a)", ["a"], .named⟩ ∧
      statement.StylesAgree true := by
  have hTarget := Relation.Built.table none "t"
  have hBuilt := Statement.Built.insert [] [.row [.argument "a", .argument "a"]] hTarget
  refine ⟨_, ?_, ?_, (styles_agree hBuilt true).2.2⟩
  · decide +kernel
  · decide +kernel

end Statement

end QueryText

import QueryText.Proofs.InsertSteps

/-!
# QueryText — the targets of statements

An INSERT, an UPDATE and a DELETE each work on a target, and a target should be a table, be it
under another name. Only the INSERT looks at its target, and it looks at the top of it: an alias
passes whatever is below it.

## Main results

* `Insert.History.of_eq` — what the steps of an INSERT do does not depend on its target.
* `Insert.fault_build_of_fits` — steps that fit are refused for the target only.
* `Statement.target_accepted_iff` — which targets each of the three statements accepts.
* `non_tables_accepted` — each of them writes a target that is not a table.
-/

namespace QueryText

-- ---------------------------------------------------------------------------
-- Tables
-- ---------------------------------------------------------------------------

namespace Relation

/-- Whether a relation is a table or an alias of one. -/
def isTable : Relation → Bool
  | table .. => true
  | aliased relation _ => relation.isTable
  | derived .. | excluded => false

/-- Whether a relation is another name for the excluded row. -/
def isRenamedRow : Relation → Bool
  | aliased .excluded _ => true
  | aliased .. | table .. | derived .. | excluded => false

end Relation

-- ---------------------------------------------------------------------------
-- The steps of an INSERT on another target
-- ---------------------------------------------------------------------------

namespace Insert

/-- What a step does does not depend on the misuses before it. -/
theorem History.add_misuses (columns : List String) (accepted : List Step)
    (misuses : List Misuse) (step : Step) :
    add columns ⟨accepted, misuses⟩ step =
      ⟨(add columns ⟨accepted, []⟩ step).accepted,
        misuses ++ (add columns ⟨accepted, []⟩ step).misuses⟩ := by
  cases hMisfit : step.misfit? columns accepted with
  | some cause => rw [add_of_misfit hMisfit, add_of_misfit hMisfit, List.nil_append]
  | none => rw [add_of_fit hMisfit, add_of_fit hMisfit, List.append_nil]

/-- Misuses that were noted stay in front of those of later steps. -/
theorem History.foldl_add_misuses (columns : List String) (accepted : List Step)
    (misuses : List Misuse) (steps : List Step) :
    steps.foldl (add columns) ⟨accepted, misuses⟩ =
      ⟨(steps.foldl (add columns) ⟨accepted, []⟩).accepted,
        misuses ++ (steps.foldl (add columns) ⟨accepted, []⟩).misuses⟩ := by
  induction steps generalizing accepted misuses with
  | nil => simp
  | cons step steps ih =>
    rw [List.foldl_cons, List.foldl_cons, add_misuses, ih]
    conv_rhs => rw [ih]
    rw [List.append_assoc]

/-- The history of a statement is that of its steps, after what is wrong with its target. -/
theorem History.of_eq (target : Relation) (columns : List String) (steps : List Step) :
    of target columns steps =
      ⟨(steps.foldl (add columns) {}).accepted,
        (targetMisfit? target).toList ++ (steps.foldl (add columns) {}).misuses⟩ :=
  foldl_add_misuses columns [] (targetMisfit? target).toList steps

/-- Steps that make a statement of any target fail on this one only for the target. -/
theorem fault_build_of_fits {other : Relation} {columns : List String} {steps : List Step}
    (hFits : (build other columns steps).fault = none) (target : Relation) :
    (build target columns steps).fault = targetMisfit? target := by
  obtain ⟨hMisuse, hRows⟩ := (fault_eq_none_iff _).mp hFits
  have hOther := describes_build other columns steps
  have hHere := describes_build target columns steps
  rw [History.of_eq] at hOther hHere
  -- no step was refused on the other target, and the same steps are accepted on this one
  have hNone := hMisuse.symm.trans hOther.misuse
  have hSteps := (List.append_eq_nil_iff.mp (List.head?_eq_none_iff.mp hNone.symm)).2
  have hAccepted := hOther.rows.isSome_iff.mp hRows
  have hRowsHere := hHere.rows.isSome_iff.mpr hAccepted
  have hMisuseHere := hHere.misuse
  rw [hSteps, List.append_nil] at hMisuseHere
  obtain ⟨rows, hSome⟩ := Option.isSome_iff_exists.mp hRowsHere
  rw [fault, hMisuseHere, hSome]
  cases targetMisfit? target <;> rfl

/-- An INSERT refuses the derived tables and the excluded row under its own name. -/
theorem targetMisfit?_eq {target : Relation} (h : target.Built) :
    targetMisfit? target =
      if target.isTable || target.isRenamedRow then none else some (.notATable target.name) := by
  cases target with
  | table schema name => rfl
  | derived query name => rfl
  | excluded => rfl
  | aliased inner name =>
    -- below an alias that was built there is a table or the excluded row
    have hNamed := h.named_of_aliased rfl
    cases inner with
    | table schema inner => rfl
    | excluded => rfl
    | aliased below inner => exact hNamed.elim
    | derived query inner => exact hNamed.elim

end Insert

-- ---------------------------------------------------------------------------
-- Statements on a target
-- ---------------------------------------------------------------------------

namespace Statement

/-- The statements that change a target and have nothing wrong with them but, maybe, the target: an
INSERT whose columns and steps make a statement of some target, an UPDATE with an assignment, any
DELETE. -/
inductive FitsOn (target : Relation) : Statement → Prop where
  | insert {columns : List String} {steps : List Insert.Step} (other : Relation) :
    (Insert.build other columns steps).fault = none →
      FitsOn target (.insert (Insert.build target columns steps))
  | update {update : Update} :
    update.target = target → update.assignments.isEmpty = false → FitsOn target (.update update)
  | delete {delete : Delete} : delete.target = target → FitsOn target (.delete delete)

/-- Only an INSERT ever has a fault because of its target. -/
theorem FitsOn.fault_eq {target : Relation} {statement : Statement}
    (h : statement.FitsOn target) :
    statement.fault =
      if statement.kind = .insert then Insert.targetMisfit? target else none := by
  cases h with
  | insert other hFits => exact Insert.fault_build_of_fits hFits target
  | update _ hAssigned =>
    show (if _ then some Misuse.updateWithoutAssignment else none) = none
    rw [hAssigned]
    rfl
  | delete _ => rfl

/-- What a statement makes of its target, if nothing else is wrong with it. -/
structure TreatsTarget (statement : Statement) (target : Relation) (inferring : Bool) :
    Prop where
  /-- A table and an alias of a table are accepted by every statement. -/
  table : target.isTable →
    ∃ rendering, statement.render ⟨.positional, inferring⟩ = .ok rendering
  /-- An UPDATE and a DELETE accept everything else as well. -/
  change : statement.kind ≠ .insert →
    ∃ rendering, statement.render ⟨.positional, inferring⟩ = .ok rendering
  /-- An INSERT accepts, beyond tables and their aliases, the other names of the excluded row. -/
  insert : statement.kind = .insert →
    ((∃ rendering, statement.render ⟨.positional, inferring⟩ = .ok rendering) ↔
      target.isTable ∨ target.isRenamedRow)
  /-- What it refuses, it reports by name. -/
  refused : statement.kind = .insert → target.isTable = false → target.isRenamedRow = false →
    statement.render ⟨.positional, inferring⟩ = .error (.misuse (.notATable target.name))
  /-- So tables and nothing else are accepted exactly where the target is a table, or where an
  INSERT looks at a target that is no alias. -/
  exact : ((∃ rendering, statement.render ⟨.positional, inferring⟩ = .ok rendering) ↔
      target.isTable) ↔
    target.isTable ∨ statement.kind = .insert ∧ target.isRenamedRow = false

/-- A table is a target of every statement, be it under another name. Of the other relations, an
INSERT refuses the derived tables and the excluded row, though not under another name; an UPDATE
and a DELETE refuse none. -/
theorem target_accepted_iff {target : Relation} (hBuilt : target.Built) {statement : Statement}
    (hFits : statement.FitsOn target) (inferring : Bool) :
    statement.TreatsTarget target inferring := by
  have hFault := hFits.fault_eq
  have hAccepted := statement.exists_render_positional_iff inferring
  rw [hFault] at hAccepted
  by_cases hInsert : statement.kind = .insert
  · rw [if_pos hInsert, Insert.targetMisfit?_eq hBuilt] at hAccepted hFault
    have hIff : (∃ rendering, statement.render ⟨.positional, inferring⟩ = .ok rendering) ↔
        target.isTable ∨ target.isRenamedRow := by
      rw [hAccepted]
      cases target.isTable <;> cases target.isRenamedRow <;> simp
    refine ⟨fun hTable => hIff.mpr (Or.inl hTable), fun hNot => absurd hInsert hNot,
      fun _ => hIff, fun _ hTable hRow => ?_, ?_⟩
    · rw [render_positional, hFault, hTable, hRow]
      rfl
    · rw [hIff]
      cases target.isTable <;> cases target.isRenamedRow <;> simp [hInsert]
  · rw [if_neg hInsert] at hAccepted
    have hAlways := hAccepted.mpr rfl
    refine ⟨fun _ => hAlways, fun _ => hAlways, fun hKind => absurd hKind hInsert,
      fun hKind => absurd hKind hInsert, ?_⟩
    simp [hAlways, hInsert]

/-- A derived table is refused by an INSERT, and an UPDATE takes an alias of a table. -/
theorem target_accepted_aliased :
    (Statement.insert (Insert.build (.derived {} "d") ["a"] [.row [.literal "1"]])).render
        ⟨.positional, true⟩ = .error (.misuse (.notATable "d")) ∧
      ∃ rendering, (Statement.update
        { target := (Relation.table none "t").rename "x"
          assignments := ⟨[("a", .literal "1")]⟩ }).render ⟨.positional, true⟩ =
            .ok rendering := by
  have hDerived : FitsOn (.derived {} "d")
      (.insert (Insert.build (.derived {} "d") ["a"] [.row [.literal "1"]])) :=
    .insert (.table none "t") rfl
  have hAliased : FitsOn ((Relation.table none "t").rename "x")
      (.update { target := (Relation.table none "t").rename "x"
                 assignments := ⟨[("a", .literal "1")]⟩ }) :=
    .update rfl rfl
  exact ⟨(target_accepted_iff (.derived {} "d") hDerived true).refused rfl rfl rfl,
    (target_accepted_iff (.rename "x" (.table none "t")) hAliased true).table rfl⟩

end Statement

/-- Each statement writes a target that is no table: an INSERT the excluded row under another name,
an UPDATE a derived table, and a DELETE the excluded row. -/
theorem non_tables_accepted :
    let row : Relation := Relation.excluded.rename "x"
    let query : Relation := .derived { items := [.literal "1"] } "d"
    let insert : Statement := .insert (Insert.build row [] [.defaults])
    let update : Statement :=
      .update { target := query, assignments := ⟨[("a", .literal "1")]⟩ }
    let delete : Statement := .delete { target := .excluded }
    (row.Built ∧ row.isTable = false ∧ insert.FitsOn row ∧
      insert.render ⟨.positional, true⟩ =
        .ok ⟨"INSERT INTO excluded AS \"x\" DEFAULT VALUES", [], .positional⟩) ∧
    (query.Built ∧ query.isTable = false ∧ update.FitsOn query ∧
      update.render ⟨.positional, true⟩ =
        .ok ⟨"UPDATE (SELECT 1) \"d\" SET \"a\" = 1", [], .positional⟩) ∧
    delete.FitsOn .excluded ∧
      delete.render ⟨.positional, true⟩ = .ok ⟨"DELETE FROM excluded", [], .positional⟩ := by
  refine ⟨⟨.rename "x" .excluded, rfl, .insert (.table none "t") rfl, ?_⟩,
    ⟨.derived _ "d", rfl, .update rfl rfl, ?_⟩, .delete rfl, ?_⟩
  · decide +kernel
  · decide +kernel
  · decide +kernel

end QueryText

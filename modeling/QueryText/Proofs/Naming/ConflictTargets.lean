import QueryText.Proofs.Correlation
import QueryText.Proofs.Quoting.Readable

/-!
# QueryText — the targets of a conflict

A target of an ON CONFLICT clause is written without qualifiers, however deep its columns are. So
the relations before its columns and stars make no difference, and the names in the list are
those of its columns and aliases only. Behind the list, columns have their qualifiers again.

## Main results

* `bareCases` — under bare naming, a layout does not depend on the relations before columns.
* `namesCases` — under bare naming, the names of a layout are those of columns and aliases.
* `Insert.conflict_targets_bare` — the list of targets and what follows it.
-/

namespace QueryText

theorem Naming.inner_bare : Naming.bare.inner = .bare := rfl

-- ---------------------------------------------------------------------------
-- Expressions without their qualifiers
-- ---------------------------------------------------------------------------

mutual

/-- An expression with one and the same relation before all of its columns and stars. Expressions
that differ in nothing but these relations are the same without them. Sub-queries are not looked
into. -/
def Expr.unqualified : Expr → Expr
  | .column _ name => .column .excluded name
  | .star => .star
  | .allOf _ => .allOf .excluded
  | .argument tag => .argument tag
  | .literal text => .literal text
  | .raw sql operands => .raw sql (Expr.unqualifiedAll operands)
  | .group inner => .group inner.unqualified
  | .list items => .list (Expr.unqualifiedAll items)
  | .unary op operand => .unary op operand.unqualified
  | .binary op left right => .binary op left.unqualified right.unqualified
  | .logical op operands => .logical op (Expr.unqualifiedAll operands)
  | .call function operands => .call function (Expr.unqualifiedAll operands)
  | .named inner name => .named inner.unqualified name
  | .subquery op query => .subquery op query

def Expr.unqualifiedAll : List Expr → List Expr
  | [] => []
  | expr :: exprs => expr.unqualified :: Expr.unqualifiedAll exprs

end

/-- The expressions of a list lose their relations one by one. -/
theorem Expr.unqualifiedAll_eq_map (exprs : List Expr) :
    Expr.unqualifiedAll exprs = exprs.map Expr.unqualified := by
  induction exprs with
  | nil => rfl
  | cons expr exprs ih => simp [Expr.unqualifiedAll, ih]

/-- Without its relations an expression has the same operator at its top. -/
theorem Expr.isCompound_unqualified (e : Expr) : e.unqualified.isCompound = e.isCompound := by
  cases e <;> rfl

theorem Expr.startsWithOperator_unqualified (e : Expr) :
    e.unqualified.startsWithOperator = e.startsWithOperator := by
  cases e <;> rfl

/-- The relations of a list make no difference under bare naming, if it is so for each expression.
-/
theorem Expr.layouts_unqualified {auto : Bool} {exprs : List Expr}
    (h : ∀ e ∈ exprs, e.unqualified.layout auto .bare = e.layout auto .bare) :
    Expr.layouts auto (Expr.unqualifiedAll exprs) .bare = Expr.layouts auto exprs .bare := by
  rw [Expr.unqualifiedAll_eq_map, Expr.layouts_eq_map, Expr.layouts_eq_map, List.map_map]
  exact List.map_congr_left h

/-- Bare naming reaches every part: whatever relation stands before a column, the layout is the
same. -/
theorem bareCases (auto : Bool) :
    ExprCases fun e => e.unqualified.layout auto .bare = e.layout auto .bare where
  column _ _ := rfl
  star := rfl
  allOf _ := rfl
  argument _ := rfl
  literal _ := rfl
  raw _ _ h := congrArg (Layout.raw _) (Expr.layouts_unqualified h)
  group _ h := congrArg Layout.parenthesized h
  list _ h := congrArg Layout.tuple (Expr.layouts_unqualified h)
  unary _ operand h := by
    rw [Expr.unqualified, Expr.layout, Expr.layout, Expr.isCompound_unqualified,
      Expr.startsWithOperator_unqualified, Naming.inner_bare, h]
  binary _ left right hLeft hRight := by
    rw [Expr.unqualified, Expr.layout, Expr.layout, Expr.isCompound_unqualified,
      Expr.isCompound_unqualified, Naming.inner_bare, hLeft, hRight]
  logical _ _ h := congrArg (Layout.connected _) (Expr.layouts_unqualified h)
  call _ _ h := congrArg (Layout.call _) (Expr.layouts_unqualified h)
  named _ _ _ := rfl
  subquery _ _ := rfl

/-- The relations before the columns of targets make no difference to the list. -/
theorem Insert.targetsClause_unqualified (auto : Bool) (targets : List Expr) :
    targetsClause auto (targets.map Expr.unqualified) = targetsClause auto targets := by
  have hLayouts : (targets.map Expr.unqualified).map (·.layout auto .bare) =
      targets.map (·.layout auto .bare) := by
    rw [List.map_map]
    exact List.map_congr_left fun e _ => (bareCases auto).expr e
  rw [targetsClause, targetsClause, List.isEmpty_map, hLayouts]

-- ---------------------------------------------------------------------------
-- The names of a layout
-- ---------------------------------------------------------------------------

/-- The name that an atom is written as. -/
def Atom.name? : Atom → Option String
  | name s | qualifier s | declaration s => some s
  | text _ | argument _ | gap | inference _ => none

namespace Layout

/-- The names of a layout, in order. -/
def names (l : Layout) : List String :=
  l.filterMap fun piece => piece.atom.name?

theorem names_append (l m : Layout) : (l ++ m).names = l.names ++ m.names :=
  List.filterMap_append

theorem names_text (s : String) : (text s).names = [] := rfl

theorem names_parenthesized (l : Layout) : (parenthesized l).names = l.names := by
  rw [parenthesized, names_append, names_append, names_text, names_text, List.nil_append,
    List.append_nil]

theorem names_operand (compound : Bool) (l : Layout) : (operand compound l).names = l.names := by
  cases compound with
  | true => exact names_parenthesized l
  | false => rfl

/-- The text between layouts has no names. -/
theorem names_separated (separator : String) (ls : List Layout) :
    (separated separator ls).names = (ls.map names).flatten := by
  induction ls with
  | nil => rfl
  | cons first rest ih =>
    cases rest with
    | nil => simp [separated, List.intercalate_singleton]
    | cons next rest =>
      rw [separated] at ih
      rw [separated, List.intercalate_cons_cons, names_append, names_append, names_text, ih,
        List.append_nil]
      rfl

theorem names_tuple (ls : List Layout) : (tuple ls).names = (ls.map names).flatten := by
  rw [tuple, names_parenthesized, names_separated]

/-- A prefix or postfix operator has the names of its operand. -/
theorem names_unary (op : UnaryOp) (touching : Bool) (l : Layout) :
    (unary op touching l).names = l.names := by
  have hSpace : ∀ c : Bool, names (if c then text " " else []) = [] := by
    intro c
    cases c <;> rfl
  unfold unary
  split
  · rw [names_append, names_append, names_text, hSpace]
    rfl
  · rw [names_append, names_append, names_text, hSpace, List.append_nil, List.append_nil]

/-- A binary operator has those of its left and then those of its right side. -/
theorem names_binary (op : BinaryOp) (l m : Layout) :
    (binary op l m).names = l.names ++ m.names := by
  rw [binary, names_append, names_append, names_text, List.append_nil]

/-- A connective has the names of its operands. -/
theorem names_connected (op : LogicalOp) (ls : List Layout) :
    (connected op ls).names = (ls.map names).flatten := by
  rw [connected, names_separated, List.map_map]
  congr 1
  exact List.map_congr_left fun l _ => names_parenthesized l

/-- Only operands that have a hole are written. -/
theorem names_filled (first : List Char) (pieces : List (List Char)) (ls : List Layout) :
    (filled first pieces ls).names = ((ls.take pieces.length).map names).flatten := by
  induction pieces generalizing first ls with
  | nil => rfl
  | cons piece pieces ih =>
    cases ls with
    | nil =>
      rw [filled, names_append, names_append, names_text, names_text, ih]
      simp
    | cons l ls =>
      rw [filled, names_append, names_append, names_text, ih]
      rfl

/-- The names of a layout are those that are written, qualifiers and declarations among them. -/
theorem writtenNames_fragments (slots : List String) (l : Layout) :
    writtenNames (l.fragments slots) = l.names := by
  induction l generalizing slots with
  | nil => rfl
  | cons piece l ih =>
    obtain ⟨path, atom⟩ := piece
    rw [fragments, writtenNames_append, ih]
    cases atom <;> rfl

end Layout

-- ---------------------------------------------------------------------------
-- Names under bare naming
-- ---------------------------------------------------------------------------

mutual

/-- The names that an expression shows under bare naming: those of its columns and of its aliases.
What an alias stands for is not shown, nor is an operand of raw SQL that has no hole. -/
def Expr.shownNames : Expr → List String
  | .column _ name => [name]
  | .raw sql operands =>
    ((Expr.shownNamesAll operands).take (Raw.pieces {} sql.toList).2.length).flatten
  | .group inner => inner.shownNames
  | .list items => (Expr.shownNamesAll items).flatten
  | .unary _ operand => operand.shownNames
  | .binary _ left right => left.shownNames ++ right.shownNames
  | .logical _ operands => (Expr.shownNamesAll operands).flatten
  | .call _ operands => (Expr.shownNamesAll operands).flatten
  | .named _ name => [name]
  | .star | .allOf _ | .argument _ | .literal _ | .subquery .. => []

def Expr.shownNamesAll : List Expr → List (List String)
  | [] => []
  | expr :: exprs => expr.shownNames :: Expr.shownNamesAll exprs

end

/-- The names of a list are found expression by expression. -/
theorem Expr.shownNamesAll_eq_map (exprs : List Expr) :
    Expr.shownNamesAll exprs = exprs.map Expr.shownNames := by
  induction exprs with
  | nil => rfl
  | cons expr exprs ih => simp [Expr.shownNamesAll, ih]

/-- An expression without a sub-query anywhere in it. -/
def Expr.SubqueryFree (e : Expr) : Prop :=
  ∀ query, ¬ e.Uses query

theorem Expr.SubqueryFree.part {e inner : Expr} (h : e.SubqueryFree) (hPart : inner ∈ e.parts) :
    inner.SubqueryFree :=
  fun query hUses => h query (.part hPart hUses)

/-- What is no sub-query itself has one only in its parts. -/
theorem Expr.SubqueryFree.of_parts {e : Expr} (hTop : ∀ op query, e ≠ .subquery op query)
    (h : ∀ inner ∈ e.parts, inner.SubqueryFree) : e.SubqueryFree := by
  intro query hUses
  cases hUses with
  | operand op => exact hTop op query rfl
  | part hPart hInner => exact h _ hPart query hInner

/-- The names of a list are those that it shows, if it is so for each expression. -/
theorem Expr.map_names_layouts {auto : Bool} {exprs : List Expr}
    (h : ∀ e ∈ exprs, e.SubqueryFree → (e.layout auto .bare).names = e.shownNames)
    (hFree : ∀ e ∈ exprs, e.SubqueryFree) :
    (Expr.layouts auto exprs .bare).map Layout.names = Expr.shownNamesAll exprs := by
  rw [Expr.layouts_eq_map, Expr.shownNamesAll_eq_map, List.map_map]
  exact List.map_congr_left fun e he => h e he (hFree e he)

/-- Under bare naming, the names of a layout are those of its columns and aliases. -/
theorem namesCases (auto : Bool) :
    ExprCases fun e => e.SubqueryFree → (e.layout auto .bare).names = e.shownNames where
  column _ _ _ := rfl
  star _ := rfl
  allOf _ _ := rfl
  argument _ _ := rfl
  literal _ _ := rfl
  raw sql operands h hFree := by
    rw [Expr.layout, Layout.raw, Layout.names_filled, List.map_take, Naming.inner_bare,
      Expr.map_names_layouts h fun e he => hFree.part he, Expr.shownNames]
  group inner h hFree := by
    rw [Expr.layout, Layout.names_parenthesized, Naming.inner_bare,
      h (hFree.part (List.mem_singleton.mpr rfl)), Expr.shownNames]
  list items h hFree := by
    rw [Expr.layout, Layout.names_tuple, Naming.inner_bare,
      Expr.map_names_layouts h fun e he => hFree.part he, Expr.shownNames]
  unary op operand h hFree := by
    rw [Expr.layout, Layout.names_unary, Layout.names_operand, Naming.inner_bare,
      h (hFree.part (List.mem_singleton.mpr rfl)), Expr.shownNames]
  binary op left right hLeft hRight hFree := by
    have hLeftFree : left.SubqueryFree := hFree.part (List.mem_cons_self ..)
    have hRightFree : right.SubqueryFree :=
      hFree.part (List.mem_cons_of_mem _ (List.mem_singleton.mpr rfl))
    rw [Expr.layout, Layout.names_binary, Layout.names_operand, Layout.names_operand,
      Naming.inner_bare, hLeft hLeftFree, hRight hRightFree, Expr.shownNames]
  logical op operands h hFree := by
    rw [Expr.layout, Layout.names_connected, Naming.inner_bare,
      Expr.map_names_layouts h fun e he => hFree.part he, Expr.shownNames]
  call function operands h hFree := by
    rw [Expr.layout, Layout.call, Layout.names_append, Layout.names_text, Layout.names_tuple,
      Naming.inner_bare, Expr.map_names_layouts h fun e he => hFree.part he, Expr.shownNames,
      List.nil_append]
  named _ _ _ _ := rfl
  subquery op query hFree := absurd (.operand op) (hFree query)

-- ---------------------------------------------------------------------------
-- Behind the list of targets
-- ---------------------------------------------------------------------------

namespace Upsert

/-- The update of an existing row with every expression in reference naming: each assigned value and
each filter. -/
def writeReferred (upsert : Upsert) : Writer := do
  Writer.text "DO UPDATE "
  Writer.listClause "SET" (upsert.assignments.entries.map fun entry => do
    Writer.name entry.1
    Writer.text " = "
    Writer.within .reference entry.2.write)
  Writer.conditionClause "WHERE"
    (upsert.filters.map fun filter => Writer.within .reference filter.write)

/-- An update in reference naming has the layout of the action of a conflict. -/
theorem writeReferred_writes (upsert : Upsert) {auto infer : Bool} :
    upsert.writeReferred.Writes ⟨.reference, infer, auto⟩
      (Insert.actionLayout auto (.update upsert)) := by
  have hReferred : ∀ e : Expr, (Writer.within .reference e.write).Writes ⟨.reference, infer, auto⟩
      (e.layout auto .reference) :=
    fun e => Writer.Writes.within ((writeCases auto).expr e .reference infer)
  rw [Insert.actionLayout, Layout.closed_append]
  refine (Writer.writes_text "DO UPDATE ").seq (Writer.Writes.seq ?_ ?_)
  · refine Writer.writes_listClause (Writer.writesAll_map fun entry _ => ?_)
    have hEntry := (Writer.writes_name entry.1).seq
      ((Writer.writes_text " = ").seq (hReferred entry.2))
    exact hEntry.congr (List.append_assoc ..).symm
  · exact Writer.writes_conditionClause (Writer.writesAll_map fun filter _ => hReferred filter) rfl

end Upsert

-- ---------------------------------------------------------------------------
-- The list of targets
-- ---------------------------------------------------------------------------

namespace Insert

/-- The names of a list of targets are those of their columns and aliases. -/
theorem names_targetsClause {auto : Bool} {targets : List Expr}
    (h : ∀ e ∈ targets, e.SubqueryFree) :
    (Layout.closed (targetsClause auto targets)).names = targets.flatMap Expr.shownNames := by
  have hNames : (targets.map (·.layout auto .bare)).map Layout.names =
      targets.map Expr.shownNames := by
    rw [List.map_map]
    exact List.map_congr_left fun e he => (namesCases auto).expr e (h e he)
  unfold targetsClause
  by_cases hEmpty : targets.isEmpty = true
  · rw [if_pos hEmpty, List.isEmpty_iff.mp hEmpty]
    rfl
  · rw [if_neg hEmpty, Layout.closed_singleton, Layout.names_append, Layout.names_parenthesized,
      Layout.names_separated, hNames, List.flatMap_def]
    exact List.append_nil _

/-- Writing the targets is playing their layout, in every context. -/
theorem writeTargets_eq_play (targets : List Expr) (ctx : Context) :
    writeTargets targets ctx =
      (Layout.closed (targetsClause ctx.initial.inferring targets)).play ctx :=
  writeTargets_writes targets ctx rfl

/-- Targets that differ in the relations before their columns and stars are written alike. -/
theorem writeTargets_congr {targets others : List Expr}
    (h : targets.map Expr.unqualified = others.map Expr.unqualified) :
    writeTargets targets = writeTargets others := by
  funext ctx
  rw [writeTargets_eq_play, writeTargets_eq_play, ← targetsClause_unqualified, h,
    targetsClause_unqualified]

/-- The names that are written in a list of targets, be it to its end or up to an argument that is
refused. -/
theorem exists_names_writeTargets {targets : List Expr} (h : ∀ e ∈ targets, e.SubqueryFree)
    (ctx : Context) :
    ∃ written,
      ((writeTargets targets).after ctx).fragments.toList = ctx.fragments.toList ++ written ∧
      writtenNames written <+: targets.flatMap Expr.shownNames ∧
      ∀ after, writeTargets targets ctx = .ok () after →
        writtenNames written = targets.flatMap Expr.shownNames := by
  have hStops : (writeTargets targets).Stops ctx.place
      (Layout.closed (targetsClause ctx.initial.inferring targets)) none :=
    fun other hPlace => writeTargets_writes targets other hPlace
  obtain ⟨written, rest, hSplit, hWrote, -⟩ := hStops.wrote_after
  have hNames : written.names ++ rest.names = targets.flatMap Expr.shownNames := by
    rw [← names_targetsClause h, hSplit, Layout.names_append]
  refine ⟨_, hWrote.fragments, ?_, fun after hRun => ?_⟩
  · rw [Layout.writtenNames_fragments, ← hNames]
    exact List.prefix_append ..
  · -- a list that is written to its end is all of its layout
    have hWhole := Layout.wrote_of_ok ((writeTargets_eq_play targets ctx).symm.trans hRun)
    have hAfter : (writeTargets targets).after ctx = after := by
      rw [Writer.after, hRun]
    have hSame := hWrote.fragments.symm.trans (hAfter ▸ hWhole.fragments)
    rw [List.append_cancel_left hSame, Layout.writtenNames_fragments, names_targetsClause h]

/-- Behind the list, another writer does as well, if it writes the layout of what to do about the
conflict. -/
theorem writeConflict_eq_of_writes (targets : List Expr) {action : ConflictAction} {w : Writer}
    {ctx : Context} (hNaming : ctx.naming = .reference)
    (hAction : w.Writes ⟨.reference, ctx.options.inferring, ctx.initial.inferring⟩
      (actionLayout ctx.initial.inferring action)) :
    writeConflict (some ⟨targets, action⟩) ctx =
      (do
        Writer.text "ON CONFLICT "
        writeTargets targets
        w : Writer) ctx := by
  have hPlace : ctx.place = ⟨.reference, ctx.options.inferring, ctx.initial.inferring⟩ := by
    rw [Context.place, hNaming]
  have hList : (writeTargets targets).Writes ctx.place
      (Layout.closed (targetsClause ctx.initial.inferring targets)) :=
    writeTargets_writes targets
  rw [← hPlace] at hAction
  have hCode : (writeAction action).Writes ctx.place
      (actionLayout ctx.initial.inferring action) :=
    hPlace ▸ writeAction_writes action
  have hConflict := (Writer.writes_text "ON CONFLICT ").seq (hList.seq hCode)
  have hOther := (Writer.writes_text "ON CONFLICT ").seq (hList.seq hAction)
  exact (hConflict ctx rfl).trans (hOther ctx rfl).symm

/-- The targets of a conflict never have qualifiers. Whatever relations stand before their columns
and stars, the list is written alike in every context, with the same arguments and the same
error. The names in it are those of its columns and of its aliases, in order. What follows the
list is written in reference naming again: so is each assigned value and each filter of an
update. -/
theorem conflict_targets_bare :
    (∀ targets others : List Expr,
      targets.map Expr.unqualified = others.map Expr.unqualified →
      writeTargets targets = writeTargets others) ∧
    (∀ targets : List Expr, (∀ e ∈ targets, e.SubqueryFree) → ∀ ctx : Context,
      ∃ written,
        ((writeTargets targets).after ctx).fragments.toList = ctx.fragments.toList ++ written ∧
        writtenNames written <+: targets.flatMap Expr.shownNames ∧
        ∀ after, writeTargets targets ctx = .ok () after →
          writtenNames written = targets.flatMap Expr.shownNames) ∧
    (∀ (targets : List Expr) (action : ConflictAction) (ctx : Context),
      ctx.naming = .reference →
      writeConflict (some ⟨targets, action⟩) ctx =
        (do
          Writer.text "ON CONFLICT "
          writeTargets targets
          Writer.within .reference (writeAction action) : Writer) ctx) ∧
    (∀ (targets : List Expr) (upsert : Upsert) (ctx : Context), ctx.naming = .reference →
      writeConflict (some ⟨targets, .update upsert⟩) ctx =
        (do
          Writer.text "ON CONFLICT "
          writeTargets targets
          upsert.writeReferred : Writer) ctx) := by
  refine ⟨fun targets others hSame => writeTargets_congr hSame, ?_, ?_, ?_⟩
  · exact fun targets hFree ctx => exists_names_writeTargets hFree ctx
  · exact fun targets action ctx hNaming =>
      writeConflict_eq_of_writes targets hNaming (writeAction_writes action).within
  · exact fun targets upsert ctx hNaming =>
      writeConflict_eq_of_writes targets hNaming upsert.writeReferred_writes

/-- A function of a column as a target: the column is bare there, and qualified in the assignment
and the filter behind the list. -/
theorem conflict_targets_bare_lowered :
    let column : Expr := .column (.table none "t") "a"
    let target : Expr := .call "lower" [column]
    let upsert : Upsert := ⟨⟨[("a", column)]⟩, [.binary .less column (.literal "9")]⟩
    let ctx : Context := Context.start ⟨.positional, true⟩
    writeTargets [target] =
        writeTargets [.call "lower" [.column (.aliased (.table none "u") "x") "a"]] ∧
      (∃ written,
        ((writeTargets [target]).after ctx).fragments.toList = written ∧
        writtenNames written <+: ["a"]) ∧
      writeConflict (some ⟨[target], .update upsert⟩) ctx =
        (do
          Writer.text "ON CONFLICT "
          writeTargets [target]
          Writer.within .reference (writeAction (.update upsert)) : Writer) ctx ∧
      writeConflict (some ⟨[target], .update upsert⟩) ctx =
        (do
          Writer.text "ON CONFLICT "
          writeTargets [target]
          upsert.writeReferred : Writer) ctx ∧
      Writer.render (writeConflict (some ⟨[target], .update upsert⟩)) ⟨.positional, true⟩ =
        .ok ⟨"ON CONFLICT (lower(\"a\")) DO UPDATE SET \"a\" = \"t\".\"a\" " ++
          "WHERE \"t\".\"a\" < 9", [], .positional⟩ := by
  intro column target upsert ctx
  have hColumn : column.SubqueryFree :=
    .of_parts nofun fun _ hPart => absurd hPart List.not_mem_nil
  have hTarget : target.SubqueryFree :=
    .of_parts nofun (List.forall_mem_singleton.mpr hColumn)
  obtain ⟨hAlike, hNames, hAction, hUpdate⟩ := conflict_targets_bare
  refine ⟨hAlike _ _ rfl, ?_, hAction _ _ ctx rfl, hUpdate _ _ ctx rfl, by decide +kernel⟩
  obtain ⟨written, hFragments, hWritten, -⟩ :=
    hNames [target] (List.forall_mem_singleton.mpr hTarget) ctx
  exact ⟨written, hFragments, hWritten⟩

end Insert

end QueryText

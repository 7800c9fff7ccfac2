import QueryText.Proofs.Explicit

/-!
# QueryText — the reference renderer

The writer keeps the naming and the inference in force in its context and puts them back, closes
every clause with a space, takes the last one back after each query, and numbers arguments while
it writes. None of that is needed to say what a statement is written as. It is the list of its
clauses with one space between each two of them; a clause is worked out from its own parts; and
the placeholders are numbered in a pass of their own, when all pieces are there.

## Main results

* `Statement.alike_clauses` — a statement is laid out as its clauses.
* `Statement.opening_clauses` — no clause is empty.
* `Layout.nested` — what the queries inside a statement are written as.
* `Statement.render_eq_reference` — rendering is rendering by reference.
-/

namespace QueryText

open Layout (text)

-- ---------------------------------------------------------------------------
-- Clauses
-- ---------------------------------------------------------------------------

namespace Insert

def actionClauses (auto : Bool) : ConflictAction → List Layout
  | .nothing => [text "DO NOTHING"]
  | .update upsert =>
    [text "DO UPDATE"] ++ Layout.listClause "SET" (upsert.assignments.layouts auto) ++
      Layout.conditionClause "WHERE" (upsert.filters.map (·.layout auto .reference))

def conflictClauses (auto : Bool) : Option Conflict → List Layout
  | none => []
  | some conflict =>
    [text "ON CONFLICT"] ++ targetsClause auto conflict.targets ++
      actionClauses auto conflict.action

/-- The clauses of an INSERT, as far as it can be written. -/
def clauses (auto : Bool) (insert : Insert) : List Layout :=
  match insert.misuse, insert.rows with
  | some _, _ => []
  | none, none => insert.head auto
  | none, some rows =>
    insert.head auto ++ [rowsLayout auto rows] ++ conflictClauses auto insert.conflict ++
      Layout.listClause "RETURNING" (insert.returning.map (·.layout auto .declaration))

end Insert

namespace Statement

/-- The clauses of a statement, as far as it can be written: those that are there, in the order of
the language. -/
def clauses (auto : Bool) : Statement → List Layout
  | .select statement => statement.clauses auto auto
  | .insert statement => statement.clauses auto
  | .update statement =>
    if statement.assignments.isEmpty then [] else statement.clauses auto
  | .delete statement => statement.clauses auto

/-- What a statement is written as: its clauses with one space between each two of them, and no
number in any placeholder. -/
def pieces (auto : Bool) (statement : Statement) : Layout :=
  Layout.spaced (statement.clauses auto)

/-- The reference renderer. When all pieces are there, their arguments are numbered from left to
right. -/
def reference (statement : Statement) (options : Options) : Except Error Rendering :=
  if ∃ tag ∈ (statement.pieces options.inferring).tags, options.placeholder.Refuses tag then
    .error .anonymousArgument
  else
    match statement.fault with
    | some cause => .error (.misuse cause)
    | none =>
      .ok ⟨spellAll options.placeholder ((statement.pieces options.inferring).fragments []),
        (statement.pieces options.inferring).tags.foldl Slots.grow [], options.placeholder⟩

end Statement

-- ---------------------------------------------------------------------------
-- Layouts that are spelled alike
-- ---------------------------------------------------------------------------

namespace Layout

/-- Two layouts with the same arguments and the same text, wherever they stand. -/
structure Alike (l m : Layout) : Prop where
  tags : l.tags = m.tags
  spelling : ∀ style slots, l.spelling style slots = m.spelling style slots

namespace Alike

variable {l m l' m' : Layout}

theorem refl (l : Layout) : l.Alike l :=
  ⟨rfl, fun _ _ => rfl⟩

/-- Layouts that are alike are so in a row. -/
theorem append (h : l.Alike m) (h' : l'.Alike m') : Layout.Alike (l ++ l') (m ++ m') := by
  refine ⟨?_, fun style slots => ?_⟩
  · rw [tags_append, tags_append, h.tags, h'.tags]
  · have hSlots : l.slotsAfter slots = m.slotsAfter slots := by
      rw [slotsAfter, slotsAfter, h.tags]
    rw [spelling_append, spelling_append, h.spelling, hSlots, h'.spelling]

theorem of_script (h : l.script = m.script) : l.Alike m := by
  refine ⟨?_, fun style slots => ?_⟩
  · rw [tags_eq_script, tags_eq_script, h]
  · rw [Layout.spelling, Layout.spelling, fragments_eq_script, h, ← fragments_eq_script]

/-- Layouts that are alike are rendered alike. -/
theorem rendering_eq (h : l.Alike m) {style : PlaceholderStyle} :
    l.rendering style = m.rendering style := by
  have hText : spellAll style (l.fragments []) = spellAll style (m.fragments []) :=
    h.spelling style []
  rw [rendering, rendering, hText, h.tags]

/-- Frames are not written. -/
theorem inside (frame : Frame) (l : Layout) : (Layout.inside frame l).Alike l :=
  of_script (script_inside frame l)

/-- A space is written alike, be it a part of a word or the end of a clause. -/
theorem word (s : String) : (text (s ++ " ")).Alike (text s ++ gap) := by
  refine ⟨rfl, fun style slots => ?_⟩
  show String.join [s ++ " "] = String.join [s, " "]
  simp [String.join]

end Alike

end Layout

/-- An ON CONFLICT clause is laid out as its clauses. -/
theorem Insert.alike_conflictClauses (auto : Bool) (conflict : Option Conflict) :
    (conflictLayout auto conflict).Alike (Layout.closed (conflictClauses auto conflict)) := by
  cases conflict with
  | none => exact .refl []
  | some conflict =>
    have hAction : (actionLayout auto conflict.action).Alike
        (Layout.closed (actionClauses auto conflict.action)) := by
      cases conflict.action with
      | nothing => exact .refl _
      | update upsert =>
        rw [actionLayout, actionClauses, List.append_assoc, Layout.closed_append _ (_ ++ _),
          Layout.closed_singleton]
        exact (Layout.Alike.word "DO UPDATE").append (.refl _)
    rw [conflictLayout, conflictClauses, Layout.closed_append, Layout.closed_append,
      Layout.closed_singleton]
    exact ((Layout.Alike.word "ON CONFLICT").append (.refl _)).append hAction

/-- An INSERT is laid out like its clauses with a space after each, although it writes some of these
spaces elsewhere. -/
theorem Insert.alike_clauses (auto : Bool) (insert : Insert) :
    (insert.layout auto).Alike (Layout.closed (insert.clauses auto)) := by
  unfold Insert.layout Insert.clauses
  cases insert.misuse with
  | some cause => exact .refl []
  | none =>
    cases insert.rows with
    | none => exact .refl _
    | some rows =>
      simp only [Layout.closed_append, List.append_assoc, Insert.tail]
      refine .append (.refl _) (.append (.refl _) ?_)
      exact (alike_conflictClauses auto insert.conflict).append (.refl _)

/-- A statement is laid out as its clauses, each of them closed by a space. -/
theorem Statement.alike_clauses (auto : Bool) (statement : Statement) :
    (statement.layout auto).Alike (Layout.closed (statement.clauses auto)) := by
  cases statement with
  | select query =>
    -- a statement is closed like its clauses: by the gap behind the query
    rw [Statement.layout, Statement.clauses, Select.closed_clauses]
    exact (Layout.Alike.inside _ _).append (.refl _)
  | insert insert => exact insert.alike_clauses auto
  | update update =>
    show (update.layout auto).Alike (Layout.closed (ite _ _ _))
    unfold Update.layout
    split
    · exact .refl []
    · exact .inside _ _
  | delete delete => exact .inside _ _

-- ---------------------------------------------------------------------------
-- No clause is empty
-- ---------------------------------------------------------------------------

/-- A layout that begins with some text. -/
def Layout.Opening (l : Layout) : Prop :=
  ∃ path s rest, l = ⟨path, .text s⟩ :: rest ∧ s ≠ ""

namespace Layout.Opening

variable {l : Layout}

/-- A layout that opens with a text is not written as nothing. -/
theorem spelling_ne (h : l.Opening) (style : PlaceholderStyle) (slots : List String) :
    l.spelling style slots ≠ "" := by
  obtain ⟨path, s, rest, rfl, hText⟩ := h
  have hSplit : spelling style slots (⟨path, .text s⟩ :: rest) =
      s ++ spelling style slots rest := String.join_cons
  rw [hSplit]
  exact fun h => hText (String.append_eq_empty_iff.mp h).1

theorem text {s : String} (h : s ≠ "") : (Layout.text s).Opening :=
  ⟨[], s, [], rfl, h⟩

/-- What a layout opens with is not changed by what follows. -/
theorem append (h : l.Opening) (m : Layout) : Opening (l ++ m) := by
  obtain ⟨path, s, rest, rfl, hText⟩ := h
  exact ⟨path, s, rest ++ m, rfl, hText⟩

theorem inside (h : l.Opening) (frame : Frame) : (Layout.inside frame l).Opening := by
  obtain ⟨path, s, rest, rfl, hText⟩ := h
  exact ⟨frame :: path, s, Layout.inside frame rest, rfl, hText⟩

theorem clause (keyword : String) (body : Layout) : (Layout.clause keyword body).Opening := by
  refine (text fun h => ?_).append body
  exact absurd (String.append_eq_empty_iff.mp h).2 (by decide)

theorem parenthesized (body : Layout) : (Layout.parenthesized body).Opening :=
  ((text (by decide)).append body).append _

/-- A clause of a list opens with its keyword, if it is there at all. -/
theorem listClause (keyword : String) (items : List Layout) :
    ∀ l ∈ Layout.listClause keyword items, l.Opening := by
  unfold Layout.listClause
  split
  · exact fun l hl => absurd hl List.not_mem_nil
  · exact List.forall_mem_singleton.mpr (clause _ _)

theorem conditionClause (keyword : String) (predicates : List Layout) :
    ∀ l ∈ Layout.conditionClause keyword predicates, l.Opening := by
  unfold Layout.conditionClause
  split
  · exact fun l hl => absurd hl List.not_mem_nil
  · exact List.forall_mem_singleton.mpr (clause _ _)

theorem countClause (keyword : String) (count : Option Nat) :
    ∀ l ∈ Layout.countClause keyword count, l.Opening := by
  cases count with
  | none => exact fun l hl => absurd hl List.not_mem_nil
  | some count => exact List.forall_mem_singleton.mpr (clause _ _)

/-- The SELECT clause opens with its keyword, with items or without. -/
theorem selectClause (items : List Layout) : (Layout.selectClause items).Opening := by
  unfold Layout.selectClause
  split
  · exact text (by decide)
  · exact clause _ _

/-- Clauses open with what the first of them opens with. -/
theorem spaced (h : l.Opening) (ls : List Layout) : (Layout.spaced (l :: ls)).Opening := by
  cases ls with
  | nil =>
    rw [Layout.spaced, List.intercalate_singleton]
    exact h
  | cons next ls =>
    rw [Layout.spaced, List.intercalate_cons_cons]
    exact (h.append _).append _

end Layout.Opening

/-- No clause of a query is without text. -/
theorem Select.opening_clauses (auto infer : Bool) (query : Select) :
    ∀ l ∈ query.clauses auto infer, l.Opening := by
  simp only [Select.clauses, List.forall_mem_append, List.forall_mem_singleton]
  refine ⟨⟨⟨⟨⟨⟨⟨.selectClause _, ?_⟩, ?_⟩, ?_⟩, ?_⟩, ?_⟩, ?_⟩, ?_⟩
  · exact .listClause "FROM" _
  · exact .conditionClause "WHERE" _
  · exact .listClause "GROUP BY" _
  · exact .conditionClause "HAVING" _
  · exact .listClause "ORDER BY" _
  · exact .countClause "LIMIT" _
  · exact .countClause "OFFSET" _

namespace Insert

/-- No clause before the rows is without text. -/
theorem opening_head (auto : Bool) (insert : Insert) : ∀ l ∈ insert.head auto, l.Opening := by
  rw [head, List.forall_mem_append, List.forall_mem_singleton]
  refine ⟨.clause _ _, ?_⟩
  unfold columnsClause
  split
  · exact fun l hl => absurd hl List.not_mem_nil
  · exact List.forall_mem_singleton.mpr (.parenthesized _)

/-- Rows are never without text. -/
theorem opening_rowsLayout (auto : Bool) (rows : Rows) : (rowsLayout auto rows).Opening := by
  cases rows with
  | values rows => exact .clause _ _
  | query query =>
    rw [rowsLayout, Select.layout_eq, Select.clauses]
    exact ((Layout.Opening.selectClause _).spaced _).inside _
  | defaults => exact .text (by decide)

/-- No clause about a conflict is without text. -/
theorem opening_conflictClauses (auto : Bool) (conflict : Option Conflict) :
    ∀ l ∈ conflictClauses auto conflict, l.Opening := by
  cases conflict with
  | none => exact fun l hl => absurd hl List.not_mem_nil
  | some conflict =>
    have hTargets : ∀ l ∈ targetsClause auto conflict.targets, l.Opening := by
      unfold targetsClause
      split
      · exact fun l hl => absurd hl List.not_mem_nil
      · exact List.forall_mem_singleton.mpr (.parenthesized _)
    have hAction : ∀ l ∈ actionClauses auto conflict.action, l.Opening := by
      cases conflict.action with
      | nothing => exact List.forall_mem_singleton.mpr (.text (by decide))
      | update upsert =>
        simp only [actionClauses, List.forall_mem_append, List.forall_mem_singleton]
        exact ⟨⟨.text (by decide), .listClause "SET" _⟩, .conditionClause "WHERE" _⟩
    simp only [conflictClauses, List.forall_mem_append, List.forall_mem_singleton]
    exact ⟨⟨.text (by decide), hTargets⟩, hAction⟩

/-- No clause of an INSERT is without text. -/
theorem opening_clauses (auto : Bool) (insert : Insert) :
    ∀ l ∈ insert.clauses auto, l.Opening := by
  unfold clauses
  split
  · exact fun l hl => absurd hl List.not_mem_nil
  · exact insert.opening_head auto
  · simp only [List.forall_mem_append, List.forall_mem_singleton]
    exact ⟨⟨⟨insert.opening_head auto, opening_rowsLayout auto _⟩,
      opening_conflictClauses auto _⟩, .listClause "RETURNING" _⟩

end Insert

/-- No clause of a statement is empty. -/
theorem Statement.opening_clauses (auto : Bool) (statement : Statement) :
    ∀ l ∈ statement.clauses auto, l.Opening := by
  cases statement with
  | select query => exact query.opening_clauses auto auto
  | insert insert => exact insert.opening_clauses auto
  | update update =>
    rw [Statement.clauses]
    split
    · exact fun l hl => absurd hl List.not_mem_nil
    · simp only [Update.clauses, List.forall_mem_append, List.forall_mem_singleton]
      exact ⟨⟨⟨⟨.clause _ _, .listClause "SET" _⟩, .listClause "FROM" _⟩,
        .conditionClause "WHERE" _⟩, .listClause "RETURNING" _⟩
  | delete delete =>
    simp only [Statement.clauses, Delete.clauses, List.forall_mem_append,
      List.forall_mem_singleton]
    exact ⟨⟨⟨.clause _ _, .listClause "USING" _⟩, .conditionClause "WHERE" _⟩,
      .listClause "RETURNING" _⟩

/-- A statement that can be written has a clause. -/
theorem Statement.clauses_ne_nil {statement : Statement} (h : statement.fault = none)
    (auto : Bool) : statement.clauses auto ≠ [] := by
  cases statement with
  | select query => simp [Statement.clauses, Select.clauses]
  | insert insert =>
    show insert.clauses auto ≠ []
    obtain ⟨hMisuse, hSome⟩ := insert.fault_eq_none_iff.mp h
    obtain ⟨rows, hRows⟩ := Option.isSome_iff_exists.mp hSome
    rw [Insert.clauses, hMisuse, hRows]
    simp [Insert.head]
  | update update =>
    have hSome : ¬ update.assignments.isEmpty = true := by
      intro hEmpty
      rw [Statement.fault, if_pos hEmpty] at h
      cases h
    rw [Statement.clauses, if_neg hSome]
    simp [Update.clauses]
  | delete delete => simp [Statement.clauses, Delete.clauses]

-- ---------------------------------------------------------------------------
-- Rendering by reference
-- ---------------------------------------------------------------------------

/-- The spaces between clauses take no slots. -/
theorem Layout.tags_closed (clauses : List Layout) :
    (closed clauses).tags = (spaced clauses).tags := by
  by_cases hEmpty : clauses = []
  · rw [hEmpty]
    rfl
  · rw [closed_eq_spaced hEmpty, tags_append]
    exact List.append_nil _

/-- A pass drops the space behind the last clause. -/
theorem Layout.rendering_closed {clauses : List Layout} (h : clauses ≠ [])
    (style : PlaceholderStyle) :
    (closed clauses).rendering style =
      ⟨spellAll style ((spaced clauses).fragments []),
        (spaced clauses).tags.foldl Slots.grow [], style⟩ := by
  have hText : spellAll style ((closed clauses).fragments []) =
      spellAll style ((spaced clauses).fragments []) ++ " " := by
    rw [closed_eq_spaced h, fragments_append, spellAll_append]
    rfl
  rw [rendering, hText, dropFinalSpace_append_space, tags_closed]

/-- What each part of a statement is written as, in a pass that infers FROM lists or not. -/
structure Compositional (auto : Bool) : Prop where
  /-- An expression sees the naming at its place, and nothing else of what is around it. -/
  expr : ∀ (e : Expr) (naming : Naming) (infer : Bool),
    e.write.Writes ⟨naming, infer, auto⟩ (e.layout auto naming)
  /-- A query sees whether it is to complete its FROM list. -/
  query : ∀ (q : Select) (naming : Naming) (infer : Bool),
    q.write.Writes ⟨naming, infer, auto⟩ (Layout.spaced (q.clauses auto infer) ++ Layout.gap)
  /-- A sub-query expression leaves its list as it is. -/
  subquery : ∀ (op : SubqueryOp) (q : Select) (naming : Naming),
    (Expr.subquery op q).layout auto naming =
      Layout.subquery op q (Layout.spaced (q.clauses auto false))
  /-- A derived table completes it as the whole pass does, wherever the table stands. -/
  derived : ∀ (q : Select) (name : String),
    (Relation.derived q name).layout auto =
      Layout.derived q (Layout.spaced (q.clauses auto auto)) name
  /-- So do the rows of an INSERT. -/
  rows : ∀ q : Select, Insert.rowsLayout auto (.query q) =
    Layout.inside (.query q) (Layout.spaced (q.clauses auto auto))

/-- The parts of a statement are laid out as the reference puts them together. -/
theorem compositional (auto : Bool) : Compositional auto where
  expr e naming infer := (writeCases auto).expr e naming infer
  query q naming infer := by
    rw [← Select.layout_eq]
    exact (writeCases auto).select q naming infer
  subquery op q naming := by rw [← Select.layout_eq, Expr.layout]
  derived q name := by rw [← Select.layout_eq, Relation.layout]
  rows q := by rw [← Select.layout_eq, Insert.rowsLayout]

/-- Rendering a statement is putting its clauses together, which are worked out part by part,
with one space between each two of them, and then numbering the arguments. -/
theorem Statement.render_eq_reference (statement : Statement) (options : Options) :
    statement.render options = statement.reference options ∧
      (∀ clause ∈ statement.clauses options.inferring, ∀ style slots,
        clause.spelling style slots ≠ "") ∧
      Compositional options.inferring := by
  refine ⟨?_, fun clause hClause => (statement.opening_clauses _ clause hClause).spelling_ne,
    compositional _⟩
  have hAlike := statement.alike_clauses options.inferring
  have hTags : (statement.layout options.inferring).tags =
      (statement.pieces options.inferring).tags :=
    hAlike.tags.trans (Layout.tags_closed _)
  rw [render_eq_outcome, Layout.outcome.eq_def, reference, hTags]
  congr 1
  cases hFault : statement.fault with
  | some cause => rfl
  | none =>
    have hClauses := clauses_ne_nil hFault options.inferring
    exact congrArg Except.ok
      (hAlike.rendering_eq.trans (Layout.rendering_closed hClauses options.placeholder))

/-- A derived table completes its FROM list inside a sub-query expression that does not. -/
theorem Statement.render_eq_reference_nested :
    let inner : Select := { items := [.column (.table none "u") "k", .argument "a"] }
    let outer : Select :=
      { items := [.column (.table none "v") "k"], tables := [.relation (.derived inner "d")] }
    let statement : Statement :=
      .select { items := [.argument "a"], filters := [.subquery .exists outer] }
    statement.render ⟨.positional, true⟩ = .ok
        ⟨"SELECT $1 FROM \"v\" WHERE EXISTS (SELECT \"v\".\"k\" " ++
            "FROM (SELECT \"u\".\"k\", $1 FROM \"u\") \"d\")",
          ["a"], .positional⟩ ∧
      ∃ clause ∈ statement.clauses true, clause.spelling .positional [] ≠ "" := by
  intro inner outer statement
  obtain ⟨hRender, hOpening, -⟩ := render_eq_reference statement ⟨.positional, true⟩
  refine ⟨hRender.trans (by decide +kernel), _, List.mem_cons_self .., ?_⟩
  exact hOpening _ (List.mem_cons_self ..) .positional []

end QueryText

import QueryText.Proofs.Layout.Writes

/-!
# QueryText — phrases write their layouts

Every phrase of the writer writes the phrase of the same name on layouts, provided that its parts
write theirs at the places where the phrase puts them.

## Main results

* `Writer.writes_tuple`, ..., `Writer.writes_join` — the forms of expressions and joins.
* `Writer.writes_listClause`, ..., `Writer.writes_tableClause` — clauses, each with the space
  that ends it.
-/

namespace QueryText

namespace Layout

theorem closed_append (clauses others : List Layout) :
    closed (clauses ++ others) = closed clauses ++ closed others :=
  List.flatMap_append

theorem closed_singleton (clause : Layout) : closed [clause] = clause ++ gap := by
  simp [closed]

/-- The spaces between clauses and the one after the last. -/
theorem closed_eq_spaced {clauses : List Layout} (h : clauses ≠ []) :
    closed clauses = spaced clauses ++ gap := by
  induction clauses with
  | nil => exact absurd rfl h
  | cons clause clauses ih =>
    cases clauses with
    | nil => rw [closed_singleton, spaced, List.intercalate_singleton]
    | cons next rest =>
      have hRest := ih (List.cons_ne_nil next rest)
      rw [spaced] at hRest
      rw [spaced, List.intercalate_cons_cons, List.append_assoc, ← hRest,
        ← closed_singleton clause, ← closed_append]
      rfl

end Layout

namespace Writer

variable {w v : Writer} {l m : Layout} {ws vs : List Writer} {ls ms : List Layout}
variable {place : Place}

-- ---------------------------------------------------------------------------
-- Lists of writers
-- ---------------------------------------------------------------------------

/-- Writers and layouts that are made from the same values match if they do for each value. -/
theorem writesAll_map {α : Type} {f : α → Writer} {g : α → Layout} {xs : List α}
    (h : ∀ x ∈ xs, (f x).Writes place (g x)) : WritesAll (xs.map f) place (xs.map g) := by
  rw [WritesAll, List.forall₂_map_left_iff, List.forall₂_map_right_iff, List.forall₂_same]
  exact h

/-- Two lists of writers in a row write two lists of layouts in a row. -/
theorem WritesAll.append (h : WritesAll ws place ls) (h' : WritesAll vs place ms) :
    WritesAll (ws ++ vs) place (ls ++ ms) :=
  List.rel_append h h'

/-- There are writers exactly if there are layouts to write. -/
theorem WritesAll.isEmpty_eq (h : WritesAll ws place ls) : ws.isEmpty = ls.isEmpty := by
  cases h <;> rfl

/-- The parts of an expression are written with the naming of parts. -/
theorem WritesAll.parts (h : WritesAll ws { place with naming := place.naming.inner } ls) :
    WritesAll (ws.map part) place ls := by
  rw [WritesAll, List.forall₂_map_left_iff]
  exact h.imp fun _ _ hw => hw.part

/-- Writers with a text between them write their layouts with that text between them. -/
theorem writes_separated {separator : String} (h : WritesAll ws place ls) :
    (separated separator ws).Writes place (Layout.separated separator ls) := by
  induction h with
  | nil => exact writes_nothing
  | cons hFirst hRest ih =>
    cases hRest with
    | nil => exact hFirst.congr List.intercalate_singleton.symm
    | cons hNext hMore =>
      have hSeq := hFirst.seq ((writes_text separator).seq ih)
      rw [← List.append_assoc] at hSeq
      exact hSeq.congr List.intercalate_cons_cons.symm

/-- A writer between parentheses writes its layout between them. -/
theorem writes_parenthesized (h : w.Writes place l) :
    (parenthesized w).Writes place (Layout.parenthesized l) := by
  have hSeq := (writes_text "(").seq (h.seq (writes_text ")"))
  exact hSeq.congr (by simp [Layout.parenthesized])

-- ---------------------------------------------------------------------------
-- Expressions
-- ---------------------------------------------------------------------------

/-- A column is laid out by the naming of its place: under bare naming, without its relation. -/
theorem writes_column (relation column : String) :
    (Writer.column relation column).Writes place
      (Layout.column place.naming relation column) := by
  apply writes_of_get
  intro ctx hPlace
  have hNaming : ctx.naming = place.naming := congrArg Place.naming hPlace
  rw [hNaming, Layout.column]
  by_cases hBare : place.naming = .bare
  · rw [if_pos hBare, if_pos hBare]
    exact writes_name column
  · rw [if_neg hBare, if_neg hBare, List.append_assoc]
    exact (writes_qualifier relation).seq ((writes_text ".").seq (writes_name column))

/-- All columns of a relation are laid out by the naming of the place as well. -/
theorem writes_allOf (relation : String) :
    (allOf relation).Writes place (Layout.allOf place.naming relation) := by
  apply writes_of_get
  intro ctx hPlace
  have hNaming : ctx.naming = place.naming := congrArg Place.naming hPlace
  rw [hNaming, Layout.allOf]
  by_cases hBare : place.naming = .bare
  · rw [if_pos hBare, if_pos hBare]
    exact writes_text "*"
  · rw [if_neg hBare, if_neg hBare]
    exact (writes_qualifier relation).seq (writes_text ".*")

/-- Where aliases are declared, the expression stands before its name, in reference naming. -/
theorem writes_named {given : String}
    (h : w.Writes { place with naming := .reference } l) :
    (named w given).Writes place (Layout.named place.naming l given) := by
  apply writes_of_get
  intro ctx hPlace
  have hNaming : ctx.naming = place.naming := congrArg Place.naming hPlace
  rw [hNaming, Layout.named]
  by_cases hDeclared : place.naming = .declaration
  · rw [if_pos hDeclared]
    have hSeq := h.within.seq ((writes_text " ").seq (writes_name given))
    rw [if_pos hDeclared]
    exact hSeq.congr (List.append_assoc ..).symm
  · rw [if_neg hDeclared, if_neg hDeclared]
    exact writes_name given

/-- The items of a tuple are parts of it. -/
theorem writes_tuple (h : WritesAll ws { place with naming := place.naming.inner } ls) :
    (tuple ws).Writes place (Layout.tuple ls) :=
  writes_parenthesized (writes_separated h.parts)

/-- The operands of a function are written like a tuple. -/
theorem writes_call {function : String}
    (h : WritesAll ws { place with naming := place.naming.inner } ls) :
    (call function ws).Writes place (Layout.call function ls) :=
  (writes_text function).seq (writes_tuple h)

/-- Parentheses around an operand do not change the place where it is written. -/
theorem writes_operand {compound : Bool}
    (h : w.Writes { place with naming := place.naming.inner } l) :
    (operand compound w).Writes place (Layout.operand compound l) := by
  cases compound with
  | true => exact writes_parenthesized h.part
  | false => exact h.part

/-- A text that is written under a condition only. -/
theorem writes_textIf (condition : Bool) (s : String) (h : w.Writes place l) :
    Writes
      (do
        if condition then text s
        w)
      place ((if condition then Layout.text s else []) ++ l) := by
  cases condition with
  | true => exact (writes_text s).seq h
  | false => exact h

/-- The operator and its space stand on the same side in the layout. -/
theorem writes_unary {op : UnaryOp} {touching : Bool} (h : w.Writes place l) :
    (unary op touching w).Writes place (Layout.unary op touching l) := by
  rw [unary, Layout.unary]
  cases op.fixity with
  | before =>
    have hSeq := (writes_text op.token).seq (writes_textIf (op.spaced || touching) " " h)
    exact hSeq.congr (List.append_assoc ..).symm
  | after =>
    have hSeq := h.seq (writes_textIf op.spaced " " (writes_text op.token))
    exact hSeq.congr (List.append_assoc ..).symm

/-- A binary operator stands between the layouts of its sides. -/
theorem writes_binary {op : BinaryOp} (h : w.Writes place l) (h' : v.Writes place m) :
    (binary op w v).Writes place (Layout.binary op l m) :=
  (h.seq ((writes_text _).seq h')).congr (List.append_assoc ..).symm

/-- The operands of a connective are parts, each between parentheses. -/
theorem writes_connected {op : LogicalOp}
    (h : WritesAll ws { place with naming := place.naming.inner } ls) :
    (connected op ws).Writes place (Layout.connected op ls) := by
  apply writes_separated
  rw [WritesAll, List.forall₂_map_left_iff, List.forall₂_map_right_iff]
  exact h.imp fun _ _ hw => writes_parenthesized hw.part

/-- What fills a hole is laid out there; holes and operands that are left over agree as well. -/
theorem writes_filled (h : WritesAll ws place ls) (first : List Char)
    (rest : List (List Char)) :
    (filled first rest ws).Writes place (Layout.filled first rest ls) := by
  induction rest generalizing first ws ls with
  | nil => exact writes_text _
  | cons piece pieces ih =>
    cases h with
    | nil =>
      have hSeq := (writes_text (String.ofList first)).seq
        ((writes_text "?").seq (ih .nil piece))
      exact hSeq.congr (List.append_assoc ..).symm
    | cons hFirst hRest =>
      have hSeq := (writes_text (String.ofList first)).seq (hFirst.seq (ih hRest piece))
      exact hSeq.congr (List.append_assoc ..).symm

/-- The operands of raw SQL are parts that fill its holes. -/
theorem writes_raw {sql : String}
    (h : WritesAll ws { place with naming := place.naming.inner } ls) :
    (raw sql ws).Writes place (Layout.raw sql ls) :=
  writes_filled h.parts _ _

-- ---------------------------------------------------------------------------
-- Queries inside queries, and joins
-- ---------------------------------------------------------------------------

theorem writes_inside {frame : Frame} (h : w.Writes place l) :
    w.Writes place (Layout.inside frame l) := fun ctx hPlace => by
  rw [Layout.play_inside]
  exact h ctx hPlace

/-- A sub-query is laid out as a query that infers nothing, up to its final space. -/
theorem writes_subquery {op : SubqueryOp} {query : Select}
    (h : w.Writes { place with inferring := false } (l ++ Layout.gap)) :
    (subquery op w).Writes place (Layout.subquery op query l) := by
  have hClosed : (inferring false w).Writes place
      (Layout.inside (.subquery query) l ++ Layout.gap) := by
    intro ctx hPlace
    rw [Layout.play_append, Layout.play_inside, ← Layout.play_append]
    exact h.inferring ctx hPlace
  have hSeq := (writes_text (op.token ++ " (")).seq (hClosed.seq_dropGap (writes_text ")"))
  exact hSeq.congr (List.append_assoc ..).symm

/-- A derived table is laid out as a query that infers as the pass does, up to its final space. -/
theorem writes_derived {query : Select} {given : String}
    (h : w.Writes { place with inferring := place.auto } (l ++ Layout.gap)) :
    (derived w given).Writes place (Layout.derived query l given) := by
  have hClosed : (inferringAsAtStart w).Writes place
      (Layout.inside (.query query) l ++ Layout.gap) := by
    intro ctx hPlace
    rw [Layout.play_append, Layout.play_inside, ← Layout.play_append]
    exact h.inferringAsAtStart ctx hPlace
  have hSeq := (writes_text "(").seq (hClosed.seq_dropGap
    ((writes_text ") ").seq (writes_declaration given)))
  exact hSeq.congr (by simp [Layout.derived])

/-- A join is laid out from its sides and its predicate, with parentheses for a join on the right.
-/
theorem writes_join {kind : JoinKind} {grouped : Bool} {p : Writer} {predicate : Option Layout}
    (h : w.Writes place l) (h' : v.Writes place m)
    (hOn : p.Writes place (Layout.onPredicate predicate)) :
    (join kind w grouped v p).Writes place (Layout.join kind l grouped m predicate) := by
  have hRight : Writes (if grouped then parenthesized v else v) place
      (Layout.operand grouped m) := by
    cases grouped with
    | true => exact writes_parenthesized h'
    | false => exact h'
  have hSeq := h.seq ((writes_text (" " ++ kind.keyword ++ " ")).seq (hRight.seq hOn))
  rw [← List.append_assoc, ← List.append_assoc] at hSeq
  rw [join, Layout.join]
  cases grouped with
  | true => exact hSeq
  | false => exact hSeq

-- ---------------------------------------------------------------------------
-- Clauses
-- ---------------------------------------------------------------------------

/-- A clause writes its keyword, its body and the space that closes it. -/
theorem writes_clause {keyword : String} (h : w.Writes place l) :
    (clause keyword w).Writes place (Layout.closed [Layout.clause keyword l]) := by
  have hSeq := (writes_text (keyword ++ " ")).seq (h.seq (writes_gap))
  rw [Layout.closed_singleton]
  exact hSeq.congr (List.append_assoc ..).symm

theorem writes_keywordClause (keyword : String) :
    (keywordClause keyword).Writes place (Layout.closed [Layout.text keyword]) := by
  rw [Layout.closed_singleton]
  exact (writes_text keyword).seq writes_gap

/-- A list without items is no clause, neither for the writer nor for the layout. -/
theorem writes_listClause {keyword : String} (h : WritesAll ws place ls) :
    (listClause keyword ws).Writes place (Layout.closed (Layout.listClause keyword ls)) := by
  rw [listClause, Layout.listClause, h.isEmpty_eq]
  by_cases hEmpty : ls.isEmpty = true
  · rw [if_pos hEmpty, if_pos hEmpty]
    exact writes_nothing
  · rw [if_neg hEmpty, if_neg hEmpty]
    exact writes_clause (writes_separated h)

/-- A single predicate is no part, so it is written as a part would be only where parts are written
like the whole. -/
theorem writes_condition (h : WritesAll ws { place with naming := place.naming.inner } ls)
    (hSame : place.naming.inner = place.naming) :
    (condition ws).Writes place (Layout.condition ls) := by
  have hAll : (connected .and ws).Writes place (Layout.connected .and ls) := writes_connected h
  cases h with
  | nil => exact hAll
  | cons hFirst hRest =>
    cases hRest with
    | nil =>
      rw [hSame] at hFirst
      exact hFirst
    | cons hNext hMore => exact hAll

/-- A clause of predicates is laid out as one condition, if there are any. -/
theorem writes_conditionClause {keyword : String}
    (h : WritesAll ws { place with naming := place.naming.inner } ls)
    (hSame : place.naming.inner = place.naming) :
    (conditionClause keyword ws).Writes place
      (Layout.closed (Layout.conditionClause keyword ls)) := by
  rw [conditionClause, Layout.conditionClause, h.isEmpty_eq]
  by_cases hEmpty : ls.isEmpty = true
  · rw [if_pos hEmpty, if_pos hEmpty]
    exact writes_nothing
  · rw [if_neg hEmpty, if_neg hEmpty]
    exact writes_clause (writes_condition h hSame)

/-- Items are laid out in declaration naming. -/
theorem writes_itemClause {keyword : String}
    (h : WritesAll ws { place with naming := .declaration } ls) :
    (itemClause keyword ws).Writes place (Layout.closed (Layout.listClause keyword ls)) := by
  rw [itemClause, Layout.listClause, h.isEmpty_eq]
  by_cases hEmpty : ls.isEmpty = true
  · rw [if_pos hEmpty, if_pos hEmpty]
    exact writes_nothing
  · rw [if_neg hEmpty, if_neg hEmpty]
    exact writes_clause (writes_separated h).within

/-- The SELECT clause is laid out even without items. -/
theorem writes_selectClause (h : WritesAll ws { place with naming := .declaration } ls) :
    (selectClause ws).Writes place (Layout.closed [Layout.selectClause ls]) := by
  rw [selectClause, Layout.selectClause, h.isEmpty_eq]
  by_cases hEmpty : ls.isEmpty = true
  · rw [if_pos hEmpty, if_pos hEmpty]
    exact writes_keywordClause "SELECT"
  · have hItems : (itemClause "SELECT" ws).Writes place
        (Layout.closed (Layout.listClause "SELECT" ls)) := writes_itemClause h
    rw [Layout.listClause, if_neg hEmpty] at hItems
    rw [if_neg hEmpty, if_neg hEmpty]
    exact hItems

/-- A limit or an offset is laid out if it is set. -/
theorem writes_countClause (keyword : String) (count : Option Nat) :
    (countClause keyword count).Writes place
      (Layout.closed (Layout.countClause keyword count)) := by
  cases count with
  | none => exact writes_nothing
  | some count => exact writes_clause (writes_text (toString count))

/-- Recording an inferred table is a piece without text in front of its layout. -/
theorem writes_inferred {keyword : String} {relation : Relation}
    (h : w.Writes place l) :
    (inferred keyword ⟨relation, w⟩).Writes place (Layout.inferred keyword ⟨relation, l⟩) :=
  (writes_of (.inference ⟨relation.name, keyword⟩)).seq h

/-- The listed tables are laid out in front of the inferred ones. -/
theorem writes_tableClause {keyword : String} {relations : List Relation}
    {declare : Relation → Writer} {draft : Relation → Layout} (h : WritesAll ws place ls)
    (hMissing : ∀ r ∈ relations, (declare r).Writes place (draft r)) :
    (tableClause keyword ws (relations.map fun r => ⟨r, declare r⟩)).Writes place
      (Layout.closed (Layout.tableClause keyword ls (relations.map fun r => ⟨r, draft r⟩))) := by
  apply writes_listClause
  rw [List.map_map, List.map_map]
  exact h.append (writesAll_map fun r hr => writes_inferred (hMissing r hr))

end Writer

end QueryText

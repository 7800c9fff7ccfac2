import QueryText.Proofs.Layout.DerivedFree
import QueryText.Proofs.Outcome
import QueryText.Statement.Select

/-!
# QueryText — listing what would be inferred

A statement that lists the relations that it would infer is written as before, and infers nothing
any more. Without derived tables it does not even need the inference to be on: sub-query
expressions never infer, so nothing is left for which the setting counts.

What a pass yields depends on what its layout has written, in order. The notes about inferred
relations and the frames around the pieces do not count, and they are all that listing changes.

## Main results

* `Layout.outcome_congr` — layouts with the same script have the same outcome.
* `RelationSet.difference_completed` — a list completed once is complete.
* `explicit_tables_agree` — listing what is inferred changes no text, argument or error.
-/

namespace QueryText

-- ---------------------------------------------------------------------------
-- Scripts
-- ---------------------------------------------------------------------------

namespace Layout

/-- What a layout has written: its atoms, without the notes about inferred relations. -/
def script (l : Layout) : List Atom :=
  (l.map Piece.atom).filter fun atom => atom.note?.isNone

theorem script_append (l m : Layout) : (l ++ m).script = l.script ++ m.script := by
  rw [script, List.map_append, List.filter_append]
  rfl

theorem script_inside (frame : Frame) (l : Layout) : (inside frame l).script = l.script := by
  rw [script, inside, List.map_map]
  rfl

theorem script_intercalate (separator : Layout) (ls : List Layout) :
    script (List.intercalate separator ls) =
      List.intercalate separator.script (ls.map script) := by
  induction ls with
  | nil => rfl
  | cons first rest ih =>
    cases rest with
    | nil => simp only [List.map_cons, List.map_nil, List.intercalate_singleton]
    | cons next rest =>
      rw [List.intercalate_cons_cons, script_append, script_append, ih]
      simp only [List.map_cons, List.intercalate_cons_cons]

/-- Clauses are written with a space behind each of them. -/
theorem script_closed (ls : List Layout) :
    (closed ls).script = (ls.map script).flatMap (· ++ gap.script) := by
  induction ls with
  | nil => rfl
  | cons first rest ih =>
    have hSplit : closed (first :: rest) = first ++ gap ++ closed rest := rfl
    rw [hSplit, script_append, script_append, ih]
    rfl

/-- The script of a list clause depends on the scripts of its items. -/
theorem map_script_listClause (keyword : String) {ls ms : List Layout}
    (h : ls.map script = ms.map script) :
    (listClause keyword ls).map script = (listClause keyword ms).map script := by
  have hEmpty : ls.isEmpty = ms.isEmpty := by
    rw [← List.isEmpty_map (f := script), h, List.isEmpty_map]
  unfold listClause
  rw [hEmpty]
  split
  · rfl
  · simp only [List.map_cons, List.map_nil, clause, separated, script_append,
      script_intercalate, h]

/-- An inferred entry is written as a listed one. -/
theorem map_script_tableClause (keyword : String) (listed : List Layout)
    (missing : List (Entry Layout)) :
    (tableClause keyword (listed ++ missing.map Entry.declare) []).map script =
      (tableClause keyword listed missing).map script := by
  apply map_script_listClause
  have hEntry : script ∘ inferred keyword = script ∘ Entry.declare := by
    funext entry
    exact script_append _ entry.declare
  rw [List.map_nil, List.append_nil, List.map_append, List.map_append, List.map_map,
    List.map_map, hEntry]

-- ---------------------------------------------------------------------------
-- What a pass yields
-- ---------------------------------------------------------------------------

/-- The arguments of a layout are among what is written. -/
theorem tags_eq_script (l : Layout) : l.tags = l.script.filterMap Atom.tag? := by
  induction l with
  | nil => rfl
  | cons piece l ih =>
    obtain ⟨path, atom⟩ := piece
    rw [tags_cons, ih]
    cases atom <;> rfl

/-- Numbering placeholders does not see notes and frames. -/
theorem fragments_eq_script (slots : List String) (l : Layout) :
    l.fragments slots = fragments slots (l.script.map fun atom => ⟨[], atom⟩) := by
  induction l generalizing slots with
  | nil => rfl
  | cons piece l ih =>
    obtain ⟨path, atom⟩ := piece
    rw [fragments, ih]
    cases atom <;> rfl

/-- Layouts with the same script have the same outcome. -/
theorem outcome_congr {l m : Layout} (h : l.script = m.script) (fault : Option Misuse)
    (style : PlaceholderStyle) : l.outcome fault style = m.outcome fault style := by
  have hTags : l.tags = m.tags := by rw [tags_eq_script, tags_eq_script, h]
  have hFragments : l.fragments [] = m.fragments [] := by
    rw [fragments_eq_script, fragments_eq_script [] m, h]
  simp only [outcome, rendering, hTags, hFragments]

end Layout

-- ---------------------------------------------------------------------------
-- A completed list is complete
-- ---------------------------------------------------------------------------

/-- A list of tables that was completed leaves nothing over. -/
theorem RelationSet.difference_completed (mentioned declared : List Relation) :
    (ofList mentioned).difference
      (ofList (declared ++ (ofList mentioned).difference (ofList declared))) = [] := by
  refine List.filter_eq_nil_iff.mpr fun r hr => ?_
  have hMentioned : r ∈ mentioned ∧ r.isPseudo = false :=
    (mem_insertAll hr).resolve_left List.not_mem_nil
  have hListed : (ofList (declared ++ (ofList mentioned).difference (ofList declared))).contains
      r.name = true := by
    rw [contains_ofList]
    rcases mention_cases declared hMentioned.1 with hPseudo | ⟨d, hd, hNot, hName⟩ | ⟨m, hm, hName⟩
    · rw [hMentioned.2] at hPseudo
      cases hPseudo
    · exact ⟨d, List.mem_append_left _ hd, hNot, hName⟩
    · exact ⟨m, List.mem_append_right _ hm, (mem_difference hm).2, hName⟩
  simp [hListed]

/-- Listing relations declares them after what was declared before. -/
theorem FromItem.flatMap_declares_append (tables : List FromItem) (relations : List Relation) :
    (tables ++ relations.map FromItem.relation).flatMap FromItem.declares =
      tables.flatMap FromItem.declares ++ relations := by
  rw [List.flatMap_append, List.flatMap_map]
  congr 1
  exact List.flatMap_singleton' relations

/-- Tables that were completed by listing what is left over leave nothing over. The names in
`targets` are declared as well. -/
theorem RelationSet.difference_listed (mentioned targets : List Relation)
    (tables : List FromItem) :
    (ofList mentioned).difference (ofList (targets ++
      (tables ++ ((ofList mentioned).difference
          (ofList (targets ++ tables.flatMap FromItem.declares))).map FromItem.relation).flatMap
        FromItem.declares)) = [] := by
  rw [FromItem.flatMap_declares_append, ← List.append_assoc]
  exact difference_completed mentioned (targets ++ tables.flatMap FromItem.declares)

/-- Relations that are listed are laid out as inferred ones, but for the note. -/
theorem FromItem.map_layout_relation (auto : Bool) (relations : List Relation) :
    (relations.map FromItem.relation).map (·.layout auto) =
      (relations.map (Relation.draft auto)).map Entry.declare := by
  rw [List.map_map, List.map_map]
  rfl

-- ---------------------------------------------------------------------------
-- SELECT
-- ---------------------------------------------------------------------------

namespace Select

/-- The query that lists what it would infer. -/
def explicit (query : Select) : Select :=
  query.withTables (query.inferred.map FromItem.relation)

/-- A query that lists all its tables infers none. -/
theorem inferred_explicit (query : Select) : query.explicit.inferred = [] := by
  rw [query.explicit.inferred_eq, explicit, query.inferred_eq]
  exact RelationSet.difference_listed query.mentions [] query.tables

/-- The query that lists what it would infer is written as the one that infers. -/
theorem script_layout_explicit (query : Select) (auto infer : Bool) :
    (query.explicit.layout auto infer).script = (query.layout auto true).script := by
  have hCompletion : query.explicit.completion infer = [] := by
    rw [completion, inferred_explicit, ite_self]
  have hClauses :
      (query.explicit.clauses auto infer).map Layout.script =
        (query.clauses auto true).map Layout.script := by
    simp only [clauses, hCompletion, List.map_append]
    simp only [explicit, withTables, List.map_append, FromItem.map_layout_relation,
      List.map_nil, Layout.map_script_tableClause]
    rfl
  rw [layout_eq, layout_eq, Layout.spaced, Layout.spaced, Layout.script_intercalate,
    Layout.script_intercalate, hClauses]

end Select

-- ---------------------------------------------------------------------------
-- UPDATE and DELETE
-- ---------------------------------------------------------------------------

namespace Layout

/-- The clauses of an UPDATE or a DELETE: those it starts with, its list of tables, its predicates
and the items that it returns. -/
def changeClauses (auto : Bool) (head : List Layout) (keyword : String) (tables : List FromItem)
    (missing : List Relation) (filters returning : List Expr) : List Layout :=
  head ++
    tableClause keyword (tables.map (·.layout auto)) (missing.map (Relation.draft auto)) ++
    conditionClause "WHERE" (filters.map (·.layout auto .reference)) ++
    listClause "RETURNING" (returning.map (·.layout auto .declaration))

variable {auto : Bool} {head : List Layout} {keyword : String} {tables : List FromItem}
  {missing : List Relation} {filters returning : List Expr}

/-- Clauses that list what is missing are written as those that infer it. -/
theorem map_script_changeClauses :
    (changeClauses auto head keyword (tables ++ missing.map FromItem.relation) []
        filters returning).map script =
      (changeClauses auto head keyword tables missing filters returning).map script := by
  simp only [changeClauses, List.map_append, FromItem.map_layout_relation, List.map_nil,
    map_script_tableClause]

/-- Clauses without derived tables are laid out alike in both kinds of pass. -/
theorem changeClauses_derivedFree {headTrue : List Layout} (hHead : head = headTrue)
    (hTables : FromItem.allDerivedFree tables = true)
    (hMissing : ∀ r ∈ missing, r.derivedFree = true)
    (hFilters : Expr.allDerivedFree filters = true)
    (hReturning : Expr.allDerivedFree returning = true) :
    changeClauses false head keyword tables missing filters returning =
      changeClauses true headTrue keyword tables missing filters returning := by
  rw [changeClauses, changeClauses, hHead, FromItem.map_layout_derivedFree hTables,
    Relation.map_draft_derivedFree hMissing, Expr.map_layout_derivedFree .reference hFilters,
    Expr.map_layout_derivedFree .declaration hReturning]

end Layout

namespace Update

/-- The statement that lists what it would infer. -/
def explicit (update : Update) : Update :=
  update.withTables (update.inferred.map FromItem.relation)

theorem inferred_explicit (update : Update) : update.explicit.inferred = [] :=
  RelationSet.difference_listed update.mentions [update.target] update.tables

/-- The clauses that the statement starts with. -/
def head (auto : Bool) (update : Update) : List Layout :=
  [Layout.clause "UPDATE" (update.target.layout auto)] ++
    Layout.listClause "SET" (update.assignments.layouts auto)

/-- The layout of the statement with what it would infer, whatever the pass does. -/
def completed (auto : Bool) (update : Update) : Layout :=
  if update.assignments.isEmpty then []
  else
    Layout.inside .change (Layout.closed (Layout.changeClauses auto (update.head auto) "FROM"
      update.tables update.inferred update.filters update.returning))

/-- With its tables listed, an UPDATE is written as if they were inferred. -/
theorem script_layout_explicit (update : Update) (auto : Bool) :
    (update.explicit.layout auto).script = (update.completed auto).script := by
  have hClauses : update.explicit.clauses auto = Layout.changeClauses auto (update.head auto)
      "FROM" (update.tables ++ update.inferred.map FromItem.relation) [] update.filters
      update.returning := by
    rw [clauses, completion, inferred_explicit, ite_self]
    rfl
  rw [layout, completed, hClauses, apply_ite Layout.script, apply_ite Layout.script,
    Layout.script_inside, Layout.script_inside, Layout.script_closed, Layout.script_closed,
    Layout.map_script_changeClauses]
  rfl

/-- Whether there is no derived table anywhere in an UPDATE. -/
def derivedFree (update : Update) : Bool :=
  update.target.derivedFree && Expr.allDerivedFree update.assignments.values &&
    FromItem.allDerivedFree update.tables && Expr.allDerivedFree update.filters &&
    Expr.allDerivedFree update.returning

/-- Without derived tables, a completed UPDATE is written alike in both kinds of pass. -/
theorem completed_derivedFree {update : Update} (h : update.derivedFree = true) :
    update.completed false = update.completed true := by
  simp only [derivedFree, Bool.and_eq_true] at h
  obtain ⟨⟨⟨⟨hTarget, hValues⟩, hTables⟩, hFilters⟩, hReturning⟩ := h
  have hMissing : ∀ r ∈ update.inferred, r.derivedFree = true :=
    derivedFree_hereditary.update_inferred (Expr.allDerivedFree_iff.mp hValues)
      (Expr.allDerivedFree_iff.mp hFilters) (Expr.allDerivedFree_iff.mp hReturning)
  have hHead : update.head false = update.head true := by
    have hEntry : update.assignments.layouts false = update.assignments.layouts true := by
      refine List.map_congr_left fun entry hEntry => ?_
      have hValue := Expr.allDerivedFree_iff.mp hValues entry.2 (List.mem_map_of_mem hEntry)
      rw [derivedFreeLayouts.expr entry.2 hValue]
    rw [head, head, hEntry, derivedFreeLayouts.relation update.target hTarget]
  rw [completed, completed,
    Layout.changeClauses_derivedFree hHead hTables hMissing hFilters hReturning]

end Update

namespace Delete

/-- The statement that lists what it would infer. -/
def explicit (delete : Delete) : Delete :=
  delete.withTables (delete.inferred.map FromItem.relation)

theorem inferred_explicit (delete : Delete) : delete.explicit.inferred = [] :=
  RelationSet.difference_listed delete.mentions [delete.target] delete.tables

/-- The clause that the statement starts with. -/
def head (auto : Bool) (delete : Delete) : List Layout :=
  [Layout.clause "DELETE FROM" (delete.target.layout auto)]

/-- The layout of the statement with what it would infer, whatever the pass does. -/
def completed (auto : Bool) (delete : Delete) : Layout :=
  Layout.inside .change (Layout.closed (Layout.changeClauses auto (delete.head auto) "USING"
    delete.tables delete.inferred delete.filters delete.returning))

/-- With its tables listed, a DELETE is written as if they were inferred. -/
theorem script_layout_explicit (delete : Delete) (auto : Bool) :
    (delete.explicit.layout auto).script = (delete.completed auto).script := by
  have hClauses : delete.explicit.clauses auto = Layout.changeClauses auto (delete.head auto)
      "USING" (delete.tables ++ delete.inferred.map FromItem.relation) [] delete.filters
      delete.returning := by
    rw [clauses, completion, inferred_explicit, ite_self]
    rfl
  rw [layout, completed, hClauses, Layout.script_inside, Layout.script_inside,
    Layout.script_closed, Layout.script_closed, Layout.map_script_changeClauses]

/-- Whether there is no derived table anywhere in a DELETE. -/
def derivedFree (delete : Delete) : Bool :=
  delete.target.derivedFree && FromItem.allDerivedFree delete.tables &&
    Expr.allDerivedFree delete.filters && Expr.allDerivedFree delete.returning

/-- Without derived tables, a completed DELETE is written alike in both kinds of pass. -/
theorem completed_derivedFree {delete : Delete} (h : delete.derivedFree = true) :
    delete.completed false = delete.completed true := by
  simp only [derivedFree, Bool.and_eq_true] at h
  obtain ⟨⟨⟨hTarget, hTables⟩, hFilters⟩, hReturning⟩ := h
  have hMissing : ∀ r ∈ delete.inferred, r.derivedFree = true :=
    derivedFree_hereditary.delete_inferred (Expr.allDerivedFree_iff.mp hFilters)
      (Expr.allDerivedFree_iff.mp hReturning)
  have hHead : delete.head false = delete.head true := by
    rw [head, head, derivedFreeLayouts.relation delete.target hTarget]
  rw [completed, completed,
    Layout.changeClauses_derivedFree hHead hTables hMissing hFilters hReturning]

end Delete

-- ---------------------------------------------------------------------------
-- Statements
-- ---------------------------------------------------------------------------

/-- A statement that lists its tables stands for one that infers them: in a pass that infers it
renders to the same, and so it does in a pass that does not, unless there are derived tables. -/
structure Statement.StandsFor (listed original : Statement) (derivedFree : Bool) : Prop where
  inferring : ∀ style, listed.render ⟨style, true⟩ = original.render ⟨style, true⟩
  alone : derivedFree = true →
    ∀ style, listed.render ⟨style, false⟩ = original.render ⟨style, true⟩

/-- A statement stands for another one if what it writes in each kind of pass is the layout of a
completed statement, which is what the other one writes. -/
theorem Statement.StandsFor.of_script {listed original : Statement} {derivedFree : Bool}
    (completed : Bool → Layout)
    (hListed : ∀ auto, (listed.layout auto).script = (completed auto).script)
    (hOriginal : original.layout true = completed true)
    (hFault : listed.fault = original.fault)
    (hFree : derivedFree = true → completed false = completed true) :
    listed.StandsFor original derivedFree := by
  constructor
  case inferring =>
    intro style
    rw [render_eq_outcome, render_eq_outcome, hFault, hOriginal]
    exact Layout.outcome_congr (hListed true) original.fault style
  case alone =>
    intro h style
    have hSame : (listed.layout false).script = (completed true).script := by
      rw [hListed false, hFree h]
    rw [render_eq_outcome, render_eq_outcome, hFault, hOriginal]
    exact Layout.outcome_congr hSame original.fault style

/-- A query that lists its tables stands for the one that infers them. -/
theorem Select.standsFor_explicit (query : Select) :
    (Statement.select query.explicit).StandsFor (.select query) query.derivedFree := by
  refine .of_script (fun auto =>
    Layout.inside (.query query) (query.layout auto true) ++ Layout.gap) ?_ rfl rfl ?_
  · intro auto
    rw [Statement.layout, Layout.script_append, Layout.script_append, Layout.script_inside,
      Layout.script_inside, query.script_layout_explicit]
  · intro h
    rw [derivedFreeLayouts.select query h true]

/-- An UPDATE that lists its tables stands for the one that infers them. -/
theorem Update.standsFor_explicit (update : Update) :
    (Statement.update update.explicit).StandsFor (.update update) update.derivedFree :=
  .of_script (fun auto => update.completed auto) update.script_layout_explicit rfl rfl
    completed_derivedFree

/-- A DELETE that lists its tables stands for the one that infers them. -/
theorem Delete.standsFor_explicit (delete : Delete) :
    (Statement.delete delete.explicit).StandsFor (.delete delete) delete.derivedFree :=
  .of_script (fun auto => delete.completed auto) delete.script_layout_explicit rfl rfl
    completed_derivedFree

/-- A statement that lists what it would infer infers nothing any more and renders to the same
text, arguments or error. If no derived table occurs in it, it does so even in a pass that does
not infer. -/
theorem explicit_tables_agree :
    (∀ query : Select, query.explicit.inferred = [] ∧
        (Statement.select query.explicit).StandsFor (.select query) query.derivedFree) ∧
      (∀ update : Update, update.explicit.inferred = [] ∧
        (Statement.update update.explicit).StandsFor (.update update) update.derivedFree) ∧
      (∀ delete : Delete, delete.explicit.inferred = [] ∧
        (Statement.delete delete.explicit).StandsFor (.delete delete) delete.derivedFree) := by
  refine ⟨fun query => ?_, fun update => ?_, fun delete => ?_⟩
  · exact ⟨query.inferred_explicit, query.standsFor_explicit⟩
  · exact ⟨update.inferred_explicit, update.standsFor_explicit⟩
  · exact ⟨delete.inferred_explicit, delete.standsFor_explicit⟩

/-- A relation that only a sub-query mentions, listed for a pass that does not infer. -/
theorem explicit_tables_agree_correlated :
    ∃ query : Select, query.derivedFree = true ∧ query.explicit.inferred = [] ∧
      (Statement.select query.explicit).render ⟨.positional, false⟩ =
        .ok ⟨"SELECT \"a\".\"id\" FROM \"a\", \"c\" WHERE EXISTS " ++
          "(SELECT FROM \"b\" WHERE \"b\".\"k\" = \"c\".\"k\")", [], .positional⟩ := by
  refine ⟨
    { items := [.column (.table none "a") "id"]
      filters := [.subquery .exists
        { tables := [.relation (.table none "b")]
          filters := [.binary .equal (.column (.table none "b") "k")
            (.column (.table none "c") "k")] }] }, rfl, ?_⟩
  obtain ⟨hInferred, hStandsFor⟩ := explicit_tables_agree.1 _
  refine ⟨hInferred, ?_⟩
  rw [hStandsFor.alone rfl .positional]
  rfl

end QueryText

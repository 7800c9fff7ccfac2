import QueryText.Proofs.Layout.Composition

/-!
# QueryText — the pieces of a layout

Which pieces a phrase has, and where a list of tables declares its relations.

## Main results

* `Layout.mem_inside`, `Layout.mem_anonymized`, `Layout.mem_tableClause` — the pieces of phrases.
* `Relation.declaration_mem_layout`, `FromItem.declaration_mem_layout` — relations declare
  themselves.
* `Select.mem_layout`, `Update.mem_layout`, `Delete.mem_layout` — what the tables of a statement
  write, the statement writes.
-/

namespace QueryText

-- ---------------------------------------------------------------------------
-- Pieces of a layout
-- ---------------------------------------------------------------------------

namespace Layout

/-- The pieces inside of a frame are those of the layout, one frame deeper. -/
theorem mem_inside {frame : Frame} {l : Layout} {path : List Frame} {atom : Atom} :
    ⟨path, atom⟩ ∈ inside frame l ↔ ∃ rest, path = frame :: rest ∧ ⟨rest, atom⟩ ∈ l := by
  unfold inside
  rw [List.mem_map]
  constructor
  · rintro ⟨⟨rest, inner⟩, hMem, hEq⟩
    obtain ⟨rfl, rfl⟩ := Piece.mk.inj hEq
    exact ⟨rest, rfl, hMem⟩
  · rintro ⟨rest, rfl, hMem⟩
    exact ⟨⟨rest, atom⟩, hMem, rfl⟩

/-- Below a frame, and for qualifiers everywhere, nothing changes. -/
theorem mem_anonymized {l : Layout} {path : List Frame} {atom : Atom}
    (h : path ≠ [] ∨ ∃ relation, atom = .qualifier relation) :
    ⟨path, atom⟩ ∈ l.anonymized ↔ ⟨path, atom⟩ ∈ l := by
  unfold anonymized
  rw [List.mem_map]
  constructor
  · rintro ⟨piece, hMem, hEq⟩
    split at hEq
    · obtain ⟨rfl, rfl⟩ := Piece.mk.inj hEq
      rcases h with hPath | ⟨relation, hAtom⟩
      · exact absurd rfl hPath
      · cases hAtom
    · rwa [hEq] at hMem
  · intro hMem
    refine ⟨⟨path, atom⟩, hMem, ?_⟩
    split
    · rename_i hEq
      obtain ⟨rfl, rfl⟩ := Piece.mk.inj hEq
      rcases h with hPath | ⟨relation, hAtom⟩
      · exact absurd rfl hPath
      · cases hAtom
    · rfl

/-- Every piece of a list of layouts is in the text that they make together. -/
theorem mem_intercalate {m : Layout} {ls : List Layout} {l : Layout} {piece : Piece}
    (hl : l ∈ ls) (hPiece : piece ∈ l) : piece ∈ m.intercalate ls := by
  induction ls with
  | nil => exact absurd hl List.not_mem_nil
  | cons first rest ih =>
    cases rest with
    | nil =>
      rw [List.intercalate_singleton, ← List.mem_singleton.mp hl]
      exact hPiece
    | cons next rest =>
      rw [List.intercalate_cons_cons]
      rcases List.mem_cons.mp hl with rfl | hRest
      · exact List.mem_append_left _ (List.mem_append_left _ hPiece)
      · exact List.mem_append_right _ (ih hRest)

theorem mem_closed {ls : List Layout} {l : Layout} {piece : Piece} (hl : l ∈ ls)
    (hPiece : piece ∈ l) : piece ∈ closed ls :=
  List.mem_flatMap.mpr ⟨l, hl, List.mem_append_left _ hPiece⟩

/-- Both sides of a join are in it. -/
theorem mem_join {kind : JoinKind} {left right : Layout} {grouped : Bool}
    {predicate : Option Layout} {piece : Piece} (h : piece ∈ left ∨ piece ∈ right) :
    piece ∈ join kind left grouped right predicate := by
  rcases h with hLeft | hRight
  · exact List.mem_append_left _ (List.mem_append_left _ (List.mem_append_left _ hLeft))
  · refine List.mem_append_left _ (List.mem_append_right _ ?_)
    unfold operand
    split
    · exact List.mem_append_left _ (List.mem_append_right _ hRight)
    · exact hRight

/-- What an entry of a list of tables writes is in the clause. -/
theorem mem_tableClause {keyword : String} {listed : List Layout}
    {missing : List (Entry Layout)} {piece : Piece}
    (h : (∃ l ∈ listed, piece ∈ l) ∨ ∃ entry ∈ missing, piece ∈ entry.declare) :
    ∃ clause ∈ tableClause keyword listed missing, piece ∈ clause := by
  have hItem : ∃ l ∈ listed ++ missing.map (inferred keyword), piece ∈ l := by
    rcases h with ⟨l, hl, hPiece⟩ | ⟨entry, hEntry, hPiece⟩
    · exact ⟨l, List.mem_append_left _ hl, hPiece⟩
    · refine ⟨inferred keyword entry, ?_, List.mem_append_right _ hPiece⟩
      exact List.mem_append_right _ (List.mem_map_of_mem hEntry)
  obtain ⟨l, hl, hPiece⟩ := hItem
  have hSome : ¬ (listed ++ missing.map (inferred keyword)).isEmpty = true := by
    rw [List.isEmpty_iff]
    exact List.ne_nil_of_mem hl
  unfold tableClause listClause
  rw [if_neg hSome]
  exact ⟨_, List.mem_singleton.mpr rfl, List.mem_append_right _ (mem_intercalate hl hPiece)⟩

end Layout

-- ---------------------------------------------------------------------------
-- Lists of tables
-- ---------------------------------------------------------------------------

section Declarations

variable {auto : Bool}

/-- A relation declares itself under its name. -/
theorem Relation.declaration_mem_layout {r : Relation} (h : r.isPseudo = false) :
    ⟨[], .declaration r.name⟩ ∈ r.layout auto := by
  have hLast : ∀ (l : Layout) (name : String),
      ⟨[], .declaration name⟩ ∈ l ++ Layout.declaration name :=
    fun l name => List.mem_append_right l (List.mem_singleton.mpr rfl)
  cases r with
  | table schema name =>
    cases schema with
    | none => exact hLast [] name
    | some schema => exact hLast _ name
  | aliased relation name => exact hLast _ name
  | derived query name => exact hLast _ name
  | excluded => cases h

/-- Every relation of an entry declares itself, at any depth of joins. -/
theorem FromItem.declaration_mem_layout {f : FromItem} {r : Relation} (hr : r ∈ f.declares)
    (h : r.isPseudo = false) : ⟨[], .declaration r.name⟩ ∈ f.layout auto := by
  match f with
  | .relation _ =>
    obtain rfl := List.mem_singleton.mp hr
    exact Relation.declaration_mem_layout h
  | .join kind left right predicate =>
    have hSides : ⟨[], .declaration r.name⟩ ∈ left.layout auto ∨
        ⟨[], .declaration r.name⟩ ∈ right.layout auto := by
      rcases List.mem_append.mp hr with hLeft | hRight
      · exact Or.inl (declaration_mem_layout hLeft h)
      · exact Or.inr (declaration_mem_layout hRight h)
    cases predicate with
    | none => exact Layout.mem_join hSides
    | some condition => exact Layout.mem_join hSides

/-- What the tables of a statement write, the statement writes. -/
theorem mem_tables (keyword : String) {tables : List FromItem} {missing : List Relation}
    {piece : Piece}
    (h : (∃ f ∈ tables, piece ∈ f.layout auto) ∨ ∃ r ∈ missing, piece ∈ r.layout auto) :
    ∃ clause ∈ Layout.tableClause keyword (tables.map (·.layout auto))
      (missing.map (Relation.draft auto)), piece ∈ clause := by
  apply Layout.mem_tableClause
  rcases h with ⟨f, hf, hPiece⟩ | ⟨r, hr, hPiece⟩
  · exact Or.inl ⟨_, List.mem_map_of_mem hf, hPiece⟩
  · exact Or.inr ⟨_, List.mem_map_of_mem hr, hPiece⟩

/-- What declares a listed table, or a relation that completes FROM, is in the layout of the query.
-/
theorem Select.mem_layout {query : Select} {infer : Bool} {piece : Piece}
    (h : (∃ f ∈ query.tables, piece ∈ f.layout auto) ∨
      ∃ r ∈ query.completion infer, piece ∈ r.layout auto) :
    piece ∈ query.layout auto infer := by
  obtain ⟨clause, hClause, hPiece⟩ := mem_tables "FROM" h
  rw [Select.layout_eq]
  refine Layout.mem_intercalate (l := clause) ?_ hPiece
  simp only [Select.clauses, List.mem_append, hClause, or_true, true_or]

/-- What declares the target, a listed table or a relation that completes FROM is in the layout of
the statement. -/
theorem Update.mem_layout {update : Update} {piece : Piece}
    (h : piece ∈ update.target.layout auto ∨ (∃ f ∈ update.tables, piece ∈ f.layout auto) ∨
      ∃ r ∈ update.completion auto, piece ∈ r.layout auto) :
    piece ∈ Layout.closed (update.clauses auto) := by
  rcases h with hTarget | hTables
  · refine Layout.mem_closed (l := Layout.clause "UPDATE" (update.target.layout auto)) ?_
      (List.mem_append_right _ hTarget)
    simp [Update.clauses]
  · obtain ⟨clause, hClause, hPiece⟩ := mem_tables "FROM" hTables
    refine Layout.mem_closed (l := clause) ?_ hPiece
    simp only [Update.clauses, List.mem_append, hClause, or_true, true_or]

/-- What declares the target, a listed table or a relation that completes USING is in the layout of
the statement. -/
theorem Delete.mem_layout {delete : Delete} {piece : Piece}
    (h : piece ∈ delete.target.layout auto ∨ (∃ f ∈ delete.tables, piece ∈ f.layout auto) ∨
      ∃ r ∈ delete.completion auto, piece ∈ r.layout auto) :
    piece ∈ Layout.closed (delete.clauses auto) := by
  rcases h with hTarget | hTables
  · refine Layout.mem_closed (l := Layout.clause "DELETE FROM" (delete.target.layout auto)) ?_
      (List.mem_append_right _ hTarget)
    simp [Delete.clauses]
  · obtain ⟨clause, hClause, hPiece⟩ := mem_tables "USING" hTables
    refine Layout.mem_closed (l := clause) ?_ hPiece
    simp only [Delete.clauses, List.mem_append, hClause, or_true, true_or]

end Declarations

end QueryText

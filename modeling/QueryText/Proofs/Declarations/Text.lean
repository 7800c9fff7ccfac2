import QueryText.Proofs.Declarations.Layout

/-!
# QueryText — where declarations stand in a text

What follows from the way in which a layout declares relations: its notes are those of the added
relations, in order; in the text of the layout every declaration stands at a place of its own, one
behind the other; and an argument inside a declared relation is an argument of the layout.

## Main results

* `Layout.Declares.notes_eq` — the notes of a layout.
* `Layout.Declares.placed` — the places of the declarations in the text.
* `Layout.Declares.tags_subset` — the arguments of a declared relation.
* `Statement.notes_layout`, `Statement.placed_of_ok` — the notes and the text of a pass.
-/

namespace QueryText

/-- A declaration stands in a text from an offset on, written as where some slots are taken. -/
def Declaration.StandsAt (auto : Bool) (style : PlaceholderStyle) (sql : String) (start : Nat)
    (d : Declaration) : Prop :=
  ∃ before after slots,
    sql = before ++ (d.relation.layout auto).spelling style slots ++ after ∧ before.length = start

/-- Every declaration of a list stands in a text, each of them behind the one before it. -/
def Declaration.Placed (auto : Bool) (style : PlaceholderStyle) (sql : String)
    (ds : List Declaration) : Prop :=
  ∃ starts : List Nat, starts.Pairwise (· < ·) ∧
    List.Forall₂ (Declaration.StandsAt auto style sql) starts ds

namespace Declaration

variable {auto : Bool} {style : PlaceholderStyle} {sql : String} {d : Declaration}
  {ds : List Declaration}

/-- With a text before it, a declaration stands later by the length of that text. -/
theorem StandsAt.behind {start : Nat} (h : StandsAt auto style sql start d) (s : String) :
    StandsAt auto style (s ++ sql) (s.length + start) d := by
  obtain ⟨before, after, slots, rfl, rfl⟩ := h
  refine ⟨s ++ before, after, slots, ?_, String.length_append ..⟩
  simp only [String.append_assoc]

theorem placed_nil : Placed auto style sql [] :=
  ⟨[], .nil, .nil⟩

theorem forall₂_behind {starts : List Nat}
    (h : List.Forall₂ (StandsAt auto style sql) starts ds) (s : String) :
    List.Forall₂ (StandsAt auto style (s ++ sql)) (starts.map (s.length + ·)) ds := by
  rw [List.forall₂_map_left_iff]
  exact h.imp fun start d hStands => hStands.behind s

theorem pairwise_behind {starts : List Nat} (h : starts.Pairwise (· < ·)) (n : Nat) :
    (starts.map (n + ·)).Pairwise (· < ·) :=
  List.pairwise_map.mpr (h.imp fun hLess => Nat.add_lt_add_left hLess n)

/-- Declarations that are placed in a text are so with another text before it. -/
theorem Placed.behind (h : Placed auto style sql ds) (s : String) :
    Placed auto style (s ++ sql) ds := by
  obtain ⟨starts, hLess, hStands⟩ := h
  exact ⟨starts.map (s.length + ·), pairwise_behind hLess _, forall₂_behind hStands s⟩

/-- A declaration at the beginning of a text, and others behind some of that text. -/
theorem Placed.cons {s : String} (hText : s ≠ "") (hFirst : StandsAt auto style (s ++ sql) 0 d)
    (h : Placed auto style sql ds) : Placed auto style (s ++ sql) (d :: ds) := by
  obtain ⟨starts, hLess, hStands⟩ := h
  have hPos : 0 < s.length := by
    rw [Nat.pos_iff_ne_zero, ne_eq, String.length_eq_zero_iff]
    exact hText
  refine ⟨0 :: starts.map (s.length + ·), .cons ?_ (pairwise_behind hLess _),
    .cons hFirst (forall₂_behind hStands s)⟩
  intro start hStart
  obtain ⟨inner, -, rfl⟩ := List.mem_map.mp hStart
  omega

/-- Each declaration that is placed stands somewhere. -/
theorem Placed.exists_standsAt (h : Placed auto style sql ds) (hd : d ∈ ds) :
    ∃ start, StandsAt auto style sql start d := by
  obtain ⟨starts, -, hStands⟩ := h
  induction hStands with
  | nil => exact absurd hd List.not_mem_nil
  | cons hFirst _ ih =>
    rcases List.mem_cons.mp hd with rfl | hRest
    · exact ⟨_, hFirst⟩
    · exact ih hRest

end Declaration

namespace Layout

namespace Declares

variable {auto : Bool} {l : Layout} {ds : List Declaration}

/-- The notes of a layout are those of the relations that were added to a list. -/
theorem notes_eq (h : Declares auto l ds) : l.notes = ds.filterMap Declaration.note? := by
  induction h with
  | nil => rfl
  | skip hNote _ ih =>
    rw [notes_cons, hNote, ih]
    rfl
  | listed hSolid _ _ ih =>
    rw [notes_cons, hSolid.note, ih]
    rfl
  | added hNote hSolid _ _ ih =>
    rw [notes_cons, hNote, notes_cons, hSolid.note, ih]
    rfl

/-- The arguments inside a declared relation are arguments of the layout. -/
theorem tags_subset (h : Declares auto l ds) :
    ∀ d ∈ ds, (d.relation.layout auto).tags ⊆ l.tags := by
  have hBegins : ∀ {l : Layout} {r : Relation},
      Begins auto l r → (r.layout auto).tags ⊆ l.tags := by
    rintro l r ⟨own, rest, rfl, hAlike⟩
    rw [tags_append, ← hAlike.tags]
    exact List.subset_append_left _ _
  have hTail : ∀ {piece : Piece} {l : Layout} {inner : List String},
      inner ⊆ l.tags → inner ⊆ tags (piece :: l) := by
    intro piece l inner hInner
    rw [tags_cons]
    exact List.subset_append_of_subset_right _ hInner
  induction h with
  | nil => exact fun d hd => absurd hd List.not_mem_nil
  | skip _ _ ih => exact fun d hd => hTail (ih d hd)
  | listed _ hText _ ih =>
    exact List.forall_mem_cons.mpr ⟨hBegins hText, fun d hd => hTail (ih d hd)⟩
  | added _ _ hText _ ih =>
    exact List.forall_mem_cons.mpr
      ⟨hTail (hBegins hText), fun d hd => hTail (hTail (ih d hd))⟩

/-- In the text of a layout, the declarations stand one behind the other. -/
theorem placed (h : Declares auto l ds) (style : PlaceholderStyle) (slots : List String) :
    Declaration.Placed auto style (l.spelling style slots) ds := by
  have hBegins : ∀ {l : Layout} {r : Relation} (addedTo : Option String) (slots : List String),
      Begins auto l r →
        Declaration.StandsAt auto style (l.spelling style slots) 0 ⟨r, addedTo⟩ := by
    rintro l r addedTo slots ⟨own, rest, rfl, hAlike⟩
    refine ⟨"", rest.spelling style (own.slotsAfter slots), slots, ?_, rfl⟩
    rw [spelling_append, hAlike.spelling, String.empty_append]
  induction h generalizing slots with
  | nil => exact Declaration.placed_nil
  | skip _ _ ih =>
    rw [spelling_cons]
    exact (ih _).behind _
  | @listed piece l r ds hSolid hText _ ih =>
    have hFirst := hBegins none slots hText
    rw [spelling_cons] at hFirst ⊢
    exact .cons (hSolid.text style slots) hFirst (ih _)
  | @added note piece l r keyword ds hNote hSolid hText _ ih =>
    -- the note itself is not written
    have hNothing : spelling style slots (note :: piece :: l) =
        spelling style slots (piece :: l) := by
      obtain ⟨path, atom⟩ := note
      cases atom <;> first | rfl | cases hNote
    have hFirst := hBegins (some keyword) slots hText
    rw [hNothing, spelling_cons]
    rw [spelling_cons] at hFirst
    exact .cons (hSolid.text style slots) hFirst (ih _)

end Declares

theorem notes_append (l m : Layout) : (l ++ m).notes = l.notes ++ m.notes :=
  List.filterMap_append

theorem notes_inside (frame : Frame) (l : Layout) : (inside frame l).notes = l.notes := by
  rw [notes, inside, List.filterMap_map]
  rfl

theorem notes_closed (clauses : List Layout) : (closed clauses).notes = (spaced clauses).notes := by
  by_cases hEmpty : clauses = []
  · rw [hEmpty]
    rfl
  · rw [closed_eq_spaced hEmpty, notes_append]
    exact List.append_nil _

end Layout

-- ---------------------------------------------------------------------------
-- Statements
-- ---------------------------------------------------------------------------

namespace Insert

/-- The space behind DO UPDATE makes no difference to the notes. -/
theorem notes_actionLayout (auto : Bool) (action : ConflictAction) :
    (actionLayout auto action).notes = (Layout.closed (actionClauses auto action)).notes := by
  cases action with
  | nothing => rfl
  | update upsert =>
    simp only [actionLayout, actionClauses, Layout.closed_append, Layout.notes_append,
      Layout.closed_singleton, List.append_assoc]
    rfl

theorem notes_conflictLayout (auto : Bool) (conflict : Option Conflict) :
    (conflictLayout auto conflict).notes =
      (Layout.closed (conflictClauses auto conflict)).notes := by
  cases conflict with
  | none => rfl
  | some conflict =>
    simp only [conflictLayout, conflictClauses, Layout.closed_append, Layout.notes_append,
      Layout.closed_singleton, notes_actionLayout, List.append_assoc]
    rfl

/-- An INSERT has the notes of its clauses, in the order in which they are written. -/
theorem notes_layout (auto : Bool) (insert : Insert) :
    (insert.layout auto).notes = (Layout.closed (insert.clauses auto)).notes := by
  unfold layout clauses
  cases insert.misuse with
  | some cause => rfl
  | none =>
    cases insert.rows with
    | none => rfl
    | some rows =>
      simp only [tail, Layout.closed_append, Layout.notes_append, notes_conflictLayout,
        List.append_assoc]

end Insert

namespace Statement

/-- A pass notes the relations that were added to a list, in the order of their declarations. -/
theorem notes_layout (auto : Bool) (statement : Statement) :
    (statement.layout auto).notes = (statement.declarations auto).filterMap Declaration.note? := by
  rw [← (statement.declares_pieces auto).notes_eq, pieces, ← Layout.notes_closed]
  cases statement with
  | select query =>
    rw [layout, clauses, Select.closed_clauses, Layout.notes_append, Layout.notes_inside,
      Layout.notes_append]
  | insert statement => exact statement.notes_layout auto
  | update statement =>
    show (statement.layout auto).notes = (Layout.closed (ite _ _ _)).notes
    unfold Update.layout
    split
    · rfl
    · exact Layout.notes_inside _ _
  | delete statement => exact Layout.notes_inside _ _

/-- A finished text is that of the clauses with one space between each two of them. -/
theorem sql_of_ok {statement : Statement} {options : Options} {rendering : Rendering}
    (h : statement.render options = .ok rendering) :
    rendering.sql = (statement.pieces options.inferring).spelling options.placeholder [] := by
  obtain ⟨-, hRendering, hFault⟩ := of_render_ok h
  have hClauses := clauses_ne_nil hFault options.inferring
  rw [hRendering, (statement.alike_clauses _).rendering_eq, Layout.rendering_closed hClauses]
  rfl

/-- In a finished text, the declarations of a statement stand one behind the other. -/
theorem placed_of_ok {statement : Statement} {options : Options} {rendering : Rendering}
    (h : statement.render options = .ok rendering) :
    Declaration.Placed options.inferring options.placeholder rendering.sql
      (statement.declarations options.inferring) := by
  rw [sql_of_ok h]
  exact (statement.declares_pieces _).placed _ _

end Statement

end QueryText

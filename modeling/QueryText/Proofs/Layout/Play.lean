import Mathlib.Data.List.Forall2
import QueryText.Proofs.Layout.Basic

/-!
# QueryText — playing a layout

A layout is written piece by piece. What playing it does depends on its atoms and on the
placeholder style alone, so the naming and the inference in force can be changed around it and
put back without a trace.

## Main results

* `Layout.play_append` — playing two layouts in a row is playing them as one.
* `Layout.movable_play` — playing does the same at every place of a pass.
* `Layout.samePlace_play` — playing leaves its surroundings as they are.
-/

namespace QueryText

def Atom.write : Atom → Writer
  | .text s => Writer.text s
  | .name s | .qualifier s | .declaration s => Writer.name s
  | .argument tag => Writer.argument tag
  | .gap => Writer.gap
  | .inference note => Writer.update fun ctx => ctx.recordInference note.relation note.keyword

/-- Writes the pieces of a layout one after the other. -/
def Layout.play : Layout → Writer
  | [] => Writer.nothing
  | piece :: l => do
    piece.atom.write
    play l

-- ---------------------------------------------------------------------------
-- Playing
-- ---------------------------------------------------------------------------

/-- A sequence runs its second writer in the context that the first one leaves, unless that fails.
-/
theorem Writer.seq_apply (w v : Writer) (ctx : Context) :
    (do w; v : Writer) ctx =
      match w ctx with
      | .ok _ after => v after
      | .error e after => .error e after := by
  simp only [bind, EStateM.bind]
  cases w ctx <;> rfl

/-- In a sequence, the first writer can be replaced by one that does the same in this context. -/
theorem Writer.seq_congr_left {w w' v : Writer} {ctx : Context} (h : w ctx = w' ctx) :
    (do w; v : Writer) ctx = (do w'; v : Writer) ctx := by
  rw [Writer.seq_apply, Writer.seq_apply, h]

namespace Layout

theorem play_of (atom : Atom) : (of atom).play = atom.write := by
  show (do atom.write; pure () : Writer) = atom.write
  exact bind_pure_unit

/-- Playing two layouts in a row is playing them one after the other. -/
theorem play_append (l m : Layout) : play (l ++ m) = (do l.play; m.play) := by
  induction l with
  | nil => exact (pure_bind () fun _ => m.play).symm
  | cons piece l ih =>
    show (do piece.atom.write; play (l ++ m) : Writer) = _
    rw [ih]
    exact (bind_assoc piece.atom.write (fun _ => play l) fun _ => m.play).symm

/-- Playing sees the atoms only. -/
theorem play_congr {l m : Layout}
    (h : l.map (fun p => p.atom.write) = m.map fun p => p.atom.write) : l.play = m.play := by
  induction l generalizing m with
  | nil =>
    obtain rfl : m = [] := by simpa using h
    rfl
  | cons piece l ih =>
    cases m with
    | nil => simp at h
    | cons other m =>
      obtain ⟨hFirst, hRest⟩ := List.cons.inj h
      have hWrite : piece.atom.write = other.atom.write := hFirst
      rw [play, play, hWrite, ih hRest]

/-- A frame makes no difference to what is played. -/
theorem play_inside (frame : Frame) (l : Layout) : (inside frame l).play = l.play :=
  play_congr (by simp [inside, Function.comp_def])

/-- What counts as a declaration makes no difference to what is played. -/
theorem play_anonymized (l : Layout) : l.anonymized.play = l.play := by
  apply play_congr
  rw [anonymized, List.map_map]
  apply List.map_congr_left
  intro piece _
  simp only [Function.comp_apply]
  split <;> rfl

end Layout

-- ---------------------------------------------------------------------------
-- Surroundings
-- ---------------------------------------------------------------------------

/-- The context that a writer leaves, whether it succeeds or fails. -/
def Writer.after (w : Writer) (ctx : Context) : Context :=
  match w ctx with
  | .ok _ after => after
  | .error _ after => after

/-- The surroundings of a context: what may change from place to place. -/
structure Place where
  naming : Naming
  inferring : Bool
  /-- Whether the pass infers at all. -/
  auto : Bool

/-- The place where a context stands. -/
def Context.place (ctx : Context) : Place :=
  ⟨ctx.naming, ctx.options.inferring, ctx.initial.inferring⟩

/-- The context at another place of the same pass. -/
def Context.relocate (ctx : Context) (naming : Naming) (inferring : Bool) : Context :=
  { ctx with naming := naming, options := { ctx.options with inferring := inferring } }

/-- A writer that does the same at every place of a pass. -/
def Writer.Movable (w : Writer) : Prop :=
  ∀ ctx naming inferring, w (ctx.relocate naming inferring) =
    match w ctx with
    | .ok _ after => .ok () (after.relocate naming inferring)
    | .error e after => .error e (after.relocate naming inferring)

/-- A change that does not look at the place can be made anywhere. -/
theorem Writer.movable_update {change : Context → Context}
    (h : ∀ ctx naming inferring,
      change (ctx.relocate naming inferring) = (change ctx).relocate naming inferring) :
    (Writer.update change).Movable := fun ctx naming inferring =>
  congrArg (EStateM.Result.ok ()) (h ctx naming inferring)

/-- Writing a placeholder, with the check that it needs. -/
theorem Writer.argument_apply (tag : String) (ctx : Context) :
    Writer.argument tag ctx =
      if ctx.options.placeholder = .named ∧ tag.isEmpty then .error .anonymousArgument ctx
      else .ok () (ctx.pushArgument tag) := by
  show (if ctx.options.placeholder = .named ∧ tag.isEmpty then throw .anonymousArgument
    else pure () >>= fun _ => Writer.update fun ctx => ctx.pushArgument tag : Writer) ctx = _
  split <;> rfl

/-- Every atom is written alike at all places of a pass. -/
theorem Atom.movable_write (atom : Atom) : atom.write.Movable := by
  cases atom with
  | argument tag =>
    intro ctx naming inferring
    simp only [Atom.write, Writer.argument_apply]
    have hStyle : (ctx.relocate naming inferring).options.placeholder =
      ctx.options.placeholder := rfl
    rw [hStyle]
    split
    · rfl
    · rfl
  | text s => exact Writer.movable_update fun _ _ _ => rfl
  | name s => exact Writer.movable_update fun _ _ _ => rfl
  | qualifier s => exact Writer.movable_update fun _ _ _ => rfl
  | declaration s => exact Writer.movable_update fun _ _ _ => rfl
  | gap => exact Writer.movable_update fun _ _ _ => rfl
  | inference note => exact Writer.movable_update fun _ _ _ => rfl

/-- Playing a layout does the same at all places of a pass. -/
theorem Layout.movable_play (l : Layout) : l.play.Movable := by
  induction l with
  | nil => exact fun _ _ _ => rfl
  | cons piece l ih =>
    intro ctx naming inferring
    rw [Layout.play, Writer.seq_apply, Writer.seq_apply, piece.atom.movable_write]
    cases piece.atom.write ctx with
    | ok _ after => exact ih after naming inferring
    | error e after => rfl

/-- A change of a context that leaves its surroundings as they are. -/
structure Context.SamePlace (before after : Context) : Prop where
  initial : after.initial = before.initial
  options : after.options = before.options
  naming : after.naming = before.naming

/-- Where the surroundings are the same, so is the place. -/
theorem Context.SamePlace.place {before after : Context} (h : before.SamePlace after) :
    after.place = before.place := by
  simp only [Context.place, h.initial, h.options, h.naming]

theorem Context.SamePlace.trans {a b c : Context} (h : a.SamePlace b) (h' : b.SamePlace c) :
    a.SamePlace c :=
  ⟨h'.initial.trans h.initial, h'.options.trans h.options, h'.naming.trans h.naming⟩

/-- Writing an atom leaves the surroundings as they are, also if it is refused. -/
theorem Atom.samePlace_write (atom : Atom) (ctx : Context) :
    ctx.SamePlace (atom.write.after ctx) := by
  cases atom with
  | argument tag =>
    rw [Writer.after, Atom.write, Writer.argument_apply]
    by_cases hRefused : ctx.options.placeholder = .named ∧ tag.isEmpty
    · rw [if_pos hRefused]
      exact ⟨rfl, rfl, rfl⟩
    · rw [if_neg hRefused]
      exact ⟨rfl, rfl, rfl⟩
  | text s => exact ⟨rfl, rfl, rfl⟩
  | name s => exact ⟨rfl, rfl, rfl⟩
  | qualifier s => exact ⟨rfl, rfl, rfl⟩
  | declaration s => exact ⟨rfl, rfl, rfl⟩
  | gap => exact ⟨rfl, rfl, rfl⟩
  | inference note => exact ⟨rfl, rfl, rfl⟩

/-- Playing a layout leaves the surroundings as they are, whether it ends or is refused. -/
theorem Layout.samePlace_play (l : Layout) (ctx : Context) :
    ctx.SamePlace (l.play.after ctx) := by
  induction l generalizing ctx with
  | nil => exact ⟨rfl, rfl, rfl⟩
  | cons piece l ih =>
    have hFirst := piece.atom.samePlace_write ctx
    rw [Writer.after] at hFirst
    rw [Layout.play, Writer.after, Writer.seq_apply]
    cases hRun : piece.atom.write ctx with
    | ok _ after =>
      rw [hRun] at hFirst
      exact hFirst.trans (ih after)
    | error e after =>
      rw [hRun] at hFirst
      exact hFirst

end QueryText

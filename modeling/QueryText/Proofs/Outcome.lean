import QueryText.Proofs.Layout.Simulation
import QueryText.Proofs.Numbering

/-!
# QueryText — the outcome of a pass

What a whole rendering pass yields, worked out from the layout: the fragments with their numbers,
the slots of the arguments, and whether the pass stops. With named placeholders it stops at the
first anonymous argument; at the end of its layout a statement stops at its fault.

## Main results

* `Layout.play_ok`, `Layout.play_refused` — what playing a layout yields.
* `Statement.render_eq_outcome`, `Expr.render_eq_outcome` — the result of a pass.
* `Expr.wrote_of_ok`, `Expr.write_positional` — writing an expression in any context.
* `Statement.fragments_prefix`, `Statement.of_render_ok` — the fragments that a pass writes.
* `Statement.placeholders_numbered` — the placeholders of a finished pass are numbered by first
  use.
-/

namespace QueryText

-- ---------------------------------------------------------------------------
-- The fragments of a layout
-- ---------------------------------------------------------------------------

/-- The tag of an argument. -/
def Atom.tag? : Atom → Option String
  | argument tag => some tag
  | _ => none

/-- The fragments of an atom, given the slots before it. -/
def Atom.fragments (slots : List String) : Atom → List Fragment
  | text s => [.text s]
  | name s | qualifier s | declaration s => [.name s]
  | argument tag => [.placeholder tag (Slots.number slots tag)]
  | gap => [.gap]
  | inference _ => []

/-- The slots after an atom. -/
def Atom.slots (slots : List String) (atom : Atom) : List String :=
  atom.tag?.elim slots (Slots.grow slots)

/-- The note of an inferred relation. -/
def Atom.note? : Atom → Option Inference
  | inference note => some note
  | _ => none

namespace Layout

/-- The tags of the arguments of a layout, in order. -/
def tags (l : Layout) : List String :=
  l.filterMap fun piece => piece.atom.tag?

def notes (l : Layout) : List Inference :=
  l.filterMap fun piece => piece.atom.note?

/-- The fragments of a layout, given the slots before it. -/
def fragments (slots : List String) : Layout → List Fragment
  | [] => []
  | piece :: l => piece.atom.fragments slots ++ fragments (piece.atom.slots slots) l

theorem tags_append (l m : Layout) : (l ++ m).tags = l.tags ++ m.tags :=
  List.filterMap_append

theorem tags_cons (piece : Piece) (l : Layout) :
    tags (piece :: l) = piece.atom.tag?.toList ++ l.tags := by
  unfold tags
  rw [List.filterMap_cons]
  cases piece.atom.tag? <;> rfl

theorem notes_cons (piece : Piece) (l : Layout) :
    notes (piece :: l) = piece.atom.note?.toList ++ l.notes := by
  unfold notes
  rw [List.filterMap_cons]
  cases piece.atom.note? <;> rfl

/-- The slots after a layout, with its first piece apart. -/
theorem foldl_grow_tags_cons (slots : List String) (piece : Piece) (l : Layout) :
    (tags (piece :: l)).foldl Slots.grow slots =
      l.tags.foldl Slots.grow (piece.atom.slots slots) := by
  rw [tags_cons, List.foldl_append, Atom.slots]
  cases piece.atom.tag? <;> rfl

/-- The second of two layouts is numbered on from the slots that the first one took. -/
theorem fragments_append (slots : List String) (l m : Layout) :
    fragments slots (l ++ m) =
      fragments slots l ++ fragments (l.tags.foldl Slots.grow slots) m := by
  induction l generalizing slots with
  | nil => rfl
  | cons piece l ih =>
    rw [List.cons_append, fragments, fragments, ih, foldl_grow_tags_cons, List.append_assoc]

/-- Names that are not told as declarations do not change the tags. -/
theorem tags_anonymized (l : Layout) : l.anonymized.tags = l.tags := by
  unfold tags anonymized
  rw [List.filterMap_map]
  apply List.filterMap_congr
  intro piece _
  simp only [Function.comp_apply]
  split <;> rfl

/-- Names are written alike, whatever they are there for. -/
theorem fragments_anonymized (l : Layout) (slots : List String) :
    l.anonymized.fragments slots = l.fragments slots := by
  induction l generalizing slots with
  | nil => rfl
  | cons piece l ih =>
    have hPiece : (anonymized [piece]).fragments slots = fragments slots [piece] := by
      obtain ⟨path, atom⟩ := piece
      cases path <;> cases atom <;> rfl
    have hSplit : anonymized (piece :: l) = anonymized [piece] ++ anonymized l := rfl
    rw [hSplit, fragments_append, hPiece, tags_anonymized, ih, ← fragments_append]
    rfl

end Layout

/-- Two lists of fragments are spelled one after the other. -/
theorem spellAll_append (style : PlaceholderStyle) (left right : List Fragment) :
    spellAll style (left ++ right) = spellAll style left ++ spellAll style right := by
  rw [spellAll, List.map_append, String.join_append]
  rfl

namespace Layout

/-- The text of a layout where the given slots are taken. -/
def spelling (style : PlaceholderStyle) (slots : List String) (l : Layout) : String :=
  spellAll style (l.fragments slots)

/-- The slots that are taken after a layout. -/
def slotsAfter (slots : List String) (l : Layout) : List String :=
  l.tags.foldl Slots.grow slots

variable {style : PlaceholderStyle} {slots : List String} {l m : Layout}

theorem slotsAfter_append : (l ++ m).slotsAfter slots = m.slotsAfter (l.slotsAfter slots) := by
  rw [slotsAfter, tags_append, List.foldl_append]
  rfl

/-- The text of two layouts is that of the first and then that of the second, numbered on. -/
theorem spelling_append :
    (l ++ m).spelling style slots =
      l.spelling style slots ++ m.spelling style (l.slotsAfter slots) := by
  rw [spelling, fragments_append, spellAll_append]
  rfl

theorem spelling_cons (piece : Piece) :
    spelling style slots (piece :: l) =
      spellAll style (piece.atom.fragments slots) ++ l.spelling style (piece.atom.slots slots) :=
  spellAll_append style _ _

theorem spelling_text (s : String) : (text s).spelling style slots = s :=
  String.empty_append

theorem spelling_parenthesized :
    (parenthesized l).spelling style slots = "(" ++ l.spelling style slots ++ ")" := by
  rw [parenthesized, spelling_append, spelling_append, spelling_text, spelling_text]
  rfl

theorem slotsAfter_parenthesized : (parenthesized l).slotsAfter slots = l.slotsAfter slots := by
  rw [parenthesized, slotsAfter_append, slotsAfter_append]
  rfl

theorem slotsAfter_operand (compound : Bool) :
    (operand compound l).slotsAfter slots = l.slotsAfter slots := by
  cases compound with
  | true => exact slotsAfter_parenthesized
  | false => rfl

end Layout

def Fragment.placeholder? : Fragment → Option Placeholder
  | placeholder tag number => some ⟨tag, number⟩
  | _ => none

/-- The placeholders of a text, in order. -/
def placeholders (fragments : List Fragment) : List Placeholder :=
  fragments.filterMap Fragment.placeholder?

theorem placeholders_append (left right : List Fragment) :
    placeholders (left ++ right) = placeholders left ++ placeholders right :=
  List.filterMap_append

/-- The placeholders of a layout are those of its tags. -/
theorem Layout.placeholders_fragments (slots : List String) (l : Layout) :
    placeholders (l.fragments slots) = Slots.run slots l.tags := by
  induction l generalizing slots with
  | nil => rfl
  | cons piece l ih =>
    rw [Layout.fragments, placeholders_append, ih, tags_cons, Slots.run_append]
    obtain ⟨path, atom⟩ := piece
    cases atom <;> rfl

-- ---------------------------------------------------------------------------
-- Playing a layout
-- ---------------------------------------------------------------------------

/-- Whether an argument cannot be written in a style. -/
def PlaceholderStyle.Refuses (style : PlaceholderStyle) (tag : String) : Prop :=
  style = .named ∧ tag = ""

instance (style : PlaceholderStyle) (tag : String) : Decidable (style.Refuses tag) :=
  inferInstanceAs (Decidable (_ ∧ _))

/-- A change of a context that adds a layout to it. -/
structure Context.Wrote (before : Context) (l : Layout) (after : Context) : Prop
    extends before.SamePlace after where
  fragments : after.fragments.toList =
    before.fragments.toList ++ l.fragments before.arguments.toList
  arguments : after.arguments.toList = l.tags.foldl Slots.grow before.arguments.toList
  inferences : after.inferences.toList = before.inferences.toList ++ l.notes

theorem Context.wrote_nil (ctx : Context) : ctx.Wrote [] ctx :=
  ⟨⟨rfl, rfl, rfl⟩, (List.append_nil _).symm, rfl, (List.append_nil _).symm⟩

/-- Writing a piece and then a layout is writing the layout that begins with the piece. -/
theorem Context.Wrote.cons {before middle after : Context} {piece : Piece} {l : Layout}
    (h : before.Wrote [piece] middle) (h' : middle.Wrote l after) :
    before.Wrote (piece :: l) after := by
  have hSlots : middle.arguments.toList = piece.atom.slots before.arguments.toList := by
    rw [h.arguments, Layout.foldl_grow_tags_cons]
    rfl
  constructor
  case toSamePlace => exact h.toSamePlace.trans h'.toSamePlace
  case fragments =>
    rw [h'.fragments, h.fragments, hSlots, List.append_assoc]
    simp only [Layout.fragments, List.append_nil]
  case arguments => rw [h'.arguments, hSlots, Layout.foldl_grow_tags_cons]
  case inferences =>
    rw [h'.inferences, h.inferences, List.append_assoc, Layout.notes_cons, Layout.notes_cons]
    simp only [Layout.notes, List.filterMap_nil, List.append_nil]

/-- The text that a layout adds to a context. -/
theorem Context.Wrote.text_eq {before after : Context} {l : Layout} (h : before.Wrote l after) :
    after.text =
      before.text ++ l.spelling before.options.placeholder before.arguments.toList := by
  rw [Context.text, h.options, h.fragments, spellAll_append]
  rfl

/-- A placeholder takes the slot that its tag has, or a new one. -/
theorem Context.wrote_pushArgument (ctx : Context) (tag : String) (path : List Frame) :
    ctx.Wrote [⟨path, .argument tag⟩] (ctx.pushArgument tag) := by
  refine ⟨⟨rfl, rfl, rfl⟩, ?_, ctx.slots.tags_take tag, (List.append_nil _).symm⟩
  simp [Context.pushArgument, Context.push, Context.arguments, Layout.fragments, Atom.fragments,
    ArgumentSlots.number_eq]

/-- A fragment that is no placeholder leaves the slots as they are. -/
theorem Context.wrote_push (ctx : Context) {fragment : Fragment} {piece : Piece}
    (hTag : piece.atom.tag? = none) (hNote : piece.atom.note? = none)
    (hFragments : ∀ slots, piece.atom.fragments slots = [fragment]) :
    ctx.Wrote [piece] (ctx.push fragment) := by
  refine ⟨⟨rfl, rfl, rfl⟩, ?_, ?_, ?_⟩
  · simp [Context.push, Layout.fragments, hFragments]
  · simp [Context.push, Context.arguments, Layout.tags, hTag]
  · simp [Context.push, Layout.notes, hNote]

/-- A piece whose argument the style accepts is written. -/
theorem Piece.write_ok (piece : Piece) (ctx : Context)
    (h : ∀ tag ∈ piece.atom.tag?, ¬ ctx.options.placeholder.Refuses tag) :
    ∃ after, piece.atom.write ctx = .ok () after ∧ ctx.Wrote [piece] after := by
  obtain ⟨path, atom⟩ := piece
  cases atom with
  | argument tag =>
    have hAllowed : ¬ (ctx.options.placeholder = .named ∧ tag.isEmpty) := by
      simpa [PlaceholderStyle.Refuses] using h tag rfl
    refine ⟨ctx.pushArgument tag, ?_, ctx.wrote_pushArgument tag path⟩
    rw [Atom.write, Writer.argument_apply, if_neg hAllowed]
  | inference note =>
    refine ⟨_, rfl, ⟨rfl, rfl, rfl⟩, (List.append_nil _).symm, rfl, ?_⟩
    simp [Context.recordInference, Layout.notes, Atom.note?]
  | text s => exact ⟨_, rfl, ctx.wrote_push rfl rfl fun _ => rfl⟩
  | name s => exact ⟨_, rfl, ctx.wrote_push rfl rfl fun _ => rfl⟩
  | qualifier s => exact ⟨_, rfl, ctx.wrote_push rfl rfl fun _ => rfl⟩
  | declaration s => exact ⟨_, rfl, ctx.wrote_push rfl rfl fun _ => rfl⟩
  | gap => exact ⟨_, rfl, ctx.wrote_push rfl rfl fun _ => rfl⟩

/-- A piece whose argument the style refuses stops the pass where it stands. -/
theorem Piece.write_refused (piece : Piece) (ctx : Context)
    (h : ∃ tag ∈ piece.atom.tag?, ctx.options.placeholder.Refuses tag) :
    piece.atom.write ctx = .error .anonymousArgument ctx := by
  obtain ⟨tag, hTag, hStyle, rfl⟩ := h
  obtain ⟨path, atom⟩ := piece
  cases atom with
  | argument tag =>
    obtain rfl : tag = "" := Option.some.inj hTag
    rw [Atom.write, Writer.argument_apply, if_pos ⟨hStyle, rfl⟩]
  | text s => cases hTag
  | name s => cases hTag
  | qualifier s => cases hTag
  | declaration s => cases hTag
  | gap => cases hTag
  | inference note => cases hTag

namespace Layout

variable {l : Layout} {ctx : Context}

/-- A tag of a layout is that of the first piece or one behind it. -/
theorem mem_tags_cons {piece : Piece} {tag : String} :
    tag ∈ tags (piece :: l) ↔ tag ∈ piece.atom.tag? ∨ tag ∈ l.tags := by
  rw [tags_cons, List.mem_append, Option.mem_toList]
  rfl

/-- A layout whose arguments can all be written is written to its end. -/
theorem play_ok (h : ∀ tag ∈ l.tags, ¬ ctx.options.placeholder.Refuses tag) :
    ∃ after, l.play ctx = .ok () after ∧ ctx.Wrote l after := by
  induction l generalizing ctx with
  | nil => exact ⟨ctx, rfl, ctx.wrote_nil⟩
  | cons piece l ih =>
    obtain ⟨middle, hFirst, hWrote⟩ :=
      piece.write_ok ctx fun tag hTag => h tag (mem_tags_cons.mpr (Or.inl hTag))
    have hAllowed : ∀ tag ∈ tags l, ¬ middle.options.placeholder.Refuses tag := by
      intro tag hTag
      rw [hWrote.options]
      exact h tag (mem_tags_cons.mpr (Or.inr hTag))
    obtain ⟨after, hRest, hWroteRest⟩ := ih hAllowed
    refine ⟨after, ?_, hWrote.cons hWroteRest⟩
    rw [play, Writer.seq_apply, hFirst]
    exact hRest

/-- With positional placeholders every layout is written to its end. -/
theorem play_positional (l : Layout) (hStyle : ctx.options.placeholder = .positional) :
    ∃ after, l.play ctx = .ok () after := by
  have hAllowed : ∀ tag ∈ l.tags, ¬ ctx.options.placeholder.Refuses tag := by
    intro tag _ hRefused
    rw [hStyle] at hRefused
    cases hRefused.1
  obtain ⟨after, hPlay, -⟩ := play_ok hAllowed
  exact ⟨after, hPlay⟩

/-- A layout with an argument that cannot be written is written up to it. -/
theorem play_refused (h : ∃ tag ∈ l.tags, ctx.options.placeholder.Refuses tag) :
    ∃ written rest after, l = written ++ rest ∧
      l.play ctx = .error .anonymousArgument after ∧ ctx.Wrote written after := by
  induction l generalizing ctx with
  | nil =>
    obtain ⟨tag, hTag, -⟩ := h
    exact absurd hTag List.not_mem_nil
  | cons piece l ih =>
    by_cases hFirst : ∃ tag ∈ piece.atom.tag?, ctx.options.placeholder.Refuses tag
    · -- nothing of a refused piece is written
      refine ⟨[], piece :: l, ctx, rfl, ?_, ctx.wrote_nil⟩
      rw [play, Writer.seq_apply, piece.write_refused ctx hFirst]
    · obtain ⟨middle, hRun, hWrote⟩ :=
        piece.write_ok ctx fun tag hTag hRefused => hFirst ⟨tag, hTag, hRefused⟩
      have hRest : ∃ tag ∈ tags l, middle.options.placeholder.Refuses tag := by
        obtain ⟨tag, hTag, hRefused⟩ := h
        rcases mem_tags_cons.mp hTag with hHere | hThere
        · exact absurd ⟨tag, hHere, hRefused⟩ hFirst
        · exact ⟨tag, hThere, hWrote.options ▸ hRefused⟩
      obtain ⟨written, rest, after, rfl, hPlay, hWroteRest⟩ := ih hRest
      refine ⟨piece :: written, rest, after, rfl, ?_, hWrote.cons hWroteRest⟩
      rw [play, Writer.seq_apply, hRun]
      exact hPlay

/-- A layout that is played to its end is written to its end. -/
theorem wrote_of_ok {after : Context} (h : l.play ctx = .ok () after) : ctx.Wrote l after := by
  by_cases hTags : ∃ tag ∈ l.tags, ctx.options.placeholder.Refuses tag
  · obtain ⟨_, _, _, -, hPlay, -⟩ := play_refused hTags
    rw [hPlay] at h
    cases h
  · obtain ⟨after', hPlay, hWrote⟩ :=
      play_ok fun tag hTag hRefused => hTags ⟨tag, hTag, hRefused⟩
    rw [hPlay] at h
    cases h
    exact hWrote

end Layout

-- ---------------------------------------------------------------------------
-- Passes
-- ---------------------------------------------------------------------------

/-- Of a text with a space at its end, the space is dropped. -/
theorem dropFinalSpace_append_space (s : String) : dropFinalSpace (s ++ " ") = s := by
  have hChars : (s ++ " ").toList = s.toList ++ [' '] := String.toList_append
  rw [dropFinalSpace, hChars, if_pos List.getLast?_concat, List.dropLast_concat,
    String.ofList_toList]

namespace Layout

/-- What a finished pass over a layout yields. -/
def rendering (l : Layout) (style : PlaceholderStyle) : Rendering :=
  ⟨dropFinalSpace (spellAll style (l.fragments [])), l.tags.foldl Slots.grow [], style⟩

/-- What a pass over a layout yields that stops at a fault, if there is one. -/
def outcome (l : Layout) (fault : Option Misuse) (style : PlaceholderStyle) :
    Except Error Rendering :=
  if ∃ tag ∈ l.tags, style.Refuses tag then .error .anonymousArgument
  else
    match fault with
    | some cause => .error (.misuse cause)
    | none => .ok (l.rendering style)

end Layout

/-- The place where a pass starts. -/
def Options.place (options : Options) : Place :=
  ⟨.reference, options.inferring, options.inferring⟩

namespace Writer.Stops

variable {w : Writer} {ctx : Context} {options : Options} {l : Layout} {fault : Option Misuse}

/-- If the style accepts all arguments, a writer writes its whole layout and then stops at its
fault. -/
theorem run_ok (h : w.Stops ctx.place l fault)
    (hTags : ¬ ∃ tag ∈ l.tags, ctx.options.placeholder.Refuses tag) :
    ∃ after, ctx.Wrote l after ∧
      w ctx =
        match fault with
        | none => .ok () after
        | some cause => .error (.misuse cause) after := by
  have hAllowed : ∀ tag ∈ l.tags, ¬ ctx.options.placeholder.Refuses tag :=
    fun tag hTag hRefused => hTags ⟨tag, hTag, hRefused⟩
  obtain ⟨after, hPlay, hWrote⟩ := Layout.play_ok hAllowed
  refine ⟨after, hWrote, ?_⟩
  rw [h _ rfl]
  cases fault with
  | none => exact hPlay
  | some cause =>
    show (do l.play; throw (.misuse cause) : Writer) ctx = _
    rw [seq_apply, hPlay]
    rfl

/-- If the style refuses an argument, a writer gets as far as the first of these, and no fault is
reported. -/
theorem run_refused (h : w.Stops ctx.place l fault)
    (hTags : ∃ tag ∈ l.tags, ctx.options.placeholder.Refuses tag) :
    ∃ written rest after, l = written ++ rest ∧ ctx.Wrote written after ∧
      w ctx = .error .anonymousArgument after := by
  obtain ⟨written, rest, after, hSplit, hPlay, hWrote⟩ := Layout.play_refused hTags
  refine ⟨written, rest, after, hSplit, hWrote, ?_⟩
  rw [h _ rfl]
  cases fault with
  | none => exact hPlay
  | some cause =>
    show (do l.play; throw (.misuse cause) : Writer) ctx = _
    rw [seq_apply, hPlay]

/-- A writer adds a part of its layout to the context, and all of it if every argument can be
written. -/
theorem wrote_after (h : w.Stops ctx.place l fault) :
    ∃ written rest, l = written ++ rest ∧ ctx.Wrote written (w.after ctx) ∧
      ((¬ ∃ tag ∈ l.tags, ctx.options.placeholder.Refuses tag) → rest = []) := by
  by_cases hTags : ∃ tag ∈ l.tags, ctx.options.placeholder.Refuses tag
  · obtain ⟨written, rest, after, hSplit, hWrote, hRun⟩ := h.run_refused hTags
    refine ⟨written, rest, hSplit, ?_, fun hNot => absurd hTags hNot⟩
    rw [Writer.after, hRun]
    exact hWrote
  · obtain ⟨after, hWrote, hRun⟩ := h.run_ok hTags
    refine ⟨l, [], (List.append_nil l).symm, ?_, fun _ => rfl⟩
    rw [Writer.after, hRun]
    cases fault <;> exact hWrote

/-- What a pass yields is the rendering of the layout that it wrote. -/
theorem finish_eq {after : Context} (h : (Context.start options).Wrote l after) :
    after.finish = l.rendering options.placeholder := by
  have hStyle : after.options = options := h.options
  have hFragments : after.fragments.toList = l.fragments [] := h.fragments
  have hArguments : after.arguments.toList = l.tags.foldl Slots.grow [] := h.arguments
  rw [Context.finish, Context.text, hStyle, hFragments, hArguments]
  rfl

/-- A writer that stops as told yields the outcome of its layout and its fault. -/
theorem render_eq (h : w.Stops options.place l fault) :
    w.render options = l.outcome fault options.placeholder := by
  have hStart : w.Stops (Context.start options).place l fault := h
  unfold Writer.render Layout.outcome
  by_cases hTags : ∃ tag ∈ l.tags, options.placeholder.Refuses tag
  · obtain ⟨_, _, _, -, -, hRun⟩ := hStart.run_refused hTags
    rw [hRun, if_pos hTags]
  · obtain ⟨after, hWrote, hRun⟩ := hStart.run_ok hTags
    rw [hRun, if_neg hTags]
    cases fault with
    | none => exact congrArg Except.ok (finish_eq hWrote)
    | some cause => rfl

/-- A pass writes a part of its layout, and all of it if every argument can be written. -/
theorem fragments_after (h : w.Stops options.place l fault) :
    ∃ written rest, l = written ++ rest ∧
      (w.after (Context.start options)).fragments.toList = written.fragments [] ∧
      ((¬ ∃ tag ∈ l.tags, options.placeholder.Refuses tag) → rest = []) := by
  have hStart : w.Stops (Context.start options).place l fault := h
  obtain ⟨written, rest, hSplit, hWrote, hRest⟩ := hStart.wrote_after
  exact ⟨written, rest, hSplit, hWrote.fragments, hRest⟩

/-- A pass that reaches its end writes its whole layout. -/
theorem of_render_ok {rendering : Rendering} (h : w.Stops options.place l fault)
    (hRender : w.render options = .ok rendering) :
    (w.after (Context.start options)).fragments.toList = l.fragments [] ∧
      rendering = l.rendering options.placeholder ∧ fault = none := by
  rw [h.render_eq] at hRender
  unfold Layout.outcome at hRender
  split at hRender
  · cases hRender
  · rename_i hTags
    obtain ⟨written, rest, hSplit, hFragments, hRest⟩ := h.fragments_after
    rw [hRest hTags, List.append_nil] at hSplit
    cases fault with
    | some cause => cases hRender
    | none => exact ⟨by rw [hFragments, ← hSplit], (Except.ok.inj hRender).symm, rfl⟩

end Writer.Stops

namespace Statement

variable {statement : Statement} {options : Options}

/-- The fragments that rendering writes, whether it succeeds or fails. -/
def fragments (statement : Statement) (options : Options) : List Fragment :=
  (statement.write.after (Context.start options)).fragments.toList

/-- The placeholders that rendering writes. -/
def written (statement : Statement) (options : Options) : List Placeholder :=
  placeholders (statement.fragments options)

/-- A pass over a statement, from its start. -/
theorem stops (statement : Statement) (options : Options) :
    statement.write.Stops options.place (statement.layout options.inferring) statement.fault :=
  statement.write_stops

/-- Rendering a statement yields the outcome of its layout. -/
theorem render_eq_outcome (statement : Statement) (options : Options) :
    statement.render options =
      (statement.layout options.inferring).outcome statement.fault options.placeholder := by
  rw [statement.render_eq]
  exact (statement.stops options).render_eq

/-- What rendering writes before it stops is the beginning of the layout. -/
theorem fragments_prefix (statement : Statement) (options : Options) :
    statement.fragments options <+: (statement.layout options.inferring).fragments [] := by
  obtain ⟨written, rest, hSplit, hFragments, -⟩ := (statement.stops options).fragments_after
  rw [fragments, hFragments, hSplit, Layout.fragments_append]
  exact List.prefix_append ..

/-- Rendering that reaches the end writes the whole layout. -/
theorem of_render_ok {rendering : Rendering} (h : statement.render options = .ok rendering) :
    statement.fragments options = (statement.layout options.inferring).fragments [] ∧
      rendering = (statement.layout options.inferring).rendering options.placeholder ∧
      statement.fault = none := by
  rw [render_eq] at h
  exact (statement.stops options).of_render_ok h

/-- The placeholders and the slots of a finished text are those of a run over its tags. -/
theorem written_of_ok {rendering : Rendering} (h : statement.render options = .ok rendering) :
    statement.written options = Slots.run [] (statement.layout options.inferring).tags ∧
      rendering.arguments = (statement.layout options.inferring).tags.foldl Slots.grow [] := by
  obtain ⟨hFragments, hRendering, -⟩ := of_render_ok h
  rw [written, hFragments, Layout.placeholders_fragments, hRendering]
  exact ⟨rfl, rfl⟩

-- ---------------------------------------------------------------------------
-- The numbering of arguments
-- ---------------------------------------------------------------------------

/-- A finished text with positional placeholders: its placeholders are those of the arguments in
the layout, and they are numbered by first use. -/
theorem placeholders_numbered (statement : Statement) (inferring : Bool) {rendering : Rendering}
    (h : statement.render ⟨.positional, inferring⟩ = .ok rendering) :
    rendering.sql =
        dropFinalSpace (spellAll .positional (statement.fragments ⟨.positional, inferring⟩)) ∧
      (statement.written ⟨.positional, inferring⟩).map Placeholder.tag =
        (statement.layout inferring).tags ∧
      Numbered (statement.written ⟨.positional, inferring⟩) rendering.arguments := by
  obtain ⟨hFragments, hRendering, -⟩ := of_render_ok h
  obtain ⟨hWritten, hArguments⟩ := written_of_ok h
  refine ⟨?_, ?_, ?_⟩
  · rw [hFragments, hRendering]
    rfl
  · rw [hWritten, Slots.map_tag_run]
  · rw [hWritten, hArguments]
    exact Numbered.run _

/-- A tag that occurs twice has one slot, an anonymous argument one of its own. -/
theorem placeholders_numbered_repeated :
    Statement.render (.select { items := [.argument "a", .argument "", .group (.argument "a")] })
        ⟨.positional, true⟩ = .ok ⟨"SELECT $1, $2, ($1)", ["a", ""], .positional⟩ ∧
      Numbered [⟨"a", 1⟩, ⟨"", 2⟩, ⟨"a", 1⟩] ["a", ""] := by
  have hRender : Statement.render
      (.select { items := [.argument "a", .argument "", .group (.argument "a")] })
      ⟨.positional, true⟩ = .ok ⟨"SELECT $1, $2, ($1)", ["a", ""], .positional⟩ := by
    decide +kernel
  have hWritten : written
      (.select { items := [.argument "a", .argument "", .group (.argument "a")] })
      ⟨.positional, true⟩ = [⟨"a", 1⟩, ⟨"", 2⟩, ⟨"a", 1⟩] := by
    decide +kernel
  have hNumbered := (placeholders_numbered _ true hRender).2.2
  rw [hWritten] at hNumbered
  exact ⟨hRender, hNumbered⟩

end Statement

/-- A pass over an expression, from its start. -/
theorem Expr.stops (expr : Expr) (options : Options) :
    expr.write.Stops options.place (expr.layout options.inferring .reference) none :=
  fun ctx hPlace => (writeCases options.inferring).expr expr .reference options.inferring ctx hPlace

/-- An expression on its own is never refused but for an anonymous argument. -/
theorem Expr.render_eq_outcome (expr : Expr) (options : Options) :
    expr.write.render options =
      (expr.layout options.inferring .reference).outcome none options.placeholder :=
  (expr.stops options).render_eq

-- ---------------------------------------------------------------------------
-- Expressions in a context
-- ---------------------------------------------------------------------------

/-- In reference naming, writing an expression is playing its layout. -/
theorem Expr.write_eq_play (e : Expr) {ctx : Context} (hNaming : ctx.naming = .reference) :
    e.write ctx = (e.layout ctx.initial.inferring .reference).play ctx := by
  have hPlace : ctx.place = ⟨.reference, ctx.options.inferring, ctx.initial.inferring⟩ := by
    rw [Context.place, hNaming]
  exact (writeCases ctx.initial.inferring).expr e .reference ctx.options.inferring ctx hPlace

/-- Writing an expression that succeeds adds its layout to the context. -/
theorem Expr.wrote_of_ok {e : Expr} {ctx after : Context} (hNaming : ctx.naming = .reference)
    (h : e.write ctx = .ok () after) :
    ctx.Wrote (e.layout ctx.initial.inferring .reference) after := by
  rw [e.write_eq_play hNaming] at h
  exact Layout.wrote_of_ok h

/-- With positional placeholders every expression can be written. -/
theorem Expr.write_positional (e : Expr) {ctx : Context} (hNaming : ctx.naming = .reference)
    (hStyle : ctx.options.placeholder = .positional) : ∃ after, e.write ctx = .ok () after := by
  obtain ⟨after, hPlay⟩ := (e.layout ctx.initial.inferring .reference).play_positional hStyle
  exact ⟨after, (e.write_eq_play hNaming).trans hPlay⟩

end QueryText

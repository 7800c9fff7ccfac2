import QueryText.Proofs.Outcome

/-!
# QueryText — filling the holes of raw SQL

A reading of raw SQL marks every character: it is kept, or it is a hole. The marks are worked out
from the text alone, before any operand is written, so what an operand writes has no part in
where the next hole is. The operands that have a hole are written one after the other, as if
nothing stood between them; the others are not written at all.

## Main results

* `Raw.fill_marks_nil` — the marks of a text without operands are the text.
* `Context.Row.play_eq`, `Context.exists_row` — operands that are written one after the other.
* `Context.fills` — raw SQL is written as its marks with the texts of the operands in the holes.
-/

namespace QueryText

-- ---------------------------------------------------------------------------
-- Marks
-- ---------------------------------------------------------------------------

namespace Raw

/-- The delimiters of quoted regions: single quotes of strings, double quotes of identifiers. -/
def IsQuote (c : Char) : Prop :=
  c = '\'' ∨ c = '\x22'

instance (c : Char) : Decidable (IsQuote c) :=
  inferInstanceAs (Decidable (_ ∨ _))

/-- A region is opened by either kind of quote. -/
theorem opensQuote_iff {c : Char} : Scan.opensQuote c = true ↔ IsQuote c := by
  rw [Scan.opensQuote, Bool.or_eq_true, beq_iff_eq, beq_iff_eq, or_comm]
  rfl

/-- The region after a delimiter or another character that is not escaped. -/
def regionAfter : Option Char → Char → Option Char
  | none, c => if IsQuote c then some c else none
  | some q, c => if c = q then none else some q

/-- Behind a character the scan is in the region that the character leads to, unless it was escaped.
-/
theorem Scan.quoteAfter_eq (scan : Scan) (c : Char) :
    scan.quoteAfter c = if scan.escaped then scan.quote else regionAfter scan.quote c := by
  unfold Scan.quoteAfter regionAfter
  split
  · rfl
  · cases scan.quote with
    | none => simp only [opensQuote_iff]
    | some q => simp

/-- What a reader makes of a character of raw SQL. -/
inductive Mark where
  /-- The character stands for itself. -/
  | kept (c : Char)
  /-- A question mark that takes an operand. -/
  | hole
  deriving DecidableEq, Repr

/-- The marks of a text for a reader that stands as given. -/
def marks (scan : Scan) : List Char → List Mark
  | [] => []
  | c :: cs => (if scan.atHole c then .hole else .kept c) :: marks (scan.next c) cs

def holes (marks : List Mark) : Nat :=
  marks.count .hole

/-- Puts texts into the holes, in order. A hole that is left stays a question mark. -/
def fill : List Mark → List String → String
  | [], _ => ""
  | .kept c :: marks, texts => String.singleton c ++ fill marks texts
  | .hole :: marks, [] => "?" ++ fill marks []
  | .hole :: marks, text :: texts => text ++ fill marks texts

/-- The marks of a piece of text and of the pieces behind it, each of which follows a hole. -/
def marksOfPieces (first : List Char) (rest : List (List Char)) : List Mark :=
  first.map .kept ++ rest.flatMap fun piece => .hole :: piece.map .kept

/-- The pieces between the holes tell where the holes are. -/
theorem marksOfPieces_pieces (scan : Scan) (cs : List Char) :
    marksOfPieces (pieces scan cs).1 (pieces scan cs).2 = marks scan cs := by
  induction cs generalizing scan with
  | nil => rfl
  | cons c cs ih =>
    rw [pieces, marks, ← ih]
    dsimp only
    by_cases hHole : scan.atHole c = true
    · rw [if_pos hHole, if_pos hHole]
      rfl
    · rw [if_neg hHole, if_neg hHole]
      rfl

/-- There is a hole before each piece but the first. -/
theorem holes_marksOfPieces (first : List Char) (rest : List (List Char)) :
    holes (marksOfPieces first rest) = rest.length := by
  have hKept : ∀ piece : List Char, (piece.map Mark.kept).count .hole = 0 := by
    intro piece
    simp [List.count_eq_zero]
  rw [holes, marksOfPieces, List.count_append, hKept, Nat.zero_add]
  induction rest with
  | nil => rfl
  | cons piece rest ih =>
    rw [List.flatMap_cons, List.count_append, List.count_cons_self, hKept, ih, List.length_cons]
    omega

/-- Characters that are kept stand before what is filled behind them. -/
theorem fill_kept (cs : List Char) (marks : List Mark) (texts : List String) :
    fill (cs.map .kept ++ marks) texts = String.ofList cs ++ fill marks texts := by
  induction cs with
  | nil => exact String.empty_append.symm
  | cons c cs ih =>
    rw [List.map_cons, List.cons_append, fill, ih, String.ofList_cons, String.append_assoc]

/-- Without operands a text is written as it is. -/
theorem fill_marks_nil (scan : Scan) (cs : List Char) :
    fill (marks scan cs) [] = String.ofList cs := by
  induction cs generalizing scan with
  | nil => rfl
  | cons c cs ih =>
    rw [marks, String.ofList_cons]
    by_cases hHole : scan.atHole c = true
    · obtain ⟨-, rfl⟩ : scan.quote.isNone = true ∧ c = '?' := by
        simpa [Scan.atHole] using hHole
      rw [if_pos hHole, fill, ih]
      rfl
    · rw [if_neg hHole, fill, ih]

end Raw

-- ---------------------------------------------------------------------------
-- Layouts in holes
-- ---------------------------------------------------------------------------

namespace Layout

variable {style : PlaceholderStyle}

/-- The texts of layouts that are written one after the other. -/
def spellings (style : PlaceholderStyle) : List String → List Layout → List String
  | _, [] => []
  | slots, l :: ls => l.spelling style slots :: spellings style (l.slotsAfter slots) ls

/-- Layouts with nothing between them. -/
def row (ls : List Layout) : Layout :=
  ls.flatten

theorem row_cons (l : Layout) (ls : List Layout) : row (l :: ls) = l ++ row ls :=
  List.flatten_cons

/-- Filling the holes of a layout is filling those of its text. -/
theorem spelling_filled (first : List Char) (rest : List (List Char)) (ls : List Layout)
    (slots : List String) :
    (filled first rest ls).spelling style slots =
      Raw.fill (Raw.marksOfPieces first rest) (spellings style slots (ls.take rest.length)) := by
  induction rest generalizing first ls slots with
  | nil =>
    rw [filled, spelling_text, Raw.marksOfPieces, Raw.fill_kept]
    exact String.append_empty.symm
  | cons piece rest ih =>
    have hMarks : Raw.marksOfPieces first (piece :: rest) =
        first.map .kept ++ .hole :: Raw.marksOfPieces piece rest := rfl
    have hText : ∀ s : String, (text s).slotsAfter slots = slots := fun _ => rfl
    rw [hMarks, Raw.fill_kept, List.length_cons]
    cases ls with
    | nil =>
      rw [filled, spelling_append, spelling_append, slotsAfter_append, spelling_text,
        spelling_text, hText, hText, ih, String.append_assoc]
      simp only [List.take_nil, spellings, Raw.fill]
    | cons l ls =>
      rw [filled, spelling_append, spelling_append, slotsAfter_append, spelling_text, hText, ih,
        String.append_assoc]
      simp only [List.take_succ_cons, spellings, Raw.fill]

/-- Layouts without a hole take no slots. -/
theorem tags_filled (first : List Char) (rest : List (List Char)) (ls : List Layout) :
    (filled first rest ls).tags = (row (ls.take rest.length)).tags := by
  have hText : ∀ s : String, tags (text s) = [] := fun _ => rfl
  induction rest generalizing first ls with
  | nil => rfl
  | cons piece rest ih =>
    cases ls with
    | nil =>
      rw [filled, tags_append, tags_append, hText, hText, ih, List.take_nil, List.take_nil]
      rfl
    | cons l ls =>
      rw [filled, tags_append, tags_append, hText, ih, List.length_cons, List.take_succ_cons,
        row_cons, tags_append]
      rfl

/-- Playing reaches the end exactly if no argument is refused. -/
theorem exists_play_iff {l : Layout} {ctx : Context} :
    (∃ after, l.play ctx = .ok () after) ↔
      ¬ ∃ tag ∈ l.tags, ctx.options.placeholder.Refuses tag := by
  constructor
  · rintro ⟨after, hPlay⟩ hRefused
    obtain ⟨_, _, _, -, hStopped, -⟩ := play_refused hRefused
    rw [hStopped] at hPlay
    cases hPlay
  · intro hAllowed
    obtain ⟨after, hPlay, -⟩ := play_ok fun tag hTag hRefused => hAllowed ⟨tag, hTag, hRefused⟩
    exact ⟨after, hPlay⟩

end Layout

-- ---------------------------------------------------------------------------
-- Operands in a row
-- ---------------------------------------------------------------------------

namespace Context

/-- Operands are written one after the other, with nothing between them, and each adds a text. -/
inductive Row : Context → List Expr → List String → Context → Prop where
  | nil (ctx : Context) : Row ctx [] [] ctx
  | cons {ctx middle after : Context} {e : Expr} {es : List Expr} {text : String}
    {texts : List String} (hWrite : Writer.part e.write ctx = .ok () middle)
    (hText : middle.text = ctx.text ++ text) (hRest : Row middle es texts after) :
    Row ctx (e :: es) (text :: texts) after

/-- The layouts of operands at the place of a context. -/
def operandLayouts (ctx : Context) (es : List Expr) : List Layout :=
  es.map (·.layout ctx.initial.inferring ctx.naming.inner)

/-- Writing an operand is playing its layout in the naming of parts. -/
theorem part_write_eq_play (ctx : Context) (e : Expr) :
    Writer.part e.write ctx =
      (e.layout ctx.initial.inferring ctx.naming.inner).play ctx := by
  have hWrites : e.write.Writes { ctx.place with naming := ctx.place.naming.inner }
      (e.layout ctx.initial.inferring ctx.naming.inner) :=
    (writeCases ctx.initial.inferring).expr e ctx.naming.inner ctx.options.inferring
  exact hWrites.part ctx rfl

/-- At the same place operands are laid out alike. -/
theorem SamePlace.operandLayouts_eq {before after : Context} (h : before.SamePlace after)
    (es : List Expr) : after.operandLayouts es = before.operandLayouts es := by
  rw [operandLayouts, operandLayouts, h.initial, h.naming]

/-- A row writes the layouts of its operands, and each text is that of its layout. -/
theorem Row.play_eq {ctx after : Context} {es : List Expr} {texts : List String}
    (h : ctx.Row es texts after) :
    (Layout.row (ctx.operandLayouts es)).play ctx = .ok () after ∧
      texts = Layout.spellings ctx.options.placeholder ctx.arguments.toList
        (ctx.operandLayouts es) := by
  induction h with
  | nil ctx => exact ⟨rfl, rfl⟩
  | @cons ctx middle after e es text texts hWrite hText _ ih =>
    rw [part_write_eq_play] at hWrite
    have hWrote := Layout.wrote_of_ok hWrite
    obtain ⟨hPlay, hTexts⟩ := ih
    rw [hWrote.operandLayouts_eq] at hPlay hTexts
    refine ⟨?_, ?_⟩
    · rw [operandLayouts, List.map_cons, Layout.row_cons, Layout.play_append, Writer.seq_apply,
        hWrite]
      exact hPlay
    · have hFirst := (String.append_right_inj _).mp (hText.symm.trans hWrote.text_eq)
      rw [hTexts, hFirst, hWrote.options, hWrote.arguments]
      rfl

/-- Layouts of operands that can be played are those of a row. -/
theorem exists_row {ctx after : Context} {es : List Expr}
    (h : (Layout.row (ctx.operandLayouts es)).play ctx = .ok () after) :
    ∃ texts, ctx.Row es texts after := by
  induction es generalizing ctx with
  | nil =>
    obtain rfl : ctx = after := (EStateM.Result.ok.inj h).2
    exact ⟨[], .nil ctx⟩
  | cons e es ih =>
    have hSplit : (e.layout ctx.initial.inferring ctx.naming.inner ++
        Layout.row (ctx.operandLayouts es)).play ctx = .ok () after := h
    rw [Layout.play_append, Writer.seq_apply, ← part_write_eq_play] at hSplit
    cases hWrite : Writer.part e.write ctx with
    | error e middle =>
      rw [hWrite] at hSplit
      cases hSplit
    | ok _ middle =>
      rw [hWrite] at hSplit
      have hWrote := hWrite
      rw [part_write_eq_play] at hWrote
      have hWrote := Layout.wrote_of_ok hWrote
      rw [← hWrote.operandLayouts_eq] at hSplit
      obtain ⟨texts, hRow⟩ := ih hSplit
      exact ⟨_, .cons hWrite hWrote.text_eq hRow⟩

-- ---------------------------------------------------------------------------
-- Raw SQL in a context
-- ---------------------------------------------------------------------------

/-- Raw SQL is written as its marks say. The operands that have a hole are written into the holes,
in order, as they are written in a row; no other operand is written. All other characters are
written as they are. -/
structure Fills (ctx : Context) (sql : String) (operands : List Expr) (marks : List Raw.Mark) :
    Prop where
  /-- The marks are those of the text. -/
  text : Raw.fill marks [] = sql
  /-- Operands that can be written in a row are written into the holes, and they alone take
  slots. -/
  written : ∀ texts last, ctx.Row (operands.take (Raw.holes marks)) texts last →
    ∃ after, (Expr.raw sql operands).write ctx = .ok () after ∧
      after.text = ctx.text ++ Raw.fill marks texts ∧ after.arguments = last.arguments
  /-- Only an operand that has a hole can be refused. -/
  refused : (¬ ∃ texts last, ctx.Row (operands.take (Raw.holes marks)) texts last) →
    ∃ after, (Expr.raw sql operands).write ctx = .error .anonymousArgument after
  /-- With positional placeholders none is. -/
  positional : ctx.options.placeholder = .positional →
    ∃ texts last, ctx.Row (operands.take (Raw.holes marks)) texts last

/-- Raw SQL is written as the marks of the writer's own reading say. -/
theorem fills (ctx : Context) (sql : String) (operands : List Expr) :
    ctx.Fills sql operands (Raw.marks {} sql.toList) := by
  have hMarks := Raw.marksOfPieces_pieces {} sql.toList
  have hHoles : Raw.holes (Raw.marks {} sql.toList) = (Raw.pieces {} sql.toList).2.length := by
    rw [← hMarks, Raw.holes_marksOfPieces]
  have hPlay : (Expr.raw sql operands).write ctx =
      (Layout.raw sql (ctx.operandLayouts operands)).play ctx := by
    rw [(writeCases ctx.initial.inferring).expr (.raw sql operands) ctx.naming
      ctx.options.inferring ctx rfl, Expr.layout, Expr.layouts_eq_map]
    rfl
  have hTake : ctx.operandLayouts (operands.take (Raw.holes (Raw.marks {} sql.toList))) =
      (ctx.operandLayouts operands).take (Raw.pieces {} sql.toList).2.length := by
    rw [operandLayouts, operandLayouts, List.map_take, hHoles]
  have hTags : (Layout.raw sql (ctx.operandLayouts operands)).tags =
      (Layout.row (ctx.operandLayouts
        (operands.take (Raw.holes (Raw.marks {} sql.toList))))).tags := by
    rw [Layout.raw, Layout.tags_filled, hTake]
  constructor
  case text => rw [Raw.fill_marks_nil, String.ofList_toList]
  case written =>
    intro texts last hRow
    obtain ⟨hRowPlay, hTexts⟩ := hRow.play_eq
    obtain ⟨after, hAfter⟩ := Layout.exists_play_iff.mpr
      (hTags ▸ Layout.exists_play_iff.mp ⟨last, hRowPlay⟩)
    have hWrote := Layout.wrote_of_ok hAfter
    refine ⟨after, hPlay.trans hAfter, ?_, ?_⟩
    · rw [hWrote.text_eq, Layout.raw, Layout.spelling_filled, hMarks, hTexts, hTake]
    · rw [← Array.toList_inj, hWrote.arguments, hTags, (Layout.wrote_of_ok hRowPlay).arguments]
  case refused =>
    intro hNone
    have hRefused : ∃ tag ∈ (Layout.raw sql (ctx.operandLayouts operands)).tags,
        ctx.options.placeholder.Refuses tag := by
      by_contra hAllowed
      obtain ⟨last, hLast⟩ := Layout.exists_play_iff.mpr (hTags ▸ hAllowed)
      obtain ⟨texts, hRow⟩ := exists_row hLast
      exact hNone ⟨texts, last, hRow⟩
    obtain ⟨_, _, after, -, hStopped, -⟩ := Layout.play_refused hRefused
    exact ⟨after, hPlay.trans hStopped⟩
  case positional =>
    intro hStyle
    obtain ⟨last, hLast⟩ := Layout.play_positional _ hStyle
    obtain ⟨texts, hRow⟩ := exists_row hLast
    exact ⟨texts, last, hRow⟩

end Context

end QueryText

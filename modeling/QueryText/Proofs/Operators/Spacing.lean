import QueryText.Proofs.Raw.Filling

/-!
# QueryText — what follows a prefix operator

A prefix operator stands right before its operand, and a space keeps them apart where the text of
the operand would go on with the operator. Whether that is so is read off from the tree before
the operand is written. Here the first character that is really written is worked out for every
kind of operand: it comes from a quoted name, a placeholder, a parenthesis, a keyword or the
verbatim text that the tree was asked for.

## Main results

* `Expr.isOperatorChar_iff` — the characters that are looked out for are those of operators.
* `Expr.detached_verbatim` — verbatim text that does not start with an operator is written so.
* `Expr.detached_operand` — nor does any other operand start with an operator.
* `Expr.prefix_operator_apart` — no prefix operator goes on in its operand.
-/

namespace QueryText

-- ---------------------------------------------------------------------------
-- Texts that do not begin with an operator
-- ---------------------------------------------------------------------------

/-- The characters that PostgreSQL makes operators of. An operator goes on as long as one of them
follows, and two minus signs begin a comment. -/
def operatorChars : List Char :=
  ['+', '-', '*', '/', '<', '>', '=', '~', '!', '@', '#', '%', '^', '&', '|', '\x60', '?']

/-- What is looked out for before an operand are exactly the characters of operators. -/
theorem Expr.isOperatorChar_iff (c : Char) :
    Expr.isOperatorChar c = true ↔ c ∈ operatorChars := by
  have hTable : "+-*/<>=~!@#%^&|\x60?".toList = operatorChars := by decide
  rw [Expr.isOperatorChar, hTable]
  exact List.contains_iff_mem

/-- No character of an operator is missed. -/
theorem Expr.notMem_operatorChars {c : Char} (h : Expr.isOperatorChar c = false) :
    c ∉ operatorChars := by
  rw [← Expr.isOperatorChar_iff, h]
  exact Bool.false_ne_true

/-- A text that does not begin with an operator character, if it has any character. -/
def Detached (s : String) : Prop :=
  ∀ c ∈ s.toList.head?, c ∉ operatorChars

instance (s : String) : Decidable (Detached s) :=
  decidable_of_iff (s.toList.head?.all fun c => !operatorChars.contains c) (by
    unfold Detached
    cases s.toList.head? <;> simp)

namespace Detached

variable {s t : String}

theorem append (hs : Detached s) (ht : s = "" → Detached t) : Detached (s ++ t) := by
  intro c hc
  rw [String.toList_append] at hc
  cases hChars : s.toList with
  | nil =>
    rw [hChars, List.nil_append] at hc
    exact ht (String.toList_eq_nil_iff.mp hChars) c hc
  | cons first rest =>
    rw [hChars] at hc
    exact hs c (by rw [hChars]; exact hc)

/-- What follows a text that is not empty cannot make it begin with an operator. -/
theorem append_of_ne (hs : Detached s) (hText : s ≠ "") (t : String) : Detached (s ++ t) :=
  hs.append fun hEmpty => absurd hEmpty hText

/-- What begins a detached text is detached. -/
theorem of_append (h : Detached (s ++ t)) : Detached s := by
  intro c hc
  refine h c ?_
  rw [String.toList_append]
  cases hChars : s.toList with
  | nil =>
    rw [hChars] at hc
    cases hc
  | cons first rest =>
    rw [hChars] at hc
    exact hc

end Detached

/-- No blank is an operator character. -/
theorem Text.isBlank_of_isOperatorChar {c : Char} (h : Expr.isOperatorChar c = true) :
    Text.isBlank c = false := by
  have hAll : (operatorChars.all fun c => !Text.isBlank c) = true := by decide
  simpa using List.all_eq_true.mp hAll c ((Expr.isOperatorChar_iff c).mp h)

/-- A quoted name is never empty. -/
theorem Identifier.quote_ne_empty (name : String) : Identifier.quote name ≠ "" := by
  intro hEmpty
  have hChars := congrArg String.toList hEmpty
  rw [quote, String.toList_ofList] at hChars
  cases hChars

/-- A quoted name begins with its quote. -/
theorem Identifier.detached_quote (name : String) : Detached (Identifier.quote name) := by
  intro c hc
  rw [Identifier.quote, String.toList_ofList] at hc
  obtain rfl : Identifier.delimiter = c := Option.some.inj hc
  exact Expr.notMem_operatorChars rfl

-- ---------------------------------------------------------------------------
-- Layouts that do not begin with an operator
-- ---------------------------------------------------------------------------

namespace Layout

variable {style : PlaceholderStyle} {slots : List String} {l m : Layout}

theorem spelling_of_name (name : String) :
    (Layout.name name).spelling style slots = Identifier.quote name :=
  String.empty_append

theorem spelling_of_qualifier (name : String) :
    (qualifier name).spelling style slots = Identifier.quote name :=
  String.empty_append

/-- A placeholder is spelled by its number or by its tag. -/
theorem spelling_argument (tag : String) :
    (argument tag).spelling style slots =
      match style with
      | .positional => "$" ++ toString (Slots.number slots tag)
      | .named => ":" ++ tag := by
  cases style <;> exact String.empty_append

/-- A layout that begins with some text which is no operator. -/
theorem detached_text_append {s : String} (hs : Detached s) (hText : s ≠ "") (m : Layout) :
    Detached ((text s ++ m).spelling style slots) := by
  rw [spelling_append, spelling_text]
  exact hs.append_of_ne hText _

/-- A layout in parentheses begins with one. -/
theorem detached_parenthesized (l : Layout) :
    Detached ((parenthesized l).spelling style slots) := by
  rw [parenthesized, List.append_assoc]
  exact detached_text_append (by decide) (by decide) _

/-- A qualified column begins with the quote of its relation. -/
theorem detached_qualifier_append (relation : String) (m : Layout) :
    Detached ((qualifier relation ++ m).spelling style slots) := by
  rw [spelling_append, spelling_of_qualifier]
  exact (Identifier.detached_quote relation).append_of_ne (Identifier.quote_ne_empty _) _

/-- Raw SQL begins with the text before its first hole. -/
theorem exists_spelling_filled (style : PlaceholderStyle) (slots : List String)
    (first : List Char) (pieces : List (List Char)) (ls : List Layout) :
    ∃ rest, (filled first pieces ls).spelling style slots = String.ofList first ++ rest := by
  cases pieces with
  | nil => exact ⟨"", by rw [filled, spelling_text, String.append_empty]⟩
  | cons piece pieces =>
    cases ls with
    | nil => exact ⟨_, by rw [filled, List.append_assoc, spelling_append, spelling_text]⟩
    | cons l ls => exact ⟨_, by rw [filled, List.append_assoc, spelling_append, spelling_text]⟩

end Layout

-- ---------------------------------------------------------------------------
-- Operands
-- ---------------------------------------------------------------------------

namespace Expr

variable {auto : Bool} {naming : Naming} {style : PlaceholderStyle} {slots : List String}

/-- An operand that begins with an operator character where nothing is looked at: a star, and a
function that has an operator for its name. -/
def OpensOperator (naming : Naming) : Expr → Prop
  | .star => True
  | .allOf _ => naming = .bare
  | .call function _ => ¬ Detached function
  | _ => False

/-- Raw SQL that does not start with an operator has another first character, if it has one. -/
theorem isOperatorChar_of_raw {sql : String} {operands : List Expr}
    (h : (Expr.raw sql operands).startsWithOperator = false) {first : Char} {more : List Char}
    (hChars : sql.toList = first :: more) : isOperatorChar first = false := by
  cases hFirst : isOperatorChar first with
  | false => rfl
  | true =>
    -- an operator character is no blank, so it is what the test has looked at
    have hTrimmed : Text.trimStart sql.toList = first :: more := by
      rw [hChars, Text.trimStart,
        List.dropWhile_cons_of_neg (by simp [Text.isBlank_of_isOperatorChar hFirst])]
    rw [startsWithOperator, verbatim, hTrimmed, List.head?_cons, Option.any_some, hFirst] at h
    cases h

/-- Raw SQL begins with its first character: a hole would be an operator character. -/
theorem detached_raw {sql : String} {operands : List Expr}
    (h : (Expr.raw sql operands).startsWithOperator = false) (ls : List Layout) :
    Detached ((Layout.raw sql ls).spelling style slots) := by
  cases hChars : sql.toList with
  | nil =>
    rw [Layout.raw, hChars]
    show Detached ((Layout.text (String.ofList [])).spelling style slots)
    rw [Layout.spelling_text]
    decide
  | cons first more =>
    have hFirst := isOperatorChar_of_raw h hChars
    have hHole : first ≠ '?' := by
      rintro rfl
      cases hFirst
    have hPieces : (Raw.pieces {} (first :: more)).1 =
        first :: (Raw.pieces (Raw.Scan.next {} first) more).1 := by
      rw [Raw.pieces]
      simp [Raw.Scan.atHole, hHole]
    rw [Layout.raw, hChars, hPieces]
    obtain ⟨rest, hSpelling⟩ := Layout.exists_spelling_filled style slots
      (first :: (Raw.pieces (Raw.Scan.next {} first) more).1)
      (Raw.pieces {} (first :: more)).2 ls
    rw [hSpelling]
    intro c hc
    rw [String.toList_append, String.toList_ofList] at hc
    obtain rfl : first = c := Option.some.inj hc
    exact notMem_operatorChars hFirst

/-- An expression without operators at its top does not begin with an operator character, unless it
is verbatim text that does or one of the operands that are not looked at. -/
theorem detached_layout {e : Expr} (hNaming : naming ≠ .declaration)
    (hVerbatim : e.startsWithOperator = false) (hOpens : ¬ e.OpensOperator naming)
    (hSimple : e.isCompound = false) :
    Detached ((e.layout auto naming).spelling style slots) := by
  cases e with
  | column relation name =>
    rw [layout, Layout.column]
    split
    · rw [Layout.spelling_of_name]
      exact Identifier.detached_quote name
    · rw [List.append_assoc]
      exact Layout.detached_qualifier_append relation.name _
  | star => exact absurd trivial hOpens
  | allOf relation =>
    have hQualified : ¬ naming = .bare := hOpens
    rw [layout, Layout.allOf, if_neg hQualified]
    exact Layout.detached_qualifier_append relation.name _
  | argument tag =>
    rw [layout, Layout.spelling_argument]
    cases style with
    | positional => exact Detached.append_of_ne (by decide) (by decide) _
    | named => exact Detached.append_of_ne (by decide) (by decide) _
  | literal text =>
    rw [layout, Layout.spelling_text]
    intro c hc
    rw [startsWithOperator, verbatim, hc] at hVerbatim
    exact notMem_operatorChars hVerbatim
  | raw sql operands =>
    rw [layout]
    exact detached_raw hVerbatim _
  | group inner => exact Layout.detached_parenthesized _
  | list items => exact Layout.detached_parenthesized _
  | unary op operand => cases hSimple
  | binary op left right => cases hSimple
  | logical op operands => cases hSimple
  | call function operands =>
    have hName : Detached function := Decidable.not_not.mp hOpens
    rw [layout, Layout.call, Layout.spelling_append, Layout.spelling_text]
    exact hName.append fun _ => Layout.detached_parenthesized _
  | named inner name =>
    rw [layout, Layout.named, if_neg hNaming, Layout.spelling_of_name]
    exact Identifier.detached_quote name
  | subquery op query =>
    rw [layout, Layout.subquery, List.append_assoc]
    have hToken : Detached (op.token ++ " (") := by
      cases op <;> decide
    exact Layout.detached_text_append hToken (by cases op <;> decide) _

/-- No operand begins with an operator character, under the same provisions: an operand with
operators at its top stands between parentheses. -/
theorem detached_operand {e : Expr} (hNaming : naming ≠ .declaration)
    (hVerbatim : e.startsWithOperator = false) (hOpens : ¬ e.OpensOperator naming) :
    Detached ((Layout.operand e.isCompound (e.layout auto naming)).spelling style slots) := by
  cases hCompound : e.isCompound with
  | true => exact Layout.detached_parenthesized _
  | false => exact detached_layout hNaming hVerbatim hOpens hCompound

end Expr

-- ---------------------------------------------------------------------------
-- Prefix operators
-- ---------------------------------------------------------------------------

/-- The context in which the operand of a prefix operator is written. -/
def Context.behindPrefix (ctx : Context) (op : UnaryOp) (touching : Bool) : Context :=
  if op.spaced || touching then (ctx.push (.text op.token)).push (.text " ")
  else ctx.push (.text op.token)

/-- What parts a prefix operator from its operand. -/
def UnaryOp.separation (op : UnaryOp) (touching : Bool) : String :=
  if op.spaced || touching then " " else ""

namespace Context

variable (ctx : Context) (op : UnaryOp) (touching : Bool)

/-- A fragment is written behind the text. -/
theorem text_push (fragment : Fragment) :
    (ctx.push fragment).text = ctx.text ++ fragment.spell ctx.options.placeholder := by
  have hFragments : (ctx.push fragment).fragments.toList = ctx.fragments.toList ++ [fragment] :=
    Array.toList_push
  rw [text, hFragments, spellAll_append, text]
  congr 1

/-- Behind a prefix operator stand its token and what separates it from its operand. -/
theorem text_behindPrefix :
    (ctx.behindPrefix op touching).text = ctx.text ++ op.token ++ op.separation touching := by
  unfold behindPrefix UnaryOp.separation
  split
  · rw [text_push, text_push]
    rfl
  · rw [text_push, String.append_empty, Fragment.spell]

theorem place_behindPrefix : (ctx.behindPrefix op touching).place = ctx.place := by
  unfold behindPrefix
  split <;> rfl

theorem options_behindPrefix : (ctx.behindPrefix op touching).options = ctx.options := by
  unfold behindPrefix
  split <;> rfl

theorem arguments_behindPrefix : (ctx.behindPrefix op touching).arguments = ctx.arguments := by
  unfold behindPrefix
  split <;> rfl

end Context

/-- A prefix operator writes its token and what parts it from the operand, then the operand. -/
theorem Writer.unary_before {op : UnaryOp} (h : op.fixity = .before) (touching : Bool)
    (operand : Writer) (ctx : Context) :
    Writer.unary op touching operand ctx = operand (ctx.behindPrefix op touching) := by
  unfold Writer.unary Context.behindPrefix
  rw [h]
  cases op.spaced || touching <;> rfl

/-- An operand has the same arguments with parentheses and without. -/
@[simp]
theorem Layout.tags_operand (compound : Bool) (l : Layout) :
    (operand compound l).tags = l.tags := by
  cases compound with
  | false => rfl
  | true =>
    rw [operand, if_pos rfl, parenthesized, tags_append, tags_append]
    exact List.append_nil _

/-- An operand that has a text has one between parentheses as well. -/
theorem Layout.spelling_operand_ne_empty {compound : Bool} {l : Layout}
    {style : PlaceholderStyle} {slots : List String} (h : l.spelling style slots ≠ "") :
    (operand compound l).spelling style slots ≠ "" := by
  cases compound with
  | false => exact h
  | true =>
    rw [operand, if_pos rfl, spelling_parenthesized, String.append_assoc]
    exact fun hEmpty => absurd (String.append_eq_empty_iff.mp hEmpty).1 (by decide)

namespace Expr

/-- Whether an operand opens with an operator is the same in the naming of parts. -/
theorem opensOperator_inner {naming : Naming} {e : Expr} :
    e.OpensOperator naming.inner ↔ e.OpensOperator naming := by
  cases e with
  | allOf relation => cases naming <;> simp [OpensOperator, Naming.inner]
  | _ => rfl

/-- The operand of an operator, as it is written at the place of a context. -/
def operandLayout (ctx : Context) (e : Expr) : Layout :=
  Layout.operand e.isCompound (e.layout ctx.initial.inferring ctx.naming.inner)

/-- Writing an operand writes its layout, and stops only where an argument is refused. -/
theorem operand_stops (e : Expr) (ctx : Context) :
    (Writer.operand e.isCompound e.write).Stops ctx.place (e.operandLayout ctx) none := by
  have hInner : e.write.Writes { ctx.place with naming := ctx.place.naming.inner }
      (e.layout ctx.initial.inferring ctx.naming.inner) :=
    (writeCases ctx.initial.inferring).expr e _ _
  exact fun other hPlace => Writer.writes_operand hInner other hPlace

/-- What a prefix expression adds to a context, as far as it can be written. -/
theorem exists_text_prefix {op : UnaryOp} (hPrefix : op.fixity = .before) (operand : Expr)
    (ctx : Context) :
    ∃ written unwritten, operand.operandLayout ctx = written ++ unwritten ∧
      ((Expr.unary op operand).write.after ctx).text =
        ctx.text ++ op.token ++ (op.separation operand.startsWithOperator ++
          Layout.spelling ctx.options.placeholder ctx.arguments.toList written) ∧
      ((¬ ∃ tag ∈ (operand.operandLayout ctx).tags, ctx.options.placeholder.Refuses tag) →
        unwritten = []) := by
  have hStops := operand.operand_stops ctx
  rw [← ctx.place_behindPrefix op operand.startsWithOperator] at hStops
  obtain ⟨written, unwritten, hSplit, hWrote, hAll⟩ := hStops.wrote_after
  have hAfter : (Expr.unary op operand).write.after ctx =
      (Writer.operand operand.isCompound operand.write).after
        (ctx.behindPrefix op operand.startsWithOperator) := by
    rw [Writer.after, Expr.write, Writer.unary_before hPrefix]
    rfl
  rw [ctx.options_behindPrefix] at hAll
  refine ⟨written, unwritten, hSplit, ?_, hAll⟩
  rw [hAfter, hWrote.text_eq, ctx.text_behindPrefix, ctx.options_behindPrefix,
    ctx.arguments_behindPrefix, String.append_assoc]

/-- An operand that is written to its end and has a text is written behind the operator as well. -/
theorem spelling_operandLayout_of_ok {operand : Expr} {ctx inner : Context}
    (hRun : Writer.part operand.write ctx = .ok () inner) (hText : inner.text ≠ ctx.text) :
    (¬ ∃ tag ∈ (operand.operandLayout ctx).tags, ctx.options.placeholder.Refuses tag) ∧
      (operand.operandLayout ctx).spelling ctx.options.placeholder ctx.arguments.toList ≠ "" := by
  rw [Context.part_write_eq_play] at hRun
  have hWrote := Layout.wrote_of_ok hRun
  refine ⟨fun hRefused => ?_, ?_⟩
  · rw [operandLayout, Layout.tags_operand] at hRefused
    obtain ⟨_, _, _, -, hStopped, -⟩ := Layout.play_refused hRefused
    rw [hStopped] at hRun
    cases hRun
  · refine Layout.spelling_operand_ne_empty fun hEmpty => hText ?_
    rw [hWrote.text_eq, hEmpty, String.append_empty]

/-- No prefix operator goes on in its operand: in every context, whatever can be written behind a
symbol does not begin with an operator character, and a space stands behind a word. An operand
that has a text has one there. -/
theorem prefix_operator_apart (op : UnaryOp) (operand : Expr) (ctx : Context)
    (hPrefix : op.fixity = .before) (hOpens : ¬ operand.OpensOperator ctx.naming) :
    ∃ rest,
      ((Expr.unary op operand).write.after ctx).text = ctx.text ++ op.token ++ rest ∧
      ((∀ c ∈ op.token.toList, c ∈ operatorChars) → Detached rest) ∧
      (op.token.toList.all Char.isAlpha = true → rest.toList.head? = some ' ') ∧
      ∀ inner, Writer.part operand.write ctx = .ok () inner → inner.text ≠ ctx.text →
        rest ≠ "" := by
  obtain ⟨written, unwritten, hSplit, hText, hAll⟩ := exists_text_prefix hPrefix operand ctx
  refine ⟨_, hText, fun _ => ?_, fun hWord => ?_, fun inner hRun hInner hEmpty => ?_⟩
  · unfold UnaryOp.separation
    by_cases hSpace : (op.spaced || operand.startsWithOperator) = true
    · rw [if_pos hSpace]
      exact Detached.append_of_ne (by decide) (by decide) _
    · rw [if_neg hSpace, String.empty_append]
      simp only [Bool.or_eq_true, not_or, Bool.not_eq_true] at hSpace
      have hNaming : ctx.naming.inner ≠ .declaration := by
        cases ctx.naming <;> decide
      have hWhole : Detached ((operand.operandLayout ctx).spelling ctx.options.placeholder
          ctx.arguments.toList) :=
        detached_operand hNaming hSpace.2 (opensOperator_inner.not.mpr hOpens)
      rw [hSplit, Layout.spelling_append] at hWhole
      exact hWhole.of_append
  · have hSpaced : op.spaced = true := by
      cases op with
      | not => rfl
      | neg | abs | factorial => cases hWord
    rw [UnaryOp.separation, hSpaced, Bool.true_or, if_pos rfl, String.toList_append]
    rfl
  · obtain ⟨hTags, hSpelled⟩ := spelling_operandLayout_of_ok hRun hInner
    rw [hAll hTags, List.append_nil] at hSplit
    rw [← hSplit] at hEmpty
    exact hSpelled (String.append_eq_empty_iff.mp hEmpty).2

/-- Verbatim text that starts with an operator, behind an operator in the text of a hole. -/
theorem prefix_operator_apart_verbatim :
    UnaryOp.neg.fixity = .before ∧ ¬ (Expr.raw "@ ?" [.literal "-1"]).OpensOperator .reference ∧
      (∃ rest,
        ((Expr.unary .neg (.raw "@ ?" [.literal "-1"])).write.after
          (Context.start ⟨.named, true⟩)).text =
          (Context.start ⟨.named, true⟩).text ++ UnaryOp.neg.token ++ rest ∧ Detached rest ∧
        rest ≠ "") ∧
      Statement.render (.select { items := [.unary .neg (.raw "@ ?" [.literal "-1"])] })
        ⟨.named, true⟩ = .ok ⟨"SELECT - @ -1", [], .named⟩ := by
  have hPrefix : UnaryOp.neg.fixity = .before := rfl
  have hOpens : ¬ (Expr.raw "@ ?" [.literal "-1"]).OpensOperator .reference := id
  have hMinus : ∀ c ∈ UnaryOp.neg.token.toList, c ∈ operatorChars := by
    have hToken : UnaryOp.neg.token.toList = ['-'] := by decide
    rw [hToken]
    exact List.forall_mem_singleton.mpr (by decide)
  refine ⟨hPrefix, hOpens, ?_, by decide +kernel⟩
  obtain ⟨rest, hText, hSymbol, -, hOperand⟩ :=
    prefix_operator_apart .neg _ (Context.start ⟨.named, true⟩) hPrefix hOpens
  exact ⟨rest, hText, hSymbol hMinus, hOperand _ rfl (by decide +kernel)⟩

end Expr

end QueryText

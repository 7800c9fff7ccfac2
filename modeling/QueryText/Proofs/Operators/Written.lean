import QueryText.Proofs.Operators.Reader
import QueryText.Proofs.Outcome

/-!
# QueryText — operators do not depend on precedence

An expression that is made of columns, stars, literals and arguments by operators and functions is
written as the tokens of its tree, with blanks between some of them. So the text can be read back
without any rule of precedence or associativity: two such expressions with the same tokens are the
same but for leaves that are written alike.

A leaf counts by its text. That of an argument depends on the slots that are taken where it is
written, so the slots are handed from each part of the tree to the next one.

## Main results

* `Expr.Formula.spelled` — the layout of an expression is spelled by the tokens of its tree.
* `Expr.text_of_ok` — the text that an expression adds to a context.
* `operators_read_back` — the tokens of a written expression have one reading, its tree.
-/

namespace QueryText

-- ---------------------------------------------------------------------------
-- Tokens in a text
-- ---------------------------------------------------------------------------

/-- A text consists of tokens, in order, with any number of blanks before, between and after
them. -/
inductive Token.Spells : List Token → String → Prop where
  | nil : Spells [] ""
  | blank {tokens : List Token} {text : String} (h : Spells tokens text) :
    Spells tokens (" " ++ text)
  | token (token : Token) {tokens : List Token} {text : String} (h : Spells tokens text) :
    Spells (token :: tokens) (token.text ++ text)

namespace Token.Spells

theorem single (token : Token) : Spells [token] token.text := by
  have h := Spells.token token .nil
  rwa [String.append_empty] at h

/-- Tokens in a row are spelled by their texts in a row. -/
theorem append {left right : List Token} {s t : String} (hLeft : Spells left s)
    (hRight : Spells right t) : Spells (left ++ right) (s ++ t) := by
  induction hLeft with
  | nil => rwa [String.empty_append]
  | blank _ ih =>
    rw [String.append_assoc]
    exact ih.blank
  | token first _ ih =>
    rw [String.append_assoc]
    exact .token first ih

theorem space : Spells [] " " := by
  have h := Spells.blank .nil
  rwa [String.append_empty] at h

/-- A token with a blank on each side. -/
theorem apart (token : Token) : Spells [token] (" " ++ token.text ++ " ") :=
  (space.append (single token)).append space

end Token.Spells

-- ---------------------------------------------------------------------------
-- Layouts that tokens spell
-- ---------------------------------------------------------------------------

namespace Layout

variable {style : PlaceholderStyle} {slots : List String} {l m : Layout}
  {tokens others : List Token}

theorem slotsAfter_spaceIf (wanted : Bool) :
    (if wanted then text " " else []).slotsAfter slots = slots := by
  cases wanted <;> rfl

/-- The text of a layout consists of the given tokens. -/
def SpelledBy (style : PlaceholderStyle) (slots : List String) (l : Layout)
    (tokens : List Token) : Prop :=
  Token.Spells tokens (l.spelling style slots)

/-- Layouts one after the other, each with the tokens that its text consists of. -/
inductive SpelledAll (style : PlaceholderStyle) :
    List String → List Layout → List (List Token) → Prop where
  | nil (slots : List String) : SpelledAll style slots [] []
  | cons {slots : List String} {l : Layout} {ls : List Layout} {tokens : List Token}
    {rest : List (List Token)} (hFirst : l.SpelledBy style slots tokens)
    (hRest : SpelledAll style (l.slotsAfter slots) ls rest) :
    SpelledAll style slots (l :: ls) (tokens :: rest)

namespace SpelledBy

/-- Two layouts are spelled by the tokens of both, the second one numbered on. -/
theorem append (hLeft : l.SpelledBy style slots tokens)
    (hRight : m.SpelledBy style (l.slotsAfter slots) others) :
    SpelledBy style slots (l ++ m) (tokens ++ others) := by
  rw [SpelledBy, spelling_append]
  exact Token.Spells.append hLeft hRight

theorem of_text {s : String} (h : Token.Spells tokens s) :
    (text s).SpelledBy style slots tokens := by
  rw [SpelledBy, spelling_text]
  exact h

/-- Parentheses are tokens of their own. -/
theorem parenthesized (h : l.SpelledBy style slots tokens) :
    (Layout.parenthesized l).SpelledBy style slots (Token.parenthesized tokens) := by
  refine .append (.append (.of_text (.single .opening)) ?_) (.of_text (.single .closing))
  exact h

/-- Layouts that are put between parentheses one by one. -/
theorem all_parenthesized {ls : List Layout} {tokens : List (List Token)}
    (h : SpelledAll style slots ls tokens) :
    SpelledAll style slots (ls.map Layout.parenthesized) (tokens.map Token.parenthesized) := by
  induction h with
  | nil slots => exact .nil slots
  | cons hFirst hRest ih =>
    refine .cons hFirst.parenthesized ?_
    rw [slotsAfter_parenthesized]
    exact ih

/-- An operand has the tokens of parentheses exactly if it has an operator at its top. -/
theorem operand {compound : Bool} (h : l.SpelledBy style slots tokens) :
    (Layout.operand compound l).SpelledBy style slots (Token.operand compound tokens) := by
  cases compound with
  | true => exact h.parenthesized
  | false => exact h

/-- Whether there is a space cannot be told from the tokens. -/
theorem spaceIf (wanted : Bool) :
    SpelledBy style slots (if wanted then text " " else []) [] := by
  cases wanted with
  | true => exact .of_text .space
  | false => exact Token.Spells.nil

/-- The token of a prefix or postfix operator stands on its side of the operand. -/
theorem unary (op : UnaryOp) (touching : Bool) (h : l.SpelledBy style slots tokens) :
    (Layout.unary op touching l).SpelledBy style slots (Token.unary op tokens) := by
  have hOperator : ∀ slots, (text op.token).SpelledBy style slots [.operator op.token] :=
    fun _ => .of_text (.single (.operator op.token))
  unfold Layout.unary Token.unary
  cases op.fixity with
  | before =>
    refine ((hOperator slots).append (.spaceIf (op.spaced || touching))).append ?_
    rw [slotsAfter_append, slotsAfter_spaceIf]
    exact h
  | after =>
    have hSpaced := h.append (.spaceIf op.spaced)
    rw [List.append_nil] at hSpaced
    exact hSpaced.append (hOperator _)

/-- The token of a binary operator stands between those of its sides. -/
theorem binary (op : BinaryOp) (hLeft : l.SpelledBy style slots tokens)
    (hRight : m.SpelledBy style (l.slotsAfter slots) others) :
    (Layout.binary op l m).SpelledBy style slots (Token.binary op tokens others) := by
  have hOperator : (text (" " ++ op.token ++ " ")).SpelledBy style (l.slotsAfter slots)
      [.operator op.token] := .of_text (.apart (.operator op.token))
  refine (hLeft.append hOperator).append ?_
  rw [slotsAfter_append]
  exact hRight

/-- Layouts with a separator between each two of them. -/
theorem separated {separator : String} {between : List Token} {ls : List Layout}
    {tokens : List (List Token)} (hSeparator : Token.Spells between separator)
    (h : SpelledAll style slots ls tokens) :
    (Layout.separated separator ls).SpelledBy style slots (between.intercalate tokens) := by
  induction h with
  | nil slots => exact Token.Spells.nil
  | cons hFirst hRest ih =>
    cases hRest with
    | nil slots =>
      rw [Layout.separated, List.intercalate_singleton, List.intercalate_singleton]
      exact hFirst
    | cons hSecond hMore =>
      rw [Layout.separated] at ih ⊢
      rw [List.intercalate_cons_cons, List.intercalate_cons_cons]
      refine (hFirst.append (.of_text hSeparator)).append ?_
      rw [slotsAfter_append]
      exact ih

/-- The token of a connective stands between operands in parentheses. -/
theorem connected (op : LogicalOp) {ls : List Layout} {tokens : List (List Token)}
    (h : SpelledAll style slots ls tokens) :
    (Layout.connected op ls).SpelledBy style slots (Token.connected op tokens) :=
  .separated (.apart (.operator op.token)) (all_parenthesized h)

/-- A function has the token of its name before those of a tuple. -/
theorem call (function : String) {ls : List Layout} {tokens : List (List Token)}
    (h : SpelledAll style slots ls tokens) :
    (Layout.call function ls).SpelledBy style slots (Token.call function tokens) := by
  have hComma : Token.Spells [.comma] ", " := (Token.Spells.single .comma).append .space
  refine .append (.of_text (.single (.function function))) ?_
  exact parenthesized (.separated hComma h)

end SpelledBy

end Layout

-- ---------------------------------------------------------------------------
-- Expressions
-- ---------------------------------------------------------------------------

/-- An expression that is made of columns, stars, literals and arguments by operators and
functions, where every connective has something to connect. -/
inductive Expr.Formula : Expr → Prop where
  | column (relation : Relation) (name : String) : Formula (.column relation name)
  | star : Formula .star
  | allOf (relation : Relation) : Formula (.allOf relation)
  | literal (text : String) : Formula (.literal text)
  | argument (tag : String) : Formula (.argument tag)
  | unary (op : UnaryOp) {operand : Expr} (h : operand.Formula) : Formula (.unary op operand)
  | binary (op : BinaryOp) {left right : Expr} (hLeft : left.Formula) (hRight : right.Formula) :
    Formula (.binary op left right)
  | logical (op : LogicalOp) {operands : List Expr} (hTwo : 2 ≤ operands.length)
    (h : ∀ e ∈ operands, e.Formula) : Formula (.logical op operands)
  | call (function : String) {operands : List Expr} (h : ∀ e ∈ operands, e.Formula) :
    Formula (.call function operands)

section Shapes

variable (auto : Bool) (style : PlaceholderStyle)

mutual

/-- The tree of an expression that is written where the given slots are taken. What is not made by
an operator or a function counts as a leaf. -/
def Expr.shape : Expr → List String → Shape
  | .unary op operand, slots => .unary op (operand.shape slots)
  | .binary op left right, slots =>
    .binary op (left.shape slots)
      (right.shape ((left.layout auto .reference).slotsAfter slots))
  | .logical op operands, slots => .logical op (Expr.shapes operands slots)
  | .call function operands, slots => .call function (Expr.shapes operands slots)
  | leaf, slots => .leaf ((leaf.layout auto .reference).spelling style slots)

def Expr.shapes : List Expr → List String → List Shape
  | [], _ => []
  | expr :: exprs, slots =>
    expr.shape slots :: Expr.shapes exprs ((expr.layout auto .reference).slotsAfter slots)

end

variable {auto style}

/-- The shape of an expression has an operator at its top if the expression has. -/
theorem Expr.isCompound_shape (e : Expr) (slots : List String) :
    (e.shape auto style slots).isCompound = e.isCompound := by
  cases e <;> rfl

/-- A list has one shape for each expression. -/
theorem Expr.length_shapes (exprs : List Expr) (slots : List String) :
    (Expr.shapes auto style exprs slots).length = exprs.length := by
  induction exprs generalizing slots with
  | nil => rfl
  | cons expr exprs ih => rw [Expr.shapes, List.length_cons, List.length_cons, ih]

/-- Each shape of a list is that of one of its expressions, at some slots. -/
theorem Expr.mem_shapes {exprs : List Expr} {slots : List String} {s : Shape}
    (h : s ∈ Expr.shapes auto style exprs slots) :
    ∃ e ∈ exprs, ∃ slots, s = e.shape auto style slots := by
  induction exprs generalizing slots with
  | nil => cases h
  | cons expr exprs ih =>
    rcases List.mem_cons.mp h with hFirst | hRest
    · exact ⟨expr, List.mem_cons_self .., slots, hFirst⟩
    · obtain ⟨e, he, slots', hShape⟩ := ih hRest
      exact ⟨e, List.mem_cons_of_mem _ he, slots', hShape⟩

/-- The layouts of a list are spelled by the tokens of its shapes, if it is so for each expression.
-/
theorem Expr.spelledAll_shapes {exprs : List Expr}
    (h : ∀ e ∈ exprs, ∀ slots, (e.layout auto .reference).SpelledBy style slots
      (e.shape auto style slots).tokens) (slots : List String) :
    Layout.SpelledAll style slots (Expr.layouts auto exprs .reference)
      (Shape.tokensAll (Expr.shapes auto style exprs slots)) := by
  induction exprs generalizing slots with
  | nil => exact .nil slots
  | cons expr exprs ih =>
    refine .cons (h expr (List.mem_cons_self ..) slots) ?_
    exact ih (fun e he => h e (List.mem_cons_of_mem _ he)) _

namespace Expr.Formula

variable {e f : Expr}

/-- The shape of a formula is well formed: its connectives have two operands or more. -/
theorem formed (h : e.Formula) (slots : List String) : (e.shape auto style slots).Formed := by
  induction h generalizing slots with
  | column relation name => exact .leaf _
  | star => exact .leaf _
  | allOf relation => exact .leaf _
  | literal text => exact .leaf _
  | argument tag => exact .leaf _
  | unary op _ ih => exact .unary op (ih slots)
  | binary op _ _ ihLeft ihRight => exact .binary op (ihLeft slots) (ihRight _)
  | @logical op operands hTwo _ ih =>
    refine .logical op ?_ fun s hs => ?_
    · rw [length_shapes]
      exact hTwo
    · obtain ⟨e, he, slots', rfl⟩ := mem_shapes hs
      exact ih e he slots'
  | call function _ ih =>
    refine .call function fun s hs => ?_
    obtain ⟨e, he, slots', rfl⟩ := mem_shapes hs
    exact ih e he slots'

/-- The layout of an expression is spelled by the tokens of its tree. -/
theorem spelled (h : e.Formula) (slots : List String) :
    (e.layout auto .reference).SpelledBy style slots (e.shape auto style slots).tokens := by
  induction h generalizing slots with
  | column relation name => exact .single (.leaf _)
  | star => exact .single (.leaf _)
  | allOf relation => exact .single (.leaf _)
  | literal text => exact .single (.leaf _)
  | argument tag => exact .single (.leaf _)
  | unary op _ ih =>
    rw [shape, Shape.tokens, isCompound_shape]
    exact (ih slots).operand.unary op _
  | binary op _ _ ihLeft ihRight =>
    rw [shape, Shape.tokens, isCompound_shape, isCompound_shape]
    refine .binary op (ihLeft slots).operand ?_
    -- parentheses take no slots, so the right operand starts after the left one as it is
    rw [Layout.slotsAfter_operand]
    exact (ihRight _).operand
  | logical op _ _ ih => exact .connected op (spelledAll_shapes ih slots)
  | call function _ ih => exact .call function (spelledAll_shapes ih slots)

end Expr.Formula

end Shapes

-- ---------------------------------------------------------------------------
-- What the writer writes
-- ---------------------------------------------------------------------------

namespace Context

/-- The tree of an expression that is written in a context. -/
def shape (ctx : Context) (e : Expr) : Shape :=
  e.shape ctx.initial.inferring ctx.options.placeholder ctx.arguments.toList

/-- The tokens of an expression that is written in a context. -/
def tokens (ctx : Context) (e : Expr) : List Token :=
  (ctx.shape e).tokens

end Context

/-- The text that an expression adds to a context. -/
theorem Expr.text_of_ok {e : Expr} {ctx after : Context} (hNaming : ctx.naming = .reference)
    (h : e.write ctx = .ok () after) :
    after.text = ctx.text ++ (e.layout ctx.initial.inferring .reference).spelling
      ctx.options.placeholder ctx.arguments.toList :=
  (e.wrote_of_ok hNaming h).text_eq

/-- An expression that is made by operators and functions is written as the tokens of its tree.
These are read back, knowing no precedence and no associativity, as that tree and no other: any
such expression with the same tokens, wherever it is written, has the same operators, functions
and operands, down to leaves with the same texts. -/
theorem operators_read_back {e : Expr} {ctx after : Context} (hFormula : e.Formula)
    (hNaming : ctx.naming = .reference) (hWrite : e.write ctx = .ok () after) :
    (∃ text, after.text = ctx.text ++ text ∧ Token.Spells (ctx.tokens e) text) ∧
      Token.read (ctx.tokens e) = some (ctx.shape e) ∧
      ∀ (f : Expr) (other : Context), f.Formula → ctx.tokens e = other.tokens f →
        ctx.shape e = other.shape f := by
  refine ⟨⟨_, e.text_of_ok hNaming hWrite, hFormula.spelled _⟩, ?_, ?_⟩
  · exact (hFormula.formed _).read_tokens
  · intro f other hOther hTokens
    exact (hFormula.formed _).eq_of_tokens (hOther.formed _) hTokens

/-- The sign of an argument, a comparison, a postfix operator and a connective in one text. -/
theorem operators_read_back_connected :
    ∃ (e : Expr) (after : Context), e.Formula ∧
      e.write (Context.start ⟨.positional, true⟩) = .ok () after ∧
      after.text = "(\"t\".\"x\" < (-$1)) AND (f($1, *)!)" ∧
      Token.read [.opening, .leaf "\"t\".\"x\"", .operator "<", .opening, .operator "-",
          .leaf "$1", .closing, .closing, .operator "AND", .opening, .function "f", .opening,
          .leaf "$1", .comma, .leaf "*", .closing, .operator "!", .closing] =
        some (.logical .and [.binary .less (.leaf "\"t\".\"x\"") (.unary .neg (.leaf "$1")),
          .unary .factorial (.call "f" [.leaf "$1", .leaf "*"])]) := by
  have hCall : (Expr.call "f" [.argument "n", .star]).Formula :=
    .call "f" (by simp [Expr.Formula.argument, Expr.Formula.star])
  have hLess : (Expr.binary .less (.column (.table none "t") "x")
      (.unary .neg (.argument "n"))).Formula :=
    .binary .less (.column _ _) (.unary .neg (.argument _))
  have hFormula : (Expr.logical .and [.binary .less (.column (.table none "t") "x")
      (.unary .neg (.argument "n")),
      .unary .factorial (.call "f" [.argument "n", .star])]).Formula :=
    .logical .and (Nat.le_refl 2) (by simp [hLess, hCall.unary])
  have hStart : (Context.start ⟨.positional, true⟩).naming = .reference := rfl
  obtain ⟨after, hWrite⟩ := Expr.write_positional _ hStart rfl
  refine ⟨_, after, hFormula, hWrite, ?_, ?_⟩
  · rw [Expr.text_of_ok hStart hWrite]
    decide +kernel
  · exact (operators_read_back hFormula hStart hWrite).2.1

end QueryText

import Mathlib.Data.List.Basic
import QueryText.Operator

/-!
# QueryText — reading operators back

The tree of an expression, down to the texts of its leaves, is written as tokens: operands that
have operators of their own stand between parentheses, and so does every operand of a logical
connective. The reader takes the tokens one by one and keeps the levels that are still open. It
knows no precedence and no associativity: between two parentheses or commas it accepts one
operator with its operands, or one connective between all of them, and nothing else.

## Main results

* `Shape.Reads.unary`, `Shape.Reads.binary`, `Shape.Reads.logical`, `Shape.Reads.call` — what the
  reader does with the tokens of a node, given what it does with those of the operands.
* `Shape.Formed.read_tokens` — the tokens of a tree are read as the tree.
* `Shape.Formed.eq_of_tokens` — trees with the same tokens are the same.
-/

namespace QueryText

-- ---------------------------------------------------------------------------
-- Operators by their tokens
-- ---------------------------------------------------------------------------

def UnaryOp.all : List UnaryOp :=
  [neg, abs, factorial, not]

def BinaryOp.all : List BinaryOp :=
  [add, subtract, multiply, divide, modulo, power, is, isNot, greater, greaterEq, less, lessEq,
    equal, notEqual, like, notLike, similarTo, notSimilarTo, regex, regexCaseless, notRegex,
    notRegexCaseless, contains, containedBy, concat, overlaps, isIn, notIn, bitAnd, bitOr, bitXor,
    shiftLeft, shiftRight]

def LogicalOp.all : List LogicalOp :=
  [and, or]

/-- The unary operator with a token on the given side of its operand. -/
def UnaryOp.read? (fixity : Fixity) (token : String) : Option UnaryOp :=
  all.find? fun op => op.fixity = fixity ∧ op.token = token

def BinaryOp.read? (token : String) : Option BinaryOp :=
  all.find? fun op => op.token = token

def LogicalOp.read? (token : String) : Option LogicalOp :=
  all.find? fun op => op.token = token

/-- A prefix or postfix operator is told by its token and its side. -/
theorem UnaryOp.read?_token (op : UnaryOp) : read? op.fixity op.token = some op := by
  cases op <;> decide

/-- A binary operator is told by its token. -/
theorem BinaryOp.read?_token (op : BinaryOp) : read? op.token = some op := by
  cases op <;> decide

/-- A connective is told by its token. -/
theorem LogicalOp.read?_token (op : LogicalOp) : read? op.token = some op := by
  cases op <;> decide

/-- No binary operator looks like a connective. -/
theorem BinaryOp.read?_logical (op : LogicalOp) : read? op.token = none := by
  cases op <;> decide

-- ---------------------------------------------------------------------------
-- Tokens and trees
-- ---------------------------------------------------------------------------

/-- A token of an expression, with its kind. -/
inductive Token where
  | leaf (text : String)
  | operator (text : String)
  | function (name : String)
  | opening
  | closing
  | comma
  deriving DecidableEq, Repr

def Token.text : Token → String
  | leaf text | operator text | function text => text
  | opening => "("
  | closing => ")"
  | comma => ","

/-- The tree of an expression, down to the texts of its leaves. -/
inductive Shape where
  | leaf (text : String)
  | unary (op : UnaryOp) (operand : Shape)
  | binary (op : BinaryOp) (left right : Shape)
  | logical (op : LogicalOp) (operands : List Shape)
  | call (function : String) (operands : List Shape)

namespace Token

def parenthesized (tokens : List Token) : List Token :=
  [opening] ++ tokens ++ [closing]

def operand (compound : Bool) (tokens : List Token) : List Token :=
  if compound then parenthesized tokens else tokens

def unary (op : UnaryOp) (operand : List Token) : List Token :=
  match op.fixity with
  | .before => [operator op.token] ++ operand
  | .after => operand ++ [operator op.token]

def binary (op : BinaryOp) (left right : List Token) : List Token :=
  left ++ [operator op.token] ++ right

def connected (op : LogicalOp) (operands : List (List Token)) : List Token :=
  [operator op.token].intercalate (operands.map parenthesized)

def call (name : String) (operands : List (List Token)) : List Token :=
  [function name] ++ parenthesized ([comma].intercalate operands)

end Token

namespace Shape

/-- Whether the tree is put between parentheses as the operand of an operator. -/
def isCompound : Shape → Bool
  | unary .. | binary .. | logical .. => true
  | leaf _ | call .. => false

mutual

/-- The tokens of a tree. -/
def tokens : Shape → List Token
  | leaf text => [.leaf text]
  | unary op operand => Token.unary op (Token.operand operand.isCompound operand.tokens)
  | binary op left right =>
    Token.binary op (Token.operand left.isCompound left.tokens)
      (Token.operand right.isCompound right.tokens)
  | logical op operands => Token.connected op (tokensAll operands)
  | call function operands => Token.call function (tokensAll operands)

def tokensAll : List Shape → List (List Token)
  | [] => []
  | shape :: shapes => shape.tokens :: tokensAll shapes

end

theorem tokensAll_eq_map (shapes : List Shape) : tokensAll shapes = shapes.map tokens := by
  induction shapes with
  | nil => rfl
  | cons shape shapes ih => rw [tokensAll, ih, List.map_cons]

/-- A tree whose connectives have something to connect. -/
inductive Formed : Shape → Prop where
  | leaf (text : String) : Formed (.leaf text)
  | unary (op : UnaryOp) {operand : Shape} (h : operand.Formed) : Formed (.unary op operand)
  | binary (op : BinaryOp) {left right : Shape} (hLeft : left.Formed) (hRight : right.Formed) :
    Formed (.binary op left right)
  | logical (op : LogicalOp) {operands : List Shape} (hTwo : 2 ≤ operands.length)
    (h : ∀ s ∈ operands, s.Formed) : Formed (.logical op operands)
  | call (function : String) {operands : List Shape} (h : ∀ s ∈ operands, s.Formed) :
    Formed (.call function operands)

end Shape

-- ---------------------------------------------------------------------------
-- The reader
-- ---------------------------------------------------------------------------

/-- What stands between two parentheses or commas, with every inner level read already. -/
inductive Item where
  | operand (shape : Shape)
  | operator (token : String)
  /-- The name of a function whose operands come next. -/
  | function (name : String)

namespace Item

/-- Operands with the same operator between each two of them. -/
def chain? (token : String) : List Item → Option (List Shape)
  | [operand x] => some [x]
  | operand x :: operator other :: items =>
    if other = token then (chain? token items).map (x :: ·) else none
  | _ => none

/-- The tree of an operand and an operator, with the items after them. -/
def joined? (x : Shape) (token : String) (items : List Item) : Option Shape :=
  match BinaryOp.read? token with
  | some op =>
    match items with
    | [operand y] => some (.binary op x y)
    | _ => none
  | none => do
    let op ← LogicalOp.read? token
    let operands ← chain? token items
    return .logical op (x :: operands)

/-- The tree of a phrase: an operand, an operator with its operands or a connective between
operands. -/
def shape? : List Item → Option Shape
  | [operand x] => some x
  | [operator token, operand x] => (UnaryOp.read? .before token).map (.unary · x)
  | [operand x, operator token] => (UnaryOp.read? .after token).map (.unary · x)
  | operand x :: operator token :: items => joined? x token items
  | _ => none

/-- A phrase that goes on after its first operator. -/
theorem shape?_joined (x : Shape) (token : String) {items : List Item} (h : items ≠ []) :
    shape? (operand x :: operator token :: items) = joined? x token items := by
  cases items with
  | nil => exact absurd rfl h
  | cons item items => rfl

end Item

/-- An open level: the operands that a comma ended, and the items since, last one first. -/
structure Level where
  operands : List Shape := []
  items : List Item := []

namespace Level

/-- The level as a single operand. -/
def shape? (level : Level) : Option Shape :=
  if level.operands.isEmpty then Item.shape? level.items.reverse else none

/-- The level as the operands of a function. -/
def operands? (level : Level) : Option (List Shape) :=
  if level.items.isEmpty && level.operands.isEmpty then some []
  else (Item.shape? level.items.reverse).map fun x => level.operands ++ [x]

def push (level : Level) (item : Item) : Level :=
  { level with items := item :: level.items }

/-- Puts an inner level into the one around it: operands of the function that was named right
before, or else a parenthesized operand. -/
def close (inner level : Level) : Option Level :=
  match level.items with
  | .function name :: items =>
    inner.operands?.map fun xs => { level with items := .operand (.call name xs) :: items }
  | _ => inner.shape?.map fun x => level.push (.operand x)

end Level

/-- The levels that are open, from the inside to the outside. -/
structure Reader where
  level : Level := {}
  outer : List Level := []

namespace Reader

def push (reader : Reader) (item : Item) : Reader :=
  { reader with level := reader.level.push item }

/-- Reads one token. -/
def step (reader : Reader) : Token → Option Reader
  | .leaf text => some (reader.push (.operand (.leaf text)))
  | .operator token => some (reader.push (.operator token))
  | .function name => some (reader.push (.function name))
  | .opening => some ⟨{}, reader.level :: reader.outer⟩
  | .comma =>
    (Item.shape? reader.level.items.reverse).map fun x =>
      { reader with level := ⟨reader.level.operands ++ [x], []⟩ }
  | .closing =>
    match reader.outer with
    | [] => none
    | level :: outer => (reader.level.close level).map fun level => ⟨level, outer⟩

def run (reader : Reader) : List Token → Option Reader
  | [] => some reader
  | token :: tokens => (reader.step token).bind fun after => after.run tokens

/-- The tree that was read, if every level was closed again. -/
def finish (reader : Reader) : Option Shape :=
  match reader.outer with
  | [] => reader.level.shape?
  | _ => none

end Reader

/-- The tree of a sequence of tokens. -/
def Token.read (tokens : List Token) : Option Shape :=
  (Reader.run {} tokens).bind Reader.finish

-- ---------------------------------------------------------------------------
-- What the reader does with the tokens of a tree
-- ---------------------------------------------------------------------------

namespace Shape

/-- The items that the tokens of a tree leave on the level where they are read. -/
def items : Shape → List Item
  | leaf text => [.operand (leaf text)]
  | unary op x =>
    match op.fixity with
    | .before => [.operator op.token, .operand x]
    | .after => [.operand x, .operator op.token]
  | binary op left right => [.operand left, .operator op.token, .operand right]
  | logical op operands => (operands.map Item.operand).intersperse (.operator op.token)
  | call function operands => [.operand (call function operands)]

/-- A shape without an operator at its top is one item. -/
theorem items_of_not_isCompound {s : Shape} (h : s.isCompound = false) :
    s.items = [.operand s] := by
  cases s with
  | leaf text => rfl
  | call function operands => rfl
  | unary op operand => cases h
  | binary op left right => cases h
  | logical op operands => cases h

end Shape

namespace Reader

def pushAll (reader : Reader) (items : List Item) : Reader :=
  items.foldl push reader

/-- Whether a parenthesis that opens now does not belong to a function. -/
def Ready (reader : Reader) : Prop :=
  ∀ name, reader.level.items.head? ≠ some (.function name)

/-- Behind an operator an operand can follow. -/
theorem ready_push_operator (reader : Reader) (token : String) :
    (reader.push (.operator token)).Ready := by
  intro name h
  cases h

theorem ready_of_items_nil {reader : Reader} (h : reader.level.items = []) : reader.Ready := by
  intro name hHead
  rw [h] at hHead
  cases hHead

theorem run_append (reader : Reader) (left right : List Token) :
    reader.run (left ++ right) = (reader.run left).bind fun after => after.run right := by
  induction left generalizing reader with
  | nil => rfl
  | cons token left ih =>
    rw [List.cons_append, run, run, Option.bind_assoc]
    congr 1
    funext after
    exact ih after

/-- The last token of an inner level. -/
theorem run_closing (inner level : Level) (outer : List Level) :
    run ⟨inner, level :: outer⟩ [.closing] =
      (inner.close level).map fun closed => ⟨closed, outer⟩ := by
  show ((inner.close level).map fun closed => (⟨closed, outer⟩ : Reader)).bind some = _
  cases inner.close level <;> rfl

/-- Items that are pushed stand in front of the earlier ones, the last of them first. -/
theorem pushAll_eq (reader : Reader) (items : List Item) :
    reader.pushAll items =
      ⟨⟨reader.level.operands, items.reverse ++ reader.level.items⟩, reader.outer⟩ := by
  induction items generalizing reader with
  | nil => rfl
  | cons item items ih =>
    show (reader.push item).pushAll items = _
    rw [ih, List.reverse_cons, List.append_assoc]
    rfl

end Reader

/-- The reader takes the tokens of a tree for what they are: they leave the items of the tree on
the level where they are read, and these items have no other reading. -/
structure Shape.Reads (s : Shape) : Prop where
  run : ∀ reader : Reader, reader.Ready → reader.run s.tokens = some (reader.pushAll s.items)
  shape : Item.shape? s.items = some s

namespace Shape.Reads

variable {s : Shape} {reader : Reader}

/-- No shape that can be read is without items. -/
theorem items_ne_nil (h : s.Reads) : s.items ≠ [] := by
  intro hNil
  have hShape := h.shape
  rw [hNil] at hShape
  cases hShape

/-- Between parentheses a tree becomes one operand. -/
theorem run_parenthesized (h : s.Reads) (hReady : reader.Ready) :
    reader.run (Token.parenthesized s.tokens) = some (reader.push (.operand s)) := by
  -- no function is named on the new level, and the name that may wait below it is out of reach
  have hInner : Reader.run ⟨{}, reader.level :: reader.outer⟩ s.tokens =
      some ⟨⟨[], s.items.reverse⟩, reader.level :: reader.outer⟩ := by
    rw [h.run _ (Reader.ready_of_items_nil rfl), Reader.pushAll_eq, List.append_nil]
  have hShape : Level.shape? ⟨[], s.items.reverse⟩ = some s := by
    show Item.shape? s.items.reverse.reverse = some s
    rw [List.reverse_reverse, h.shape]
  have hClose : Level.close ⟨[], s.items.reverse⟩ reader.level =
      some (reader.level.push (.operand s)) := by
    unfold Level.close
    split
    · rename_i name items hItems
      exact absurd (by rw [hItems]; rfl) (hReady name)
    · rw [hShape]
      rfl
  show Reader.run ⟨{}, reader.level :: reader.outer⟩ (s.tokens ++ [.closing]) = _
  rw [Reader.run_append, hInner, Option.bind_some, Reader.run_closing, hClose]
  rfl

/-- An operand is read as one item, with parentheses or without. -/
theorem run_operand (h : s.Reads) (hReady : reader.Ready) :
    reader.run (Token.operand s.isCompound s.tokens) = some (reader.push (.operand s)) := by
  unfold Token.operand
  cases hCompound : s.isCompound with
  | true => exact h.run_parenthesized hReady
  | false =>
    rw [if_neg Bool.false_ne_true, h.run reader hReady, items_of_not_isCompound hCompound]
    rfl

-- ---------------------------------------------------------------------------
-- One node at a time
-- ---------------------------------------------------------------------------

theorem leaf (text : String) : (Shape.leaf text).Reads :=
  ⟨fun _ _ => rfl, rfl⟩

/-- An operand with a prefix or postfix operator is read as that. -/
theorem unary (op : UnaryOp) (h : s.Reads) : (Shape.unary op s).Reads := by
  have hToken := op.read?_token
  constructor
  case run =>
    intro reader hReady
    rw [tokens, Token.unary, items]
    cases hFixity : op.fixity with
    | before =>
      have hOperator : reader.run [.operator op.token] =
          some (reader.push (.operator op.token)) := rfl
      show reader.run ([.operator op.token] ++ _) = _
      rw [Reader.run_append, hOperator, Option.bind_some,
        h.run_operand (reader.ready_push_operator op.token)]
      rfl
    | after =>
      show reader.run (_ ++ [.operator op.token]) = _
      rw [Reader.run_append, h.run_operand hReady]
      rfl
  case shape =>
    rw [items]
    cases hFixity : op.fixity with
    | before =>
      show (UnaryOp.read? .before op.token).map (Shape.unary · s) = _
      rw [← hFixity, hToken]
      rfl
    | after =>
      show (UnaryOp.read? .after op.token).map (Shape.unary · s) = _
      rw [← hFixity, hToken]
      rfl

/-- Two operands with an operator between them are read as a binary operation. -/
theorem binary (op : BinaryOp) {left right : Shape} (hLeft : left.Reads) (hRight : right.Reads) :
    (Shape.binary op left right).Reads := by
  constructor
  case run =>
    intro reader hReady
    have hOperator : (reader.push (.operand left)).run [.operator op.token] =
        some ((reader.push (.operand left)).push (.operator op.token)) := rfl
    rw [tokens, Token.binary, Reader.run_append, Reader.run_append, hLeft.run_operand hReady,
      Option.bind_some, hOperator, Option.bind_some,
      hRight.run_operand (Reader.ready_push_operator _ op.token)]
    rfl
  case shape =>
    show Item.joined? left op.token [.operand right] = _
    rw [Item.joined?, op.read?_token]

/-- Parenthesized operands with a connective between each two of them. -/
theorem run_connected (op : LogicalOp) (first : Shape) (rest : List Shape)
    (h : ∀ x ∈ first :: rest, x.Reads) (hReady : reader.Ready) :
    reader.run (Token.connected op ((first :: rest).map tokens)) =
      some (reader.pushAll
        (((first :: rest).map Item.operand).intersperse (.operator op.token))) := by
  induction rest generalizing first reader with
  | nil =>
    have hFirst := (h first (List.mem_cons_self ..)).run_parenthesized hReady
    rw [Token.connected]
    simp only [List.map_cons, List.map_nil, List.intercalate_singleton]
    rw [hFirst]
    rfl
  | cons second rest ih =>
    have hFirst := (h first (List.mem_cons_self ..)).run_parenthesized hReady
    have hOperator : (reader.push (.operand first)).run [.operator op.token] =
        some ((reader.push (.operand first)).push (.operator op.token)) := rfl
    -- the connective stands on top now, so the next parenthesis belongs to no function
    have hRest := ih second (fun x hx => h x (List.mem_cons_of_mem _ hx))
      (Reader.ready_push_operator (reader.push (.operand first)) op.token)
    rw [Token.connected] at hRest ⊢
    simp only [List.map_cons] at hRest ⊢
    rw [List.intercalate_cons_cons, Reader.run_append, Reader.run_append, hFirst,
      Option.bind_some, hOperator, Option.bind_some, hRest, List.intersperse_cons_cons]
    rfl

/-- The reading of operands with a connective between each two of them. -/
theorem chain?_intersperse (token : String) (first : Shape) (rest : List Shape) :
    Item.chain? token (((first :: rest).map Item.operand).intersperse (.operator token)) =
      some (first :: rest) := by
  induction rest generalizing first with
  | nil => rfl
  | cons second rest ih =>
    have hRest := ih second
    simp only [List.map_cons] at hRest ⊢
    rw [List.intersperse_cons_cons, Item.chain?, if_pos rfl, hRest]
    rfl

/-- Two operands or more with one connective between each two of them are read as that connective.
-/
theorem logical (op : LogicalOp) {operands : List Shape} (hTwo : 2 ≤ operands.length)
    (h : ∀ x ∈ operands, x.Reads) : (Shape.logical op operands).Reads := by
  obtain ⟨first, second, rest, rfl⟩ : ∃ first second rest, operands = first :: second :: rest := by
    match operands, hTwo with
    | first :: second :: rest, _ => exact ⟨first, second, rest, rfl⟩
  constructor
  case run =>
    intro reader hReady
    rw [tokens, tokensAll_eq_map]
    exact run_connected op first (second :: rest) h hReady
  case shape =>
    have hChain := chain?_intersperse op.token second rest
    rw [items]
    simp only [List.map_cons] at hChain ⊢
    rw [List.intersperse_cons_cons]
    have hItems : ((Item.operand second :: rest.map Item.operand).intersperse
        (.operator op.token)) ≠ [] := by
      intro hNil
      rw [hNil] at hChain
      cases hChain
    rw [Item.shape?_joined first op.token hItems, Item.joined?, BinaryOp.read?_logical,
      op.read?_token, hChain]
    rfl

/-- Operands with commas between them, after those that a comma ended already. -/
theorem run_operands_after (done : List Shape) (outer : List Level) (first : Shape)
    (rest : List Shape) (h : ∀ x ∈ first :: rest, x.Reads) :
    ∃ level, Reader.run ⟨⟨done, []⟩, outer⟩
          ([Token.comma].intercalate ((first :: rest).map tokens)) = some ⟨level, outer⟩ ∧
      level.operands? = some (done ++ first :: rest) := by
  induction rest generalizing first done with
  | nil =>
    have hFirst := h first (List.mem_cons_self ..)
    refine ⟨⟨done, first.items.reverse⟩, ?_, ?_⟩
    · simp only [List.map_cons, List.map_nil, List.intercalate_singleton]
      rw [hFirst.run _ (Reader.ready_of_items_nil rfl), Reader.pushAll_eq, List.append_nil]
    · have hItems : first.items.reverse.isEmpty = false := by
        rw [List.isEmpty_reverse, List.isEmpty_eq_false_iff]
        exact hFirst.items_ne_nil
      rw [Level.operands?, List.reverse_reverse, hFirst.shape, hItems]
      rfl
  | cons second rest ih =>
    have hFirst := h first (List.mem_cons_self ..)
    obtain ⟨level, hRest, hOperands⟩ :=
      ih (done ++ [first]) second fun x hx => h x (List.mem_cons_of_mem _ hx)
    refine ⟨level, ?_, ?_⟩
    · have hComma : Reader.run ⟨⟨done, first.items.reverse⟩, outer⟩ [.comma] =
          some ⟨⟨done ++ [first], []⟩, outer⟩ := by
        show ((Item.shape? first.items.reverse.reverse).map _).bind _ = _
        rw [List.reverse_reverse, hFirst.shape]
        rfl
      simp only [List.map_cons] at hRest ⊢
      rw [List.intercalate_cons_cons, Reader.run_append, Reader.run_append,
        hFirst.run _ (Reader.ready_of_items_nil rfl), Reader.pushAll_eq, List.append_nil,
        Option.bind_some, hComma, Option.bind_some, hRest]
    · rw [hOperands, List.append_assoc]
      rfl

/-- The operands of a function on a level of their own. -/
theorem run_operands {operands : List Shape} (h : ∀ x ∈ operands, x.Reads) (outer : List Level) :
    ∃ level, Reader.run ⟨{}, outer⟩ ([Token.comma].intercalate (operands.map tokens)) =
        some ⟨level, outer⟩ ∧ level.operands? = some operands := by
  cases operands with
  | nil => exact ⟨{}, rfl, rfl⟩
  | cons first rest => exact run_operands_after [] outer first rest h

/-- A name before a tuple is read as a function. -/
theorem call (function : String) {operands : List Shape} (h : ∀ x ∈ operands, x.Reads) :
    (Shape.call function operands).Reads := by
  refine ⟨fun reader _ => ?_, rfl⟩
  -- the name goes on the level where the call stands, and its operands get a level of their own
  obtain ⟨level, hRun, hOperands⟩ :=
    run_operands h ((reader.push (.function function)).level :: reader.outer)
  have hClose : level.close (reader.push (.function function)).level =
      some (reader.level.push (.operand (.call function operands))) := by
    show (level.operands?.map fun xs => _) = _
    rw [hOperands]
    rfl
  rw [tokens, tokensAll_eq_map]
  show Reader.run ⟨{}, (reader.push (.function function)).level :: reader.outer⟩
    ([Token.comma].intercalate (operands.map tokens) ++ [.closing]) = _
  rw [Reader.run_append, hRun, Option.bind_some, Reader.run_closing, hClose]
  rfl

end Shape.Reads

-- ---------------------------------------------------------------------------
-- Whole trees
-- ---------------------------------------------------------------------------

namespace Shape.Formed

variable {s t : Shape}

/-- By induction on the tree, one node at a time. -/
theorem reads (h : s.Formed) : s.Reads := by
  induction h with
  | leaf text => exact .leaf text
  | unary op _ ih => exact ih.unary op
  | binary op _ _ ihLeft ihRight => exact .binary op ihLeft ihRight
  | logical op hTwo _ ih => exact .logical op hTwo ih
  | call function _ ih => exact .call function ih

/-- The tokens of a tree are read as the tree. -/
theorem read_tokens (h : s.Formed) : Token.read s.tokens = some s := by
  have hShape : Level.shape? ⟨[], s.items.reverse⟩ = some s := by
    show Item.shape? s.items.reverse.reverse = some s
    rw [List.reverse_reverse, h.reads.shape]
  rw [Token.read, h.reads.run _ (Reader.ready_of_items_nil rfl), Reader.pushAll_eq,
    List.append_nil]
  exact hShape

/-- Without parentheses two operators stay unread: nothing tells which one goes first. -/
example : Token.read [.leaf "a", .operator "+", .leaf "b", .operator "*", .leaf "c"] = none := rfl

/-- Trees with the same tokens are the same. -/
theorem eq_of_tokens (hs : s.Formed) (ht : t.Formed) (h : s.tokens = t.tokens) : s = t := by
  have hRead : some s = some t := by rw [← hs.read_tokens, ← ht.read_tokens, h]
  exact Option.some.inj hRead

end Shape.Formed

end QueryText

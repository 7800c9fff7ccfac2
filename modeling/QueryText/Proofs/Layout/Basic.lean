import QueryText.Render.Phrase
import QueryText.Statement.Update
import QueryText.Statement.Delete
import QueryText.Statement.Insert

/-!
# QueryText — layouts

A layout is what a tree is written as, worked out without a context: a list of pieces that
depends on the tree, on the naming at its place and, for a query, on whether it infers its FROM
list. Placeholders have their tag but no number yet, every name tells what it is there for, and
every piece tells which statements and predicates stand around it.

The phrases below are the forms of the language on layouts, one for each writer of the same
name; `Layout/Tree.lean` puts them together along the trees.
-/

namespace QueryText

-- ---------------------------------------------------------------------------
-- Pieces
-- ---------------------------------------------------------------------------

/-- What stands around a piece. A query in a frame is known by its tree: where the same query
stands twice in the same surroundings, both are written alike. -/
inductive Frame where
  /-- A SELECT that completes its own FROM list: a statement, a derived table or the rows of an
  INSERT. -/
  | query (query : Select)
  /-- An UPDATE or a DELETE, which completes its FROM or USING list. -/
  | change
  /-- A sub-query expression, which leaves its FROM list as it is. -/
  | subquery (query : Select)
  /-- The `ON` predicate of a join. -/
  | predicate

/-- Whether the statement adds the relations that it mentions to its list of tables. -/
def Frame.completes : Frame → Bool
  | query _ | change => true
  | subquery _ | predicate => false

/-- What a piece is written as. -/
inductive Atom where
  /-- SQL text. -/
  | text (text : String)
  /-- A name that neither qualifies nor declares anything. -/
  | name (name : String)
  /-- The name of a relation before one of its columns or before its star. -/
  | qualifier (relation : String)
  /-- The name by which an entry of a list of tables, or a target, is known. -/
  | declaration (relation : String)
  | argument (tag : String)
  /-- The space that ends a clause. -/
  | gap
  /-- A note that the relation after it was added to a list. -/
  | inference (inference : Inference)
  deriving DecidableEq

/-- An atom and what stands around it, outermost first. -/
structure Piece where
  path : List Frame
  atom : Atom

/-- The pieces of a text, in order. -/
abbrev Layout := List Piece

namespace Layout

/-- One piece with nothing around it. -/
def of (atom : Atom) : Layout := [⟨[], atom⟩]

def text (s : String) : Layout := of (.text s)

def name (s : String) : Layout := of (.name s)

def qualifier (relation : String) : Layout := of (.qualifier relation)

def declaration (relation : String) : Layout := of (.declaration relation)

def argument (tag : String) : Layout := of (.argument tag)

def gap : Layout := of .gap

/-- Puts a frame around a layout. -/
def inside (frame : Frame) (l : Layout) : Layout :=
  l.map fun piece => { piece with path := frame :: piece.path }

/-- A layout whose own declarations count as mere names: the relation below an alias is not known
by its name. -/
def anonymized (l : Layout) : Layout :=
  l.map fun
    | ⟨[], .declaration relation⟩ => ⟨[], .name relation⟩
    | piece => piece

-- ---------------------------------------------------------------------------
-- Expressions
-- ---------------------------------------------------------------------------

def column (naming : Naming) (relation name : String) : Layout :=
  if naming = .bare then Layout.name name
  else qualifier relation ++ text "." ++ Layout.name name

def allOf (naming : Naming) (relation : String) : Layout :=
  if naming = .bare then text "*" else qualifier relation ++ text ".*"

/-- A named expression, with the layout of the expression for where it is declared. -/
def named (naming : Naming) (inner : Layout) (name : String) : Layout :=
  if naming = .declaration then inner ++ text " " ++ Layout.name name else Layout.name name

def separated (separator : String) (layouts : List Layout) : Layout :=
  (text separator).intercalate layouts

def parenthesized (l : Layout) : Layout :=
  text "(" ++ l ++ text ")"

def tuple (items : List Layout) : Layout :=
  parenthesized (separated ", " items)

def call (function : String) (operands : List Layout) : Layout :=
  text function ++ tuple operands

def operand (compound : Bool) (l : Layout) : Layout :=
  if compound then parenthesized l else l

def unary (op : UnaryOp) (touching : Bool) (operand : Layout) : Layout :=
  match op.fixity with
  | .before =>
    text op.token ++ (if op.spaced || touching then text " " else []) ++ operand
  | .after => operand ++ (if op.spaced then text " " else []) ++ text op.token

def binary (op : BinaryOp) (left right : Layout) : Layout :=
  left ++ text (" " ++ op.token ++ " ") ++ right

def connected (op : LogicalOp) (operands : List Layout) : Layout :=
  separated (" " ++ op.token ++ " ") (operands.map parenthesized)

/-- Operands in the holes between pieces of raw SQL. -/
def filled (first : List Char) : List (List Char) → List Layout → Layout
  | [], _ => text (String.ofList first)
  | piece :: pieces, [] => text (String.ofList first) ++ text "?" ++ filled piece pieces []
  | piece :: pieces, l :: ls => text (String.ofList first) ++ l ++ filled piece pieces ls

def raw (sql : String) (operands : List Layout) : Layout :=
  filled (Raw.pieces {} sql.toList).1 (Raw.pieces {} sql.toList).2 operands

-- ---------------------------------------------------------------------------
-- Queries inside queries, and joins
-- ---------------------------------------------------------------------------

def subquery (op : SubqueryOp) (query : Select) (body : Layout) : Layout :=
  text (op.token ++ " (") ++ inside (.subquery query) body ++ text ")"

def derived (query : Select) (body : Layout) (name : String) : Layout :=
  text "(" ++ inside (.query query) body ++ text ") " ++ declaration name

def onPredicate : Option Layout → Layout
  | none => []
  | some condition => text " ON " ++ inside .predicate (parenthesized condition)

def join (kind : JoinKind) (left : Layout) (grouped : Bool) (right : Layout)
    (predicate : Option Layout) : Layout :=
  left ++ text (" " ++ kind.keyword ++ " ") ++ operand grouped right ++ onPredicate predicate

-- ---------------------------------------------------------------------------
-- Clauses
-- ---------------------------------------------------------------------------

def clause (keyword : String) (body : Layout) : Layout :=
  text (keyword ++ " ") ++ body

/-- A clause with a list, or no clause for the empty list. -/
def listClause (keyword : String) (items : List Layout) : List Layout :=
  if items.isEmpty then [] else [clause keyword (separated ", " items)]

def condition : List Layout → Layout
  | [l] => l
  | ls => connected .and ls

def conditionClause (keyword : String) (predicates : List Layout) : List Layout :=
  if predicates.isEmpty then [] else [clause keyword (condition predicates)]

def selectClause (items : List Layout) : Layout :=
  if items.isEmpty then text "SELECT" else clause "SELECT" (separated ", " items)

def countClause (keyword : String) : Option Nat → List Layout
  | none => []
  | some count => [clause keyword (text (toString count))]

/-- An entry that was added to a list. -/
def inferred (keyword : String) (entry : Entry Layout) : Layout :=
  of (.inference ⟨entry.relation.name, keyword⟩) ++ entry.declare

def tableClause (keyword : String) (listed : List Layout) (missing : List (Entry Layout)) :
    List Layout :=
  listClause keyword (listed ++ missing.map (inferred keyword))

/-- Clauses with one space between each two of them. -/
def spaced (clauses : List Layout) : Layout :=
  gap.intercalate clauses

/-- Clauses with one space after each of them. -/
def closed (clauses : List Layout) : Layout :=
  clauses.flatMap (· ++ gap)

end Layout

/-- The naming of the parts of an expression: only the top of a list of items declares its
alias. -/
def Naming.inner : Naming → Naming
  | declaration => .reference
  | naming => naming

/-- Only where aliases are declared, parts are named in another way than the whole. -/
theorem Naming.inner_of_ne {naming : Naming} (h : naming ≠ .declaration) :
    naming.inner = naming := by
  cases naming with
  | declaration => exact absurd rfl h
  | reference => rfl
  | bare => rfl

end QueryText

import QueryText.Raw
import QueryText.Render.Writer

/-!
# QueryText — phrases

The forms of the language, each as a writer made from the writers of its parts: what stands
around the parts and between them, and in which surroundings they are written. Nothing here
looks into a tree.
-/

namespace QueryText.Writer

/-! ## Columns and names -/

def column (relation name : String) : Writer := do
  if (← get).naming = .bare then Writer.name name
  else
    Writer.name relation
    text "."
    Writer.name name

def allOf (relation : String) : Writer := do
  if (← get).naming = .bare then text "*"
  else
    Writer.name relation
    text ".*"

/-- Writes a named expression: declared with the expression, referred to by name. -/
def named (inner : Writer) (name : String) : Writer := do
  if (← get).naming = .declaration then
    within .reference inner
    text " "
  Writer.name name

/-! ## Lists and operators -/

def tuple (items : List Writer) : Writer :=
  parenthesized (separated ", " (items.map part))

def call (function : String) (operands : List Writer) : Writer := do
  text function
  tuple operands

/-- Writes an operand, between parentheses if it has operators of its own. -/
def operand (compound : Bool) (w : Writer) : Writer :=
  if compound then parenthesized (part w) else part w

/-- Writes an operator on the side of its operand where it belongs. A space parts them if the
operator is a word, or if the operand touches it with a character that would read as its
continuation. -/
def unary (op : UnaryOp) (touching : Bool) (operand : Writer) : Writer :=
  match op.fixity with
  | .before => do
    text op.token
    if op.spaced || touching then text " "
    operand
  | .after => do
    operand
    if op.spaced then text " "
    text op.token

def binary (op : BinaryOp) (left right : Writer) : Writer := do
  left
  text (" " ++ op.token ++ " ")
  right

/-- Writes operands joined by a connective, each of them between parentheses. -/
def connected (op : LogicalOp) (operands : List Writer) : Writer :=
  separated (" " ++ op.token ++ " ") (operands.map fun w => parenthesized (part w))

/-! ## Raw SQL -/

/-- Puts operands into the holes between pieces of text. A hole without an operand stays a
question mark, and an operand without a hole is not written. -/
def filled (first : List Char) : List (List Char) → List Writer → Writer
  | [], _ => text (String.ofList first)
  | piece :: pieces, [] => do
    text (String.ofList first)
    text "?"
    filled piece pieces []
  | piece :: pieces, w :: ws => do
    text (String.ofList first)
    w
    filled piece pieces ws

/-- Writes raw SQL with operands in its holes. -/
def raw (sql : String) (operands : List Writer) : Writer :=
  let (first, rest) := Raw.pieces {} sql.toList
  filled first rest (operands.map part)

/-! ## Queries inside queries -/

/-- Writes a sub-query, whose own FROM list is as given: what it mentions beyond that belongs to
the query around it. -/
def subquery (op : SubqueryOp) (query : Writer) : Writer := do
  text (op.token ++ " (")
  inferring false query
  dropGap
  text ")"

/-- Writes a derived table. Nothing inside it is visible outside, so it infers its own FROM list
wherever it stands. -/
def derived (query : Writer) (name : String) : Writer := do
  text "("
  inferringAsAtStart query
  dropGap
  text ") "
  Writer.name name

/-- Writes a join. A join on the right is put between parentheses to keep its own predicate. -/
def join (kind : JoinKind) (left : Writer) (grouped : Bool) (right predicate : Writer) :
    Writer := do
  left
  text (" " ++ kind.keyword ++ " ")
  if grouped then parenthesized right else right
  predicate

/-! ## Clauses -/

/-- Writes a clause: its keyword, its body and the space that ends it. -/
def clause (keyword : String) (body : Writer) : Writer := do
  text (keyword ++ " ")
  body
  gap

def keywordClause (keyword : String) : Writer := do
  text keyword
  gap

/-- Writes a clause unless its list is empty. -/
def listClause (keyword : String) (items : List Writer) : Writer :=
  if items.isEmpty then nothing else clause keyword (separated ", " items)

/-- Writes a condition: one predicate as it is, several of them connected. -/
def condition : List Writer → Writer
  | [w] => w
  | ws => connected .and ws

/-- Writes a clause of predicates unless there is none. -/
def conditionClause (keyword : String) (predicates : List Writer) : Writer :=
  if predicates.isEmpty then nothing else clause keyword (condition predicates)

/-- Writes items that declare the names they are given. -/
def itemClause (keyword : String) (items : List Writer) : Writer :=
  if items.isEmpty then nothing
  else clause keyword (within .declaration (separated ", " items))

/-- Writes the SELECT clause, which is there even without items. -/
def selectClause (items : List Writer) : Writer :=
  if items.isEmpty then keywordClause "SELECT" else itemClause "SELECT" items

def countClause (keyword : String) : Option Nat → Writer
  | none => nothing
  | some count => clause keyword (text (toString count))

end QueryText.Writer

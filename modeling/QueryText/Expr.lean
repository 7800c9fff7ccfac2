import QueryText.Json.Literal
import QueryText.Query
import QueryText.Text.Blank

/-!
# QueryText — expressions

Ways to build expressions beyond the bare constructors, and questions about the top of a tree.
-/

namespace QueryText.Expr

/-! ## Building -/

/-- A placeholder. Blanks around the tag do not count; an empty tag is an anonymous argument. -/
def arg (tag : String) : Expr :=
  .argument (Text.trim tag)

def ofDatum (datum : Datum) : Expr :=
  .literal datum.literal

def array (data : List Datum) : Expr :=
  ofDatum (.array data)

def tuple (data : List Datum) : Expr :=
  .literal (Datum.tuple data)

/-- The literal of a JSON value, if it has one. -/
def ofJson (value : Json) : Except Error Expr :=
  value.literal.map .literal

def null : Expr :=
  .literal "NULL"

/-- `DEFAULT`, as a value in VALUES or SET. -/
def default : Expr :=
  .raw "DEFAULT" []

/-- `NOT` before a parenthesized operand. -/
def negation (operand : Expr) : Expr :=
  .unary .not (.group operand)

def isNull (operand : Expr) : Expr :=
  .binary .is operand null

def isNotNull (operand : Expr) : Expr :=
  .binary .isNot operand null

/-- Connects any positive number of operands; without operands there is nothing to connect. -/
def connect (op : LogicalOp) (operands : List Expr) : Except Error Expr :=
  if operands.isEmpty then .error (.emptyLogical op) else .ok (.logical op operands)

/-- Both operands hold. -/
def both (left right : Expr) : Expr :=
  .logical .and [left, right]

/-- One of the operands holds. -/
def either (left right : Expr) : Expr :=
  .logical .or [left, right]

/-- The key that sorts by the expression, smallest first. -/
def ascending (expr : Expr) : SortKey :=
  ⟨expr, .asc⟩

/-- The key that sorts by the expression, largest first. -/
def descending (expr : Expr) : SortKey :=
  ⟨expr, .desc⟩

/-! ## Looking at the top -/

/-- Whether the expression is put between parentheses as the operand of an operator. -/
def isCompound : Expr → Bool
  | unary .. | binary .. | logical .. => true
  | _ => false

/-- The relation and the name of a column. -/
def column? : Expr → Option (Relation × String)
  | column relation name => some (relation, name)
  | _ => none

/-- The name of a named expression. -/
def givenName? : Expr → Option String
  | named _ name => some name
  | _ => none

/-- The characters that may form the name of an operator. -/
def isOperatorChar (c : Char) : Bool :=
  "+-*/<>=~!@#%^&|\x60?".toList.contains c

/-- The characters of verbatim SQL text, without the blanks at the start of raw SQL. -/
def verbatim : Expr → List Char
  | literal text => text.toList
  | raw sql _ => Text.trimStart sql.toList
  | _ => []

/-- Whether verbatim text starts with a character that an operator written right before it would
take for its own: `@-3` reads as one operator and `--3` as a comment. -/
def startsWithOperator (expr : Expr) : Bool :=
  expr.verbatim.head?.any isOperatorChar

end QueryText.Expr

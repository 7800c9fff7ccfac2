/-!
# QueryText — operators and keywords

The closed families of operators, join kinds and sort directions, each with the SQL token that
stands for it. Every table is a total match, so no operator text is built at run time.
-/

namespace QueryText

/-! ## Unary operators -/

/-- On which side of its operand a unary operator is written. -/
inductive Fixity where
  | before
  | after
  deriving DecidableEq, Repr

inductive UnaryOp where
  /-- Arithmetic negation, `-x`. -/
  | neg
  /-- Absolute value, `@x`. -/
  | abs
  /-- Factorial, `x!`. -/
  | factorial
  /-- Boolean negation, `NOT x`. -/
  | not
  deriving DecidableEq, Repr

namespace UnaryOp

/-- The SQL token. -/
def token : UnaryOp → String
  | neg => "-"
  | abs => "@"
  | factorial => "!"
  | not => "NOT"

/-- Only the factorial follows its operand. -/
def fixity : UnaryOp → Fixity
  | neg | abs | not => .before
  | factorial => .after

/-- Whether a space parts the token from its operand: a word needs one, a symbol does not. -/
def spaced : UnaryOp → Bool
  | not => true
  | neg | abs | factorial => false

end UnaryOp

/-! ## Binary and logical operators -/

inductive BinaryOp where
  | add
  | subtract
  | multiply
  | divide
  | modulo
  | power
  | is
  | isNot
  | greater
  | greaterEq
  | less
  | lessEq
  | equal
  | notEqual
  | like
  | notLike
  | similarTo
  | notSimilarTo
  /-- Regular expression match that minds case. -/
  | regex
  /-- Regular expression match that ignores case. -/
  | regexCaseless
  | notRegex
  | notRegexCaseless
  | contains
  | containedBy
  | concat
  | overlaps
  | isIn
  | notIn
  | bitAnd
  | bitOr
  | bitXor
  | shiftLeft
  | shiftRight
  deriving DecidableEq, Repr

/-- The SQL token. -/
def BinaryOp.token : BinaryOp → String
  | add => "+"
  | subtract => "-"
  | multiply => "*"
  | divide => "/"
  | modulo => "%"
  | power => "^"
  | is => "IS"
  | isNot => "IS NOT"
  | greater => ">"
  | greaterEq => ">="
  | less => "<"
  | lessEq => "<="
  | equal => "="
  | notEqual => "!="
  | like => "LIKE"
  | notLike => "NOT LIKE"
  | similarTo => "SIMILAR TO"
  | notSimilarTo => "NOT SIMILAR TO"
  | regex => "~"
  | regexCaseless => "~*"
  | notRegex => "!~"
  | notRegexCaseless => "!~*"
  | contains => "@>"
  | containedBy => "<@"
  | concat => "||"
  | overlaps => "&&"
  | isIn => "IN"
  | notIn => "NOT IN"
  | bitAnd => "&"
  | bitOr => "|"
  | bitXor => "#"
  | shiftLeft => "<<"
  | shiftRight => ">>"

inductive LogicalOp where
  | and
  | or
  deriving DecidableEq, Repr

def LogicalOp.token : LogicalOp → String
  | and => "AND"
  | or => "OR"

/-- Operators whose operand is a whole query. -/
inductive SubqueryOp where
  | exists
  | all
  | some
  | any
  deriving DecidableEq, Repr

def SubqueryOp.token : SubqueryOp → String
  | .exists => "EXISTS"
  | .all => "ALL"
  | .some => "SOME"
  | .any => "ANY"

/-! ## Joins and sort order -/

inductive JoinKind where
  | inner
  | leftOuter
  | rightOuter
  | fullOuter
  | natural
  deriving DecidableEq, Repr

namespace JoinKind

def keyword : JoinKind → String
  | inner => "INNER JOIN"
  | leftOuter => "LEFT OUTER JOIN"
  | rightOuter => "RIGHT OUTER JOIN"
  | fullOuter => "FULL OUTER JOIN"
  | natural => "NATURAL JOIN"

/-- Every kind takes an `ON` predicate except the natural join, whose columns imply it. -/
def needsPredicate : JoinKind → Bool
  | natural => false
  | inner | leftOuter | rightOuter | fullOuter => true

end JoinKind

/-- Sort directions; ascending unless said otherwise. -/
inductive Direction where
  | asc
  | desc
  deriving DecidableEq, Repr, Inhabited

def Direction.keyword : Direction → String
  | asc => "ASC"
  | desc => "DESC"

end QueryText

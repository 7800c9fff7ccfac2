import QueryText.Operator

/-!
# QueryText — errors

What can go wrong while a tree is built, a statement is rendered or values are bound. The
constructors are causes; `Error.message` is the only place where they become words.
-/

namespace QueryText

/-- Where the rows of an INSERT come from. -/
inductive RowOrigin where
  | values
  | query
  | defaults
  deriving DecidableEq, Repr

/-- How a row origin is named in a message. -/
def RowOrigin.describe : RowOrigin → String
  | values => "VALUES"
  | query => "a SELECT"
  | defaults => "DEFAULT VALUES"

/-- A statement that cannot be written because of how it was put together. -/
inductive Misuse where
  /-- An INSERT into something that is not a table. -/
  | notATable (name : String)
  | emptyRow
  | rowLength (found expected : Nat)
  | secondOrigin (present added : RowOrigin)
  | conflictWithoutAssignment
  | conflictWithoutTarget
  | insertWithoutRows
  | updateWithoutAssignment
  /-- A misuse that a caller of the library reports in its own words. -/
  | reported (text : String)
  deriving DecidableEq, Repr

def Misuse.message : Misuse → String
  | notATable name => "cannot INSERT INTO \"" ++ name ++ "\": not a table"
  | emptyRow => "VALUES row has no values"
  | rowLength found expected =>
    "VALUES row has " ++ toString found ++ " values, expected " ++ toString expected
  | secondOrigin present added =>
    "INSERT already has " ++ present.describe ++ " as its value source, cannot add " ++
      added.describe
  | conflictWithoutAssignment => "ON CONFLICT DO UPDATE requires at least one SET assignment"
  | conflictWithoutTarget => "ON CONFLICT DO UPDATE requires a conflict target"
  | insertWithoutRows => "INSERT requires VALUES, a SELECT or DEFAULT VALUES"
  | updateWithoutAssignment => "UPDATE requires at least one SET assignment"
  | reported text => text

/-- An argument slot that has no value: known by its tag, or by its number if it has none. -/
inductive EmptySlot where
  | tagged (tag : String)
  | anonymous (number : Nat)
  deriving DecidableEq, Repr

/-- How an empty slot is named in a message. -/
def EmptySlot.describe : EmptySlot → String
  | tagged tag => tag
  | anonymous number => "anonymous argument $" ++ toString number

/-- Everything that can be refused. -/
inductive Error where
  /-- A value without a literal form. -/
  | unsupportedLiteral (reason : String)
  /-- A connective without operands. -/
  | emptyLogical (op : LogicalOp)
  /-- An argument without a tag where placeholders are written by tag. -/
  | anonymousArgument
  | missingJoinPredicate (kind : JoinKind)
  | unexpectedJoinPredicate (kind : JoinKind)
  | misuse (cause : Misuse)
  | unknownColumn (table column : String)
  | missingArgument (slot : EmptySlot)
  deriving DecidableEq, Repr

namespace Error

def message : Error → String
  | unsupportedLiteral reason => "Unsupported literal: " ++ reason
  | emptyLogical op => op.token ++ " requires at least one operand"
  | anonymousArgument => "Anonymous arguments are not allowed with named placeholders"
  | missingJoinPredicate kind => kind.keyword ++ " requires an ON predicate"
  | unexpectedJoinPredicate kind => kind.keyword ++ " does not take an ON predicate"
  | misuse cause => "Build error: " ++ cause.message
  | unknownColumn table column => "Unknown column '" ++ column ++ "' in table '" ++ table ++ "'"
  | missingArgument slot => "Missing value for argument '" ++ slot.describe ++ "'"

/-- Whether the error is a misuse that shows only once the statement is rendered. -/
def isMisuse : Error → Bool
  | misuse _ => true
  | _ => false

/-- Whether the error is a slot without a value. -/
def isMissingArgument : Error → Bool
  | missingArgument _ => true
  | _ => false

end Error

end QueryText

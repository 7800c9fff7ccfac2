/-!
# QueryText — holes in raw SQL

A `?` outside quotes is a hole. Where the holes of a text are depends on the text alone: quotes
are opened and closed by an unescaped `'` or double quote, and a character is escaped when a
backslash stands right before it. The pieces between the holes are computed once, and operands
are put between the pieces.
-/

namespace QueryText.Raw

/-- What a reader knows between two characters: the quote it is inside of, and whether a
backslash stands right before. -/
structure Scan where
  quote : Option Char := none
  escaped : Bool := false
  deriving DecidableEq, Repr

namespace Scan

/-- Characters that open a quoted region. -/
def opensQuote (c : Char) : Bool :=
  c == '\x22' || c == '\''

/-- Whether the next character is a hole. -/
def atHole (scan : Scan) (c : Char) : Bool :=
  scan.quote.isNone && c == '?'

/-- The quote that is open after the next character. -/
def quoteAfter (scan : Scan) (c : Char) : Option Char :=
  if scan.escaped then scan.quote
  else
    match scan.quote with
    | some q => if c == q then none else some q
    | none => if opensQuote c then some c else none

/-- The reader after the next character. -/
def next (scan : Scan) (c : Char) : Scan :=
  ⟨scan.quoteAfter c, c == '\\'⟩

end Scan

/-- The text before the first hole, and the text after each hole. -/
def pieces (scan : Scan) : List Char → List Char × List (List Char)
  | [] => ([], [])
  | c :: cs =>
    let (first, rest) := pieces (scan.next c) cs
    if scan.atHole c then ([], first :: rest) else (c :: first, rest)

end QueryText.Raw

/-!
# QueryText — quoted identifiers

Every schema, table, column and alias name is written between double quotes, verbatim except
that a double quote inside is written twice. `Identifier.read` is the reader of that form: it
stops at the first double quote that is not followed by another one.
-/

namespace QueryText.Identifier

/-- The double quote, which opens and closes an identifier. -/
def delimiter : Char := '\x22'

/-- Writes every double quote twice. -/
def escape : List Char → List Char
  | [] => []
  | c :: cs => if c = delimiter then delimiter :: delimiter :: escape cs else c :: escape cs

def quoteChars (name : List Char) : List Char :=
  delimiter :: (escape name ++ [delimiter])

def quote (name : String) : String :=
  String.ofList (quoteChars name.toList)

/-- Reads the inside of an identifier: the name, and what follows the closing quote. -/
def readBody : List Char → Option (List Char × List Char)
  | [] => none
  | c :: cs =>
    if c = delimiter then
      match cs with
      | [] => some ([], [])
      | d :: ds =>
        if d = delimiter then (readBody ds).map fun (name, rest) => (delimiter :: name, rest)
        else some ([], d :: ds)
    else (readBody cs).map fun (name, rest) => (c :: name, rest)

/-- Reads a quoted identifier at the head of the text: its name and the rest of the text. -/
def read : List Char → Option (List Char × List Char)
  | [] => none
  | c :: cs => if c = delimiter then readBody cs else none

end QueryText.Identifier

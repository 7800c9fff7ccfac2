import QueryText.Calendar
import QueryText.Number.Shortest

/-!
# QueryText — host values and their literals

A datum is a value that can be written into SQL as a literal. It has two texts: the literal, and
the text of an element of an array literal. An array literal is quoted as a whole, so inside of
it a string stands between double quotes and an inner array has no quotes of its own.
Single quotes inside a string are written as they are.
-/

namespace QueryText

/-- A value with a literal form. -/
inductive Datum where
  | null
  | boolean (value : Bool)
  | integer (value : Int)
  /-- A floating point number, given by its bits. -/
  | float (format : Number.BinaryFormat) (bits : Nat)
  /-- A number with a fixed count of fraction digits: `mantissa / 10 ^ scale`. -/
  | decimal (mantissa : Int) (scale : Nat)
  | text (value : String)
  | date (value : Date)
  | time (value : TimeOfDay)
  | timestamp (value : Timestamp)
  | zonedTimestamp (value : ZonedTimestamp)
  /-- A universally unique identifier, given as a number of 128 bits. -/
  | uuid (value : Nat)
  | array (elements : List Datum)
  /-- A value of a type that writes its own literal. -/
  | custom (literal : String)

def booleanText (value : Bool) : String :=
  if value then "true" else "false"

/-- Texts with a comma and a space between each two. -/
def commaSeparated : List String → String
  | [] => ""
  | [s] => s
  | s :: t :: rest => s ++ ", " ++ commaSeparated (t :: rest)

def singleQuoted (s : String) : String :=
  "'" ++ s ++ "'"

/-- The text of an array body. -/
def braced (elements : List String) : String :=
  "\x7b" ++ commaSeparated elements ++ "\x7d"

/-- Puts a backslash before every double quote and every backslash. -/
def escapeElement : List Char → List Char
  | [] => []
  | c :: cs =>
    if c = '\x22' ∨ c = '\\' then '\\' :: c :: escapeElement cs else c :: escapeElement cs

/-- A string as an element of an array. -/
def textElement (s : String) : String :=
  String.ofList ('\x22' :: (escapeElement s.toList ++ ['\x22']))

/-- The text of a floating point number: the shortest decimal, in positional notation. What is
not a finite number is a quoted word. -/
def floatText (format : Number.BinaryFormat) (bits : Nat) : String :=
  match format.read bits with
  | .nan => "'NaN'"
  | .infinite negative => if negative then "'-Infinity'" else "'Infinity'"
  | .zero negative => if negative then "-0" else "0"
  | .finite negative magnitude =>
    (if negative then "-" else "") ++ (magnitude.shortest .up).positional

/-- The text of a number with a fixed count of fraction digits. -/
def decimalText (mantissa : Int) (scale : Nat) : String :=
  (if mantissa < 0 then "-" else "") ++ Number.Decimal.pointed mantissa.natAbs scale

/-- The text of a universally unique identifier: 32 hexadecimal digits in five groups. -/
def uuidText (value : Nat) : String :=
  let digits := Nat.toDigits 16 value
  let all := List.replicate (32 - digits.length) '0' ++ digits
  String.ofList (all.take 8 ++ '-' :: (all.drop 8).take 4 ++ '-' :: (all.drop 12).take 4 ++
    '-' :: (all.drop 16).take 4 ++ '-' :: all.drop 20)

namespace Datum

mutual

/-- The text of a datum as an element of an array literal. -/
def element : Datum → String
  | null => "NULL"
  | boolean value => booleanText value
  | integer value => toString value
  | float format bits => floatText format bits
  | decimal mantissa scale => decimalText mantissa scale
  | text value => textElement value
  | date value => singleQuoted value.text
  | time value => singleQuoted value.text
  | timestamp value => singleQuoted (value.text " ")
  | zonedTimestamp value => singleQuoted value.text
  | uuid value => singleQuoted (uuidText value)
  | array values => braced (elementTexts values)
  | custom literal => literal

def elementTexts : List Datum → List String
  | [] => []
  | value :: values => value.element :: elementTexts values

end

/-- The literal of a datum. Only strings and arrays are written in another way as elements. -/
def literal : Datum → String
  | text value => singleQuoted value
  | array values => singleQuoted (braced (elementTexts values))
  | value => value.element

/-- The literals of several data as a tuple. -/
def tuple (values : List Datum) : String :=
  "(" ++ commaSeparated (values.map literal) ++ ")"

end Datum

end QueryText

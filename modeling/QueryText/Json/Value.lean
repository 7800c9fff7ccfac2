import QueryText.Json.Tree
import QueryText.Number.Rounding
import QueryText.Number.Shortest

/-!
# QueryText — JSON values

JSON values without the accidents of their text: the members of an object are in the order of
their keys with each key once, and a number is an integer of at most 64 bits or a floating point
number. `Json.compact` is the text without spaces.
-/

namespace QueryText

/-- A number in a JSON value. -/
inductive JsonNumber where
  | integer (value : Int)
  /-- A finite floating point number of 64 bits. -/
  | float (bits : Nat)
  deriving DecidableEq, Repr

inductive Json where
  | null
  | boolean (value : Bool)
  | number (value : JsonNumber)
  | string (value : String)
  | array (items : List Json)
  | object (members : List (String × Json))

namespace JsonNumber

/-- Whether an integer is in the range of signed or of unsigned integers of 64 bits. -/
def inRange (value : Int) : Bool :=
  -(Number.twoTo 63) ≤ value && value < Number.twoTo 64

/-- The number that a text stands for: an integer if it is written as one, in range and not a
negative zero, and the nearest floating point number otherwise. -/
def ofText? (text : Json.NumberText) : Option JsonNumber :=
  let value : Int := if text.negative then -text.digits else text.digits
  -- A negative zero is no integer.
  if text.whole && inRange value && !(text.negative && text.digits == 0) then
    some (.integer value)
  else
    (Number.binary64.ofDecimal? text.negative ⟨text.digits, text.exponent - text.places⟩).map
      .float

/-- The text of a positive number: positional from `1e-5` to below `1e16`, with at least one
digit after the point, and scientific otherwise. -/
def magnitudeText (magnitude : Number.Magnitude) : String :=
  let decimal := magnitude.shortest .toEven
  if -5 ≤ decimal.leadingExponent ∧ decimal.leadingExponent < 16 then
    decimal.positional ++ (if decimal.exponent < 0 then "" else ".0")
  else decimal.scientific

def text : JsonNumber → String
  | integer value => toString value
  | float bits =>
    match Number.binary64.read bits with
    | .zero negative => if negative then "-0.0" else "0.0"
    | .finite negative magnitude => (if negative then "-" else "") ++ magnitudeText magnitude
    | .infinite _ | .nan => "null"

end JsonNumber

namespace Json

/-! ## Reading -/

/-- Puts a member into its place in the order of the keys. A member of the same key is
replaced. -/
def insertMember (key : String) (value : Json) :
    List (String × Json) → List (String × Json)
  | [] => [(key, value)]
  | (name, old) :: members =>
    if key = name then (name, value) :: members
    else if key < name then (key, value) :: (name, old) :: members
    else (name, old) :: insertMember key value members

/-- The deepest nesting of arrays and objects that is read. -/
def maxDepth : Nat := 127

mutual

/-- The value of a tree whose arrays and objects are nested at most so deep. -/
def ofTree? (depth : Nat) : Tree → Option Json
  | .null => some .null
  | .boolean value => some (.boolean value)
  | .number text => (JsonNumber.ofText? text).map .number
  | .string pieces => (textOf? pieces).map fun text => .string (String.ofList text)
  | .array items => if depth = 0 then none else (ofTrees? (depth - 1) items).map .array
  | .object members =>
    if depth = 0 then none else (ofMembers? (depth - 1) [] members).map .object

def ofTrees? (depth : Nat) : List Tree → Option (List Json)
  | [] => some []
  | tree :: trees => do
    let value ← ofTree? depth tree
    let values ← ofTrees? depth trees
    return value :: values

/-- The members of an object after those that were read before; of a repeated key the last value
counts. -/
def ofMembers? (depth : Nat) (before : List (String × Json)) :
    List (List Piece × Tree) → Option (List (String × Json))
  | [] => some before
  | (key, tree) :: members => do
    let name ← textOf? key
    let value ← ofTree? depth tree
    ofMembers? depth (insertMember (String.ofList name) value before) members

end

def parse? (text : String) : Option Json :=
  (Tree.parse? text).bind (ofTree? maxDepth)

/-! ## Writing -/

/-- A character of a string, with an escape if it needs one. -/
def escapeChar (c : Char) : List Char :=
  if c = '\x22' then ['\\', '\x22']
  else if c = '\\' then ['\\', '\\']
  else if c = '\x08' then ['\\', 'b']
  else if c = '\x0c' then ['\\', 'f']
  else if c = '\n' then ['\\', 'n']
  else if c = '\r' then ['\\', 'r']
  else if c = '\t' then ['\\', 't']
  else if c.toNat < 0x20 then
    ['\\', 'u', '0', '0', Nat.digitChar (c.toNat / 16), Nat.digitChar (c.toNat % 16)]
  else [c]

/-- A string between double quotes. -/
def quoted (s : String) : String :=
  String.ofList ('\x22' :: (s.toList.flatMap escapeChar ++ ['\x22']))

mutual

/-- The text of a value without spaces. -/
def compact : Json → String
  | null => "null"
  | boolean value => if value then "true" else "false"
  | number value => value.text
  | string value => quoted value
  | array items => "[" ++ ",".intercalate (compactItems items) ++ "]"
  | object members => "\x7b" ++ ",".intercalate (compactMembers members) ++ "\x7d"

def compactItems : List Json → List String
  | [] => []
  | item :: items => item.compact :: compactItems items

/-- The texts of the members of an object. -/
def compactMembers : List (String × Json) → List String
  | [] => []
  | (key, value) :: members => (quoted key ++ ":" ++ value.compact) :: compactMembers members

end

end Json

end QueryText

import QueryText.Datum
import QueryText.Error
import QueryText.Json.Value

/-!
# QueryText — literals of JSON values

Scalars and flat arrays of scalars have a literal form. An object has none, and neither has an
array inside an array.
-/

namespace QueryText.Json

/-- Whether a value holds other values. -/
def isContainer : Json → Bool
  | array _ | object _ => true
  | _ => false

/-- The text of a scalar as an element of an array. -/
def elementText : Json → String
  | null => "NULL"
  | boolean value => booleanText value
  | number value => value.text
  | string value => textElement value
  | value => value.compact

/-- The texts of the elements of an array, of which none may hold other values. -/
def elementTexts : List Json → Except Error (List String)
  | [] => .ok []
  | item :: items =>
    if item.isContainer then
      .error (.unsupportedLiteral ("nested JSON value in array: " ++ item.compact))
    else (elementTexts items).map (item.elementText :: ·)

/-- The literal of a value, if it has one. -/
def literal : Json → Except Error String
  | array items => (elementTexts items).map fun texts => singleQuoted (braced texts)
  | object members =>
    .error (.unsupportedLiteral ("JSON object: " ++ (Json.object members).compact))
  | string value => .ok (singleQuoted value)
  | value => .ok value.elementText

end QueryText.Json

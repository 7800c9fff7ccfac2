import QueryText.Identifier
import QueryText.Render.Options

/-!
# QueryText — fragments

The pieces a rendering is made of. They do not depend on the placeholder style: a placeholder
keeps both its tag and the number of its slot, and the style decides only how it is spelled.
-/

namespace QueryText

/-- One piece of written SQL. -/
inductive Fragment where
  /-- A keyword, an operator, punctuation or the text of a literal. -/
  | text (text : String)
  /-- A name, written as a quoted identifier. -/
  | name (name : String)
  /-- The placeholder of an argument: its tag and the number of its slot. -/
  | placeholder (tag : String) (number : Nat)
  /-- The space that ends a clause. -/
  | gap
  deriving DecidableEq, Repr, Inhabited

/-- The text of a fragment. -/
def Fragment.spell (style : PlaceholderStyle) : Fragment → String
  | text s => s
  | name n => Identifier.quote n
  | placeholder tag number =>
    match style with
    | .positional => "$" ++ toString number
    | .named => ":" ++ tag
  | gap => " "

/-- The text of a sequence of fragments. -/
def spellAll (style : PlaceholderStyle) (fragments : List Fragment) : String :=
  String.join (fragments.map (Fragment.spell style))

end QueryText

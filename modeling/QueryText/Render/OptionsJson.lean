import QueryText.Json.Tree
import QueryText.Render.Options

/-!
# QueryText — options as JSON

The JSON form of rendering options. A style is a word, or an object with the word as its only
key and nothing as its value.
-/

namespace QueryText

open Json (Tree)

namespace PlaceholderStyle

def ofWord? (word : String) : Option PlaceholderStyle :=
  if word = "positional" then some .positional
  else if word = "named" then some .named
  else none

def word : PlaceholderStyle → String
  | positional => "positional"
  | named => "named"

def ofTree? : Tree → Option PlaceholderStyle
  | .object [(key, .null)] => (Json.textOf? key).bind fun cs => ofWord? (String.ofList cs)
  | tree => tree.text?.bind ofWord?

end PlaceholderStyle

namespace Options

/-- Reads options; what is not said keeps its default. -/
def ofTree? (tree : Tree) : Option Options := do
  let default : Options := {}
  match ← tree.fields? ["placeholder", "auto_from"] with
  | [placeholder, inferring] =>
    return ⟨← Tree.optional? PlaceholderStyle.ofTree? default.placeholder placeholder,
      ← Tree.optional? Tree.boolean? default.inferring inferring⟩
  | _ => none

def parse? (text : String) : Option Options :=
  (Tree.parse? text).bind ofTree?

end Options

end QueryText

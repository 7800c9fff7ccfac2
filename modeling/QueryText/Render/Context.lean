import QueryText.Error
import QueryText.Render.ArgumentSlots
import QueryText.Render.Fragment

/-!
# QueryText — the context of a rendering pass

The context holds what was written so far, the argument slots, the options in force and the way
in which columns and aliases are written at the current place.
-/

namespace QueryText

/-- How columns and aliases are written at a place. -/
inductive Naming where
  /-- Columns with their qualifier, aliases by their name. -/
  | reference
  /-- As in `reference`, but an alias is written with the expression that it names. -/
  | declaration
  /-- Columns without their qualifier. -/
  | bare
  deriving DecidableEq, Repr, Inhabited

/-- A table that was added to a FROM or USING list. -/
structure Inference where
  relation : String
  keyword : String
  deriving DecidableEq, Repr, Inhabited

/-- The state of one rendering pass. -/
structure Context where
  /-- The options that the pass started with. -/
  initial : Options
  options : Options
  naming : Naming := .reference
  fragments : Array Fragment := #[]
  slots : ArgumentSlots := {}
  inferences : Array Inference := #[]

namespace Context

/-- The context at the start of a pass. -/
def start (options : Options) : Context :=
  { initial := options, options := options }

/-- The tag of each argument slot, in the order of the slots. -/
def arguments (ctx : Context) : Array String :=
  ctx.slots.tags

/-- The text written so far. -/
def text (ctx : Context) : String :=
  spellAll ctx.options.placeholder ctx.fragments.toList

def push (ctx : Context) (fragment : Fragment) : Context :=
  { ctx with fragments := ctx.fragments.push fragment }

/-- Takes the space that ends the last clause back, if it is the last thing written. -/
def dropGap (ctx : Context) : Context :=
  if ctx.fragments.back? = some .gap then { ctx with fragments := ctx.fragments.pop } else ctx

/-- Writes the placeholder of an argument, which takes a new slot if it has none. -/
def pushArgument (ctx : Context) (tag : String) : Context :=
  { ctx.push (.placeholder tag (ctx.slots.number tag)) with slots := ctx.slots.take tag }

/-- Records a table that is about to be added to a list. -/
def recordInference (ctx : Context) (relation keyword : String) : Context :=
  { ctx with inferences := ctx.inferences.push ⟨relation, keyword⟩ }

end Context

/-- A finished text with the tag of each argument slot: of slot `i + 1` with positional
placeholders, and each tag once with named ones. -/
structure Rendering where
  sql : String
  arguments : List String
  style : PlaceholderStyle
  deriving DecidableEq, Repr

/-- Drops one space at the end of a text. -/
def dropFinalSpace (s : String) : String :=
  if s.toList.getLast? = some ' ' then String.ofList s.toList.dropLast else s

/-- Ends a pass. The space after the last clause is not part of the result. -/
def Context.finish (ctx : Context) : Rendering :=
  ⟨dropFinalSpace ctx.text, ctx.arguments.toList, ctx.options.placeholder⟩

end QueryText

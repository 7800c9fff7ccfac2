import QueryText.Render.Context

/-!
# QueryText — writers

A writer adds text to a context, or fails and leaves in the context what it had written. Writers
are put together from the few combinators here; only `within` and `inferring` change how the
rest is written, and both put back what they found.
-/

namespace QueryText

/-- A step of a rendering pass. -/
abbrev Writer := EStateM Error Context Unit

namespace Writer

/-! ## Single pieces -/

/-- Applies a change that cannot fail. -/
def update (change : Context → Context) : Writer :=
  modify change

def nothing : Writer :=
  pure ()

def text (s : String) : Writer :=
  update fun ctx => ctx.push (.text s)

/-- Writes a quoted identifier. -/
def name (s : String) : Writer :=
  update fun ctx => ctx.push (.name s)

/-- Writes the space that ends a clause. -/
def gap : Writer :=
  update fun ctx => ctx.push .gap

/-- Takes back the space that ends the last clause. -/
def dropGap : Writer :=
  update Context.dropGap

def argument (tag : String) : Writer := do
  if (← get).options.placeholder = .named ∧ tag.isEmpty then throw .anonymousArgument
  update fun ctx => ctx.pushArgument tag

/-! ## Surroundings -/

/-- Runs a writer in changed surroundings, which are put back whether it succeeds or fails. -/
def surrounded (change : Context → Context) (w : Writer) : Writer := fun ctx =>
  -- Only these two are kept of the earlier context, so that its text need not be copied.
  let naming := ctx.naming
  let options := ctx.options
  match w (change ctx) with
  | .ok _ after => .ok () { after with naming := naming, options := options }
  | .error e after => .error e { after with naming := naming, options := options }

/-- Runs a writer with another way of writing columns and aliases. -/
def within (naming : Naming) (w : Writer) : Writer :=
  surrounded (fun ctx => { ctx with naming := naming }) w

/-- Runs a writer with inference switched on or off. -/
def inferring (on : Bool) (w : Writer) : Writer :=
  surrounded (fun ctx => { ctx with options := { ctx.options with inferring := on } }) w

/-- Runs a writer with inference as it was at the start of the pass. -/
def inferringAsAtStart (w : Writer) : Writer := do
  inferring (← get).initial.inferring w

/-- Writes a part of a larger expression: only the top of a list of items declares its alias. -/
def part (w : Writer) : Writer := do
  if (← get).naming = .declaration then within .reference w else w

/-! ## Sequences -/

/-- Runs writers with a text between each two of them. -/
def separated (separator : String) : List Writer → Writer
  | [] => nothing
  | [w] => w
  | w :: v :: ws => do
    w
    text separator
    separated separator (v :: ws)

/-- Runs a writer between parentheses. -/
def parenthesized (w : Writer) : Writer := do
  text "("
  w
  text ")"

end Writer

end QueryText

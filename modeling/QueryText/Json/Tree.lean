import QueryText.Json.Token

/-!
# QueryText — JSON trees

The tree of a JSON text, with everything that the text says: members of an object in their order
and with repeated keys, numbers and strings as they are written. A reader of a tree decides
which of them it accepts.
-/

namespace QueryText.Json

/-- A JSON text as a tree. -/
inductive Tree where
  | null
  | boolean (value : Bool)
  | number (text : NumberText)
  | string (pieces : List Piece)
  | array (items : List Tree)
  | object (members : List (List Piece × Tree))

/-- An array or object that is still open; what it holds so far is in reverse. -/
inductive Frame where
  | array (items : List Tree)
  /-- An object, with the key of the member that is being read. -/
  | object (members : List (List Piece × Tree)) (key : List Piece)

/-- What may come next. -/
inductive Expectation where
  | value
  | valueOrClose
  | key
  | keyOrClose
  | colon
  /-- A comma, or the end of the innermost array or object. -/
  | separator
  /-- Nothing: the text is complete. -/
  | nothing (tree : Tree)

/-- The state of a reader: the open arrays and objects, innermost first. -/
structure Reader where
  frames : List Frame
  expecting : Expectation

/-- Puts a value into the innermost open array or object. -/
def place (tree : Tree) : List Frame → Reader
  | [] => ⟨[], .nothing tree⟩
  | .array items :: frames => ⟨.array (tree :: items) :: frames, .separator⟩
  | .object members key :: frames => ⟨.object ((key, tree) :: members) [] :: frames, .separator⟩

/-- Reads a token that starts a value. -/
def Token.value? (frames : List Frame) : Token → Option Reader
  | .null => some (place .null frames)
  | .boolean value => some (place (.boolean value) frames)
  | .number text => some (place (.number text) frames)
  | .string pieces => some (place (.string pieces) frames)
  | .arrayOpen => some ⟨.array [] :: frames, .valueOrClose⟩
  | .objectOpen => some ⟨.object [] [] :: frames, .keyOrClose⟩
  | _ => none

/-- Reads a token that is a key of the innermost object. -/
def Token.key? (frames : List Frame) (token : Token) : Option Reader :=
  match token, frames with
  | .string key, .object members _ :: outer => some ⟨.object members key :: outer, .colon⟩
  | _, _ => none

/-- Reads a token that closes the innermost array or object. -/
def Token.close? (frames : List Frame) (token : Token) : Option Reader :=
  match token, frames with
  | .arrayClose, .array items :: outer => some (place (.array items.reverse) outer)
  | .objectClose, .object members _ :: outer => some (place (.object members.reverse) outer)
  | _, _ => none

/-- Reads a comma: in an array a value comes next, in an object a key. -/
def Token.comma? (frames : List Frame) (token : Token) : Option Reader :=
  match token, frames with
  | .comma, .array items :: outer => some ⟨.array items :: outer, .value⟩
  | .comma, .object members key :: outer => some ⟨.object members key :: outer, .key⟩
  | _, _ => none

/-- Reads a token. -/
def Reader.step? (reader : Reader) (token : Token) : Option Reader :=
  match reader.expecting with
  | .value => token.value? reader.frames
  | .valueOrClose => token.value? reader.frames <|> token.close? reader.frames
  | .key => token.key? reader.frames
  | .keyOrClose => token.key? reader.frames <|> token.close? reader.frames
  | .colon => if token = .colon then some ⟨reader.frames, .value⟩ else none
  | .separator => token.comma? reader.frames <|> token.close? reader.frames
  | .nothing _ => none

/-- The tree of a text, if the text is exactly one JSON value. -/
def Tree.parse? (text : String) : Option Tree := do
  let tokens ← tokens? .between text.toList
  let reader ← tokens.foldlM Reader.step? ⟨[], .value⟩
  match reader.expecting with
  | .nothing tree => some tree
  | _ => none

/-! ## Reading parts of a tree -/

/-- The text of string pieces. Units of the surrogate ranges stand for a character in pairs only;
one alone makes the string unreadable. -/
def textOf? : List Piece → Option (List Char)
  | [] => some []
  | .character c :: rest => (textOf? rest).map (c :: ·)
  | .unit high :: rest =>
    if 0xD800 ≤ high ∧ high < 0xDC00 then
      match rest with
      | .unit low :: more =>
        if 0xDC00 ≤ low ∧ low < 0xE000 then
          (textOf? more).map
            (Char.ofNat (0x10000 + (high - 0xD800) * 0x400 + (low - 0xDC00)) :: ·)
        else none
      | _ => none
    else if 0xDC00 ≤ high ∧ high < 0xE000 then none
    else (textOf? rest).map (Char.ofNat high :: ·)

namespace Tree

def text? : Tree → Option String
  | .string pieces => (textOf? pieces).map String.ofList
  | _ => none

def boolean? : Tree → Option Bool
  | .boolean value => some value
  | _ => none

def items? : Tree → Option (List Tree)
  | .array items => some items
  | _ => none

/-- The values of the fields with the given names, in that order. An object gives each field at
most once and may have members beyond them, whose values are not read; an array gives the fields
in order and may end early. -/
def fields? (names : List String) : Tree → Option (List (Option Tree))
  | .object members => do
    let members ← members.mapM fun (key, value) =>
      (textOf? key).map fun key => (String.ofList key, value)
    names.mapM fun name =>
      match members.filter fun (key, _) => key == name with
      | [] => some none
      | [(_, value)] => some (some value)
      | _ => none
  | .array items =>
    if names.length < items.length then none
    else some ((items.map some) ++ List.replicate (names.length - items.length) none)
  | _ => none

/-- Reads a field that has to be there. -/
def required? {α : Type} (read : Tree → Option α) (field : Option Tree) : Option α :=
  field.bind read

/-- Reads a field that has a default. -/
def optional? {α : Type} (read : Tree → Option α) (default : α) : Option Tree → Option α
  | none => some default
  | some tree => read tree

end Tree

end QueryText.Json

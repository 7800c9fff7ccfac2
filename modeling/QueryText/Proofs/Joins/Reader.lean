import QueryText.Operator

/-!
# QueryText — reading joins back

A tree of joins, down to the texts of its relations and predicates, is written as tokens: the left
side of a join as it is, the right side between parentheses if it is a join itself, and the
predicate behind both. The reader goes through the tokens once. At a keyword everything before it,
back to the last parenthesis that is still open, becomes the left side; so chains are read from
the left, and a join on the right is read from its own parentheses.

## Main results

* `JoinTree.Sound.run_tokens` — what the reader does with the tokens of a tree.
* `JoinTree.Sound.read_tokens` — the tokens of a tree are read as the tree.
* `JoinTree.Sound.eq_of_tokens` — trees with the same tokens are the same.
-/

namespace QueryText

-- ---------------------------------------------------------------------------
-- Kinds of join by their keywords
-- ---------------------------------------------------------------------------

def JoinKind.all : List JoinKind :=
  [inner, leftOuter, rightOuter, fullOuter, natural]

def JoinKind.read? (keyword : String) : Option JoinKind :=
  all.find? fun kind => kind.keyword = keyword

theorem JoinKind.read?_keyword (kind : JoinKind) : read? kind.keyword = some kind := by
  cases kind <;> decide

-- ---------------------------------------------------------------------------
-- Tokens and trees
-- ---------------------------------------------------------------------------

/-- A token of a from item. -/
inductive JoinToken where
  /-- The declaration of a relation. -/
  | source (text : String)
  | keyword (text : String)
  /-- A predicate, with the `ON` and the parentheses that belong to it. -/
  | on (predicate : String)
  | opening
  | closing
  deriving DecidableEq, Repr

namespace JoinToken

def text : JoinToken → String
  | source text => text
  | keyword text => " " ++ text ++ " "
  | on predicate => " ON (" ++ predicate ++ ")"
  | opening => "("
  | closing => ")"

/-- The text of tokens, with nothing between them. -/
def spell (tokens : List JoinToken) : String :=
  String.join (tokens.map text)

def operand (grouped : Bool) (tokens : List JoinToken) : List JoinToken :=
  if grouped then [opening] ++ tokens ++ [closing] else tokens

theorem spell_append (left right : List JoinToken) :
    spell (left ++ right) = spell left ++ spell right := by
  rw [spell, List.map_append, String.join_append]
  rfl

end JoinToken

/-- The tree of a from item, down to the texts of its relations and predicates. -/
inductive JoinTree where
  | leaf (text : String)
  | join (kind : JoinKind) (left right : JoinTree) (predicate : Option String)
  deriving DecidableEq, Repr

namespace JoinTree

def isJoin : JoinTree → Bool
  | leaf _ => false
  | join .. => true

/-- The tokens of a tree. -/
def tokens : JoinTree → List JoinToken
  | leaf text => [.source text]
  | join kind left right predicate =>
    left.tokens ++ [.keyword kind.keyword] ++ JoinToken.operand right.isJoin right.tokens ++
      (predicate.map .on).toList

/-- Every join has a predicate exactly if its kind needs one. -/
inductive Sound : JoinTree → Prop where
  | leaf (text : String) : Sound (.leaf text)
  | join {kind : JoinKind} {left right : JoinTree} {predicate : Option String}
    (hLeft : left.Sound) (hRight : right.Sound)
    (hPredicate : predicate.isSome = kind.needsPredicate) :
    Sound (.join kind left right predicate)

end JoinTree

-- ---------------------------------------------------------------------------
-- The reader
-- ---------------------------------------------------------------------------

/-- What was read since the last parenthesis that is still open. -/
inductive JoinLevel where
  | empty
  /-- A whole from item. -/
  | item (tree : JoinTree)
  /-- A left side and a keyword: the right side comes next. -/
  | joining (kind : JoinKind) (left : JoinTree)
  /-- Both sides of a join that needs a predicate, which comes next. -/
  | pending (kind : JoinKind) (left right : JoinTree)

/-- Puts a whole operand where one can stand: at the start, or on the right of a keyword. -/
def JoinLevel.put : JoinLevel → JoinTree → Option JoinLevel
  | empty, x => some (item x)
  | joining kind left, x =>
    some (if kind.needsPredicate then pending kind left x else item (.join kind left x none))
  | item _, _ | pending .., _ => none

/-- The levels that are open, from the inside to the outside. -/
structure JoinReader where
  level : JoinLevel := .empty
  outer : List JoinLevel := []

namespace JoinReader

def put (reader : JoinReader) (x : JoinTree) : Option JoinReader :=
  (reader.level.put x).map fun level => { reader with level := level }

/-- Reads one token. -/
def step (reader : JoinReader) : JoinToken → Option JoinReader
  | .source text => reader.put (.leaf text)
  | .keyword text =>
    match reader.level with
    | .item left => (JoinKind.read? text).map fun kind => ⟨.joining kind left, reader.outer⟩
    | _ => none
  | .on predicate =>
    match reader.level with
    | .pending kind left right =>
      some ⟨.item (.join kind left right (some predicate)), reader.outer⟩
    | _ => none
  | .opening => some ⟨.empty, reader.level :: reader.outer⟩
  | .closing =>
    match reader.level, reader.outer with
    | .item x, level :: outer => put ⟨level, outer⟩ x
    | _, _ => none

def run (reader : JoinReader) : List JoinToken → Option JoinReader
  | [] => some reader
  | token :: tokens => (reader.step token).bind fun after => after.run tokens

/-- The tree that was read, if nothing is open any more. -/
def finish (reader : JoinReader) : Option JoinTree :=
  match reader.level, reader.outer with
  | .item tree, [] => some tree
  | _, _ => none

theorem run_append (reader : JoinReader) (left right : List JoinToken) :
    reader.run (left ++ right) = (reader.run left).bind fun after => after.run right := by
  induction left generalizing reader with
  | nil => rfl
  | cons token left ih =>
    rw [List.cons_append, run, run, Option.bind_assoc]
    congr 1
    funext after
    exact ih after

theorem run_singleton (reader : JoinReader) (token : JoinToken) :
    reader.run [token] = reader.step token := by
  rw [run]
  cases reader.step token <;> rfl

end JoinReader

/-- The tree of a sequence of tokens. -/
def JoinToken.read (tokens : List JoinToken) : Option JoinTree :=
  (JoinReader.run {} tokens).bind JoinReader.finish

-- ---------------------------------------------------------------------------
-- What the reader does with the tokens of a tree
-- ---------------------------------------------------------------------------

namespace JoinTree.Sound

variable {s t : JoinTree}

/-- The right side of a join is one operand, be it a relation or a join between parentheses. -/
theorem run_operand (hRun : ∀ outer, JoinReader.run ⟨.empty, outer⟩ t.tokens =
      some ⟨.item t, outer⟩) (reader : JoinReader) :
    reader.run (JoinToken.operand t.isJoin t.tokens) = reader.put t := by
  cases t with
  | leaf text => exact reader.run_singleton (.source text)
  | join kind left right predicate =>
    show JoinReader.run ⟨.empty, reader.level :: reader.outer⟩ (tokens _ ++ [.closing]) = _
    rw [JoinReader.run_append, hRun, Option.bind_some, JoinReader.run_singleton]
    rfl

/-- From the start of a level, the tokens of a tree are read as the tree. By induction on the tree:
the left side is read from the start of the same level. -/
theorem run_tokens (h : t.Sound) (outer : List JoinLevel) :
    JoinReader.run ⟨.empty, outer⟩ t.tokens = some ⟨.item t, outer⟩ := by
  induction h generalizing outer with
  | leaf text => rfl
  | @join kind left right predicate hLeft hRight hPredicate ihLeft ihRight =>
    have hKeyword : JoinReader.run ⟨.item left, outer⟩ [.keyword kind.keyword] =
        some ⟨.joining kind left, outer⟩ := by
      rw [JoinReader.run_singleton, JoinReader.step, kind.read?_keyword]
      rfl
    rw [tokens, JoinReader.run_append, JoinReader.run_append, JoinReader.run_append, ihLeft,
      Option.bind_some, hKeyword, Option.bind_some, run_operand ihRight]
    -- the predicate is there exactly if the reader waits for one
    cases predicate with
    | none =>
      rw [JoinReader.put, JoinLevel.put, ← hPredicate]
      rfl
    | some predicate =>
      rw [JoinReader.put, JoinLevel.put, ← hPredicate]
      rfl

/-- The tokens of a tree are read as the tree. -/
theorem read_tokens (h : t.Sound) : JoinToken.read t.tokens = some t := by
  rw [JoinToken.read, h.run_tokens []]
  rfl

/-- Trees with the same tokens are the same. -/
theorem eq_of_tokens (hs : s.Sound) (ht : t.Sound) (h : s.tokens = t.tokens) : s = t := by
  have hRead : some s = some t := by rw [← hs.read_tokens, ← ht.read_tokens, h]
  exact Option.some.inj hRead

end JoinTree.Sound

/-- A join that waits for its predicate takes no further keyword. -/
example : JoinToken.read [.source "a", .keyword "INNER JOIN", .source "b",
    .keyword "NATURAL JOIN", .source "c"] = none := by
  decide

end QueryText

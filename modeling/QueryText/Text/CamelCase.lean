import QueryText.Text.Alphanumeric
import QueryText.Text.LetterCase

/-!
# QueryText — upper camel case

A text is cut into words: at every character that is neither letter nor digit, between a lower
case and an upper case letter, and before the last letter of an upper case run that a lower case
letter follows. In camel case the words stand side by side, each with a capital at its start.
-/

namespace QueryText.Text

/-- The case of the last cased character since the last cut. -/
inductive CaseMode where
  | boundary
  | lower
  | upper
  deriving DecidableEq, Repr

/-- The mode after a character; one without case changes nothing. -/
def CaseMode.after (mode : CaseMode) (c : Char) : CaseMode :=
  if isLowercase c then .lower else if isUppercase c then .upper else mode

/-- Cuts letters and digits into words. The word that is being read is held in reverse. -/
def wordsOf (mode : CaseMode) (current : List Char) : List Char → List (List Char)
  | [] => []
  | [c] => [(c :: current).reverse]
  | c :: d :: cs =>
    -- Between `r` and `I` in `ownerId`.
    if mode.after c = .lower ∧ isUppercase d then
      (c :: current).reverse :: wordsOf .boundary [] (d :: cs)
    -- Before `S` in `HTTPServer`.
    else if mode = .upper ∧ isUppercase c ∧ isLowercase d then
      current.reverse :: wordsOf .boundary [c] (d :: cs)
    else wordsOf (mode.after c) (c :: current) (d :: cs)

/-- The runs of letters and digits of a text. The run that is being read is held in reverse. -/
def runsOf (current : List Char) : List Char → List (List Char)
  | [] => [current.reverse]
  | c :: cs =>
    if isAlphanumeric c then runsOf (c :: current) cs else current.reverse :: runsOf [] cs

def words (cs : List Char) : List (List Char) :=
  (runsOf [] cs).flatMap (wordsOf .boundary [])

/-- The capital sigma, whose lower case has another form at the end of a word. -/
def capitalSigma : Char := 'Σ'

/-- The lower case of the end of a word. -/
def lowerEnd : List Char → List Char
  | [] => []
  | [c] => if c = capitalSigma then ['ς'] else toLower c
  | c :: d :: cs => toLower c ++ lowerEnd (d :: cs)

/-- A word with a capital at its start and lower case after it. -/
def capitalize : List Char → List Char
  | [] => []
  | c :: cs => toUpper c ++ lowerEnd cs

def upperCamelCase (s : String) : String :=
  String.ofList ((words s.toList).flatMap capitalize)

end QueryText.Text

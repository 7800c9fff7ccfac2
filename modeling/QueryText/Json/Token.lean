import QueryText.Number.Decimal

/-!
# QueryText — JSON tokens

Cuts a JSON text into tokens. A token keeps everything that its text says: a number its digits,
a string its escaped UTF-16 units, which need not form characters.
-/

namespace QueryText.Json

/-- A piece of a string: a character as it is, or a UTF-16 unit given by a `\u` escape. -/
inductive Piece where
  | character (c : Char)
  | unit (code : Nat)
  deriving DecidableEq, Repr

/-- A number as it is written. -/
structure NumberText where
  negative : Bool
  /-- The value of all digits, those after the point included. -/
  digits : Nat
  /-- How many digits stand after the point. -/
  places : Nat
  exponent : Int
  /-- Whether the number has neither a point nor an exponent. -/
  whole : Bool
  deriving DecidableEq, Repr

inductive Token where
  | arrayOpen
  | arrayClose
  | objectOpen
  | objectClose
  | comma
  | colon
  | null
  | boolean (value : Bool)
  | number (text : NumberText)
  | string (pieces : List Piece)
  deriving DecidableEq, Repr

/-! ## Numbers -/

/-- The value of a string of decimal digits. -/
def digitsValue (cs : List Char) : Nat :=
  cs.foldl (fun value c => 10 * value + (c.toNat - '0'.toNat)) 0

/-- Reads the exponent of a number, if the rest of its text is one or is empty. -/
def readExponent? : List Char → Option (Int × Bool)
  | [] => some (0, true)
  | c :: cs =>
    if c = 'e' ∨ c = 'E' then
      let (negative, digits) :=
        match cs with
        | '-' :: rest => (true, rest)
        | '+' :: rest => (false, rest)
        | rest => (false, rest)
      if digits.isEmpty || !digits.all Char.isDigit then none
      else
        let value : Int := digitsValue digits
        some (if negative then -value else value, false)
    else none

/-- Reads a number without its sign: digits without a needless zero at the start, then a point
with digits, then an exponent. -/
def readUnsigned? (negative : Bool) (cs : List Char) : Option NumberText := do
  let front := cs.takeWhile Char.isDigit
  let rest := cs.dropWhile Char.isDigit
  if front.isEmpty || (front.head? == some '0' && 1 < front.length) then none
  match rest with
  | '.' :: more =>
    let fraction := more.takeWhile Char.isDigit
    if fraction.isEmpty then none
    let (exponent, _) ← readExponent? (more.dropWhile Char.isDigit)
    return ⟨negative, digitsValue (front ++ fraction), fraction.length, exponent, false⟩
  | rest =>
    let (exponent, whole) ← readExponent? rest
    return ⟨negative, digitsValue front, 0, exponent, whole⟩

def readNumber? : List Char → Option NumberText
  | '-' :: cs => readUnsigned? true cs
  | cs => readUnsigned? false cs

/-! ## Tokens -/

/-- What is being read; characters are held in reverse. -/
inductive Mode where
  | between
  | word (letters : List Char)
  | number (text : List Char)
  | string (pieces : List Piece)
  /-- After a backslash in a string. -/
  | escape (pieces : List Piece)
  /-- Inside a `\u` escape: how many digits are missing, and the value of those that were read. -/
  | hex (pieces : List Piece) (missing value : Nat)
  deriving DecidableEq, Repr

/-- The token of a word. -/
def wordToken? (letters : List Char) : Option Token :=
  if letters = ['t', 'r', 'u', 'e'] then some (.boolean true)
  else if letters = ['f', 'a', 'l', 's', 'e'] then some (.boolean false)
  else if letters = ['n', 'u', 'l', 'l'] then some .null
  else none

/-- Whether a character can be part of a number. -/
def isNumberChar (c : Char) : Bool :=
  c.isDigit || c == '-' || c == '+' || c == '.' || c == 'e' || c == 'E'

def isSpace (c : Char) : Bool :=
  c == ' ' || c == '\n' || c == '\t' || c == '\r'

/-- The value of a hexadecimal digit. -/
def hexValue? (c : Char) : Option Nat :=
  if c.isDigit then some (c.toNat - '0'.toNat)
  else if 'a' ≤ c ∧ c ≤ 'f' then some (c.toNat - 'a'.toNat + 10)
  else if 'A' ≤ c ∧ c ≤ 'F' then some (c.toNat - 'A'.toNat + 10)
  else none

/-- The character that a letter stands for after a backslash. -/
def escaped? : Char → Option Char
  | '\x22' => some '\x22'
  | '\\' => some '\\'
  | '/' => some '/'
  | 'b' => some '\x08'
  | 'f' => some '\x0c'
  | 'n' => some '\n'
  | 'r' => some '\r'
  | 't' => some '\t'
  | _ => none

/-- Reads a character between tokens: the token that it is, and what it starts. -/
def begin? (c : Char) : Option (List Token × Mode) :=
  if isSpace c then some ([], .between)
  else if c.isDigit || c == '-' then some ([], .number [c])
  else if c.isLower then some ([], .word [c])
  else
    match c with
    | '\x22' => some ([], .string [])
    | '[' => some ([.arrayOpen], .between)
    | ']' => some ([.arrayClose], .between)
    | '\x7b' => some ([.objectOpen], .between)
    | '\x7d' => some ([.objectClose], .between)
    | ',' => some ([.comma], .between)
    | ':' => some ([.colon], .between)
    | _ => none

/-- Reads a character that cannot continue a token. -/
def beginAfter? (token : Option Token) (c : Char) : Option (List Token × Mode) := do
  let (tokens, mode) ← begin? c
  return ((← token) :: tokens, mode)

/-- Reads a character: the tokens that it ends, and what is being read after it. A control
character cannot stand in a string as it is. -/
def Mode.step? (mode : Mode) (c : Char) : Option (List Token × Mode) :=
  match mode with
  | .between => begin? c
  | .word letters =>
    if c.isLower then some ([], .word (c :: letters))
    else beginAfter? (wordToken? letters.reverse) c
  | .number text =>
    if isNumberChar c then some ([], .number (c :: text))
    else beginAfter? ((readNumber? text.reverse).map .number) c
  | .string pieces =>
    if c = '\x22' then some ([.string pieces.reverse], .between)
    else if c = '\\' then some ([], .escape pieces)
    else if c.toNat < 0x20 then none
    else some ([], .string (.character c :: pieces))
  | .escape pieces =>
    if c = 'u' then some ([], .hex pieces 4 0)
    else (escaped? c).map fun d => ([], .string (.character d :: pieces))
  | .hex pieces missing value =>
    -- The last digit completes the unit.
    (hexValue? c).map fun digit =>
      if missing ≤ 1 then ([], .string (.unit (16 * value + digit) :: pieces))
      else ([], .hex pieces (missing - 1) (16 * value + digit))

/-- The tokens that the end of the text ends. -/
def Mode.finish? : Mode → Option (List Token)
  | .between => some []
  | .word letters => (wordToken? letters.reverse).map fun token => [token]
  | .number text => (readNumber? text.reverse).map fun number => [.number number]
  | .string _ | .escape _ | .hex .. => none

/-- Cuts a text into tokens. -/
def tokens? (mode : Mode) : List Char → Option (List Token)
  | [] => mode.finish?
  | c :: cs => do
    let (tokens, next) ← mode.step? c
    return tokens ++ (← tokens? next cs)

end QueryText.Json

import QueryText.Render.Context

/-!
# QueryText — lexing quoted identifiers

A double quote opens an identifier. Inside, two double quotes stand for one, and a single one closes
the identifier, so what a double quote means is only known from the character behind it. The lexer
reads a text from left to right by this rule alone and collects the identifiers, decoded, and the
characters outside of them.

Two names that touch would be read as one. So the invariant of a run, `Lexer.Found`, tells which
names were found and whether the last one ends right where the lexer stands.

## Main results

* `Lexer.Found.text`, `Lexer.Found.name` — what reading a text without quotes, or a quoted name,
  preserves.
* `lex_dropFinalSpace` — the space that a pass drops is outside of all names.
-/

namespace QueryText

namespace Identifier

/-- Where a lexer stands. -/
inductive Mode where
  | outside
  /-- Inside of an identifier that begins as given. -/
  | inside (name : List Char)
  /-- Behind a double quote that closes the identifier, unless another one follows. -/
  | behind (name : List Char)

/-- What a lexer has read so far. -/
structure Lexer where
  names : List String := []
  outside : List Char := []
  mode : Mode := .outside

namespace Lexer

/-- Reads one more character. -/
def step (lexer : Lexer) (c : Char) : Lexer :=
  match lexer.mode with
  | .outside =>
    if c = delimiter then { lexer with mode := .inside [] }
    else { lexer with outside := lexer.outside ++ [c] }
  | .inside name =>
    if c = delimiter then { lexer with mode := .behind name }
    else { lexer with mode := .inside (name ++ [c]) }
  | .behind name =>
    if c = delimiter then { lexer with mode := .inside (name ++ [delimiter]) }
    else ⟨lexer.names ++ [String.ofList name], lexer.outside ++ [c], .outside⟩

def read (lexer : Lexer) (text : String) : Lexer :=
  text.toList.foldl step lexer

/-- The identifiers of a text that ends here, and the characters outside of them. There is no
result if an identifier was left open. -/
def finish (lexer : Lexer) : Option (List String × List Char) :=
  match lexer.mode with
  | .outside => some (lexer.names, lexer.outside)
  | .inside _ => none
  | .behind name => some (lexer.names ++ [String.ofList name], lexer.outside)

end Lexer

/-- Reads a whole text. -/
def lex (text : String) : Option (List String × List Char) :=
  (Lexer.read {} text).finish

/-- A text without a double quote. -/
def QuoteFree (text : String) : Prop :=
  delimiter ∉ text.toList

instance (text : String) : Decidable (QuoteFree text) :=
  inferInstanceAs (Decidable (_ ∉ _))

theorem QuoteFree.append {s t : String} (hs : QuoteFree s) (ht : QuoteFree t) :
    QuoteFree (s ++ t) := by
  rw [QuoteFree, String.toList_append, List.mem_append]
  exact not_or.mpr ⟨hs, ht⟩

/-- A number is written without quotes. -/
theorem quoteFree_toString (n : Nat) : QuoteFree (toString n) := by
  intro hMem
  have hChars : (toString n).toList = Nat.toDigits 10 n := by
    show n.repr.toList = _
    rw [Nat.repr_eq_ofList_toDigits, String.toList_ofList]
  rw [hChars] at hMem
  have hDigit := Nat.isDigit_of_mem_toDigits (by decide) (by decide) hMem
  exact absurd hDigit (by decide)

namespace Lexer

/-- Two texts in a row are read one after the other. -/
theorem read_append (lexer : Lexer) (s t : String) :
    lexer.read (s ++ t) = (lexer.read s).read t := by
  rw [read, String.toList_append, List.foldl_append]
  rfl

/-- The given names were found and nothing was left open. `ended` tells whether the last name
ends where the lexer stands. -/
inductive Found : List String → Bool → Lexer → Prop where
  | outside {names : List String} {outside : List Char} (h : delimiter ∉ outside) :
    Found names false ⟨names, outside, .outside⟩
  | behind {names : List String} {outside : List Char} {name : List Char}
    (h : delimiter ∉ outside) :
    Found (names ++ [String.ofList name]) true ⟨names, outside, .behind name⟩

namespace Found

variable {names : List String} {ended : Bool} {lexer : Lexer}

/-- At the start of a text nothing is found. -/
theorem start : Found [] false {} :=
  .outside List.not_mem_nil

/-- At the end of a text the found names come out, with what stands outside of them. -/
theorem finish (h : Found names ended lexer) :
    ∃ outside, lexer.finish = some (names, outside) ∧ delimiter ∉ outside := by
  cases h with
  | outside h => exact ⟨_, rfl, h⟩
  | behind h => exact ⟨_, rfl, h⟩

/-- Any other character than a quote is outside, also right behind a name. -/
theorem char (h : Found names ended lexer) {c : Char} (hc : c ≠ delimiter) :
    Found names false (lexer.step c) := by
  have hOutside : ∀ outside : List Char, delimiter ∉ outside → delimiter ∉ outside ++ [c] := by
    intro outside hFree
    rw [List.mem_append, List.mem_singleton]
    exact not_or.mpr ⟨hFree, Ne.symm hc⟩
  cases h with
  | outside h =>
    rw [step]
    dsimp only
    rw [if_neg hc]
    exact .outside (hOutside _ h)
  | behind h =>
    rw [step]
    dsimp only
    rw [if_neg hc]
    exact .outside (hOutside _ h)

/-- Characters other than the delimiter are outside of all names if no name is open. -/
theorem chars (h : Found names false lexer) {cs : List Char} (hcs : delimiter ∉ cs) :
    Found names false (cs.foldl step lexer) := by
  induction cs generalizing lexer with
  | nil => exact h
  | cons c cs ih =>
    obtain ⟨hFirst, hRest⟩ := not_or.mp fun h => hcs (List.mem_cons.mpr h)
    exact ih (h.char (Ne.symm hFirst)) hRest

/-- A text without quotes adds no name, and parts the last name from the next one unless it is
empty. -/
theorem text (h : Found names ended lexer) {s : String} (hs : QuoteFree s) :
    Found names (ended && s.isEmpty) (lexer.read s) := by
  cases hChars : s.toList with
  | nil =>
    have hEmpty : s = "" := String.toList_eq_nil_iff.mp hChars
    subst hEmpty
    show Found names (ended && true) lexer
    rw [Bool.and_true]
    exact h
  | cons c cs =>
    have hSome : s.isEmpty = false := by
      rw [Bool.eq_false_iff]
      intro hEmpty
      rw [String.isEmpty_iff.mp hEmpty] at hChars
      cases hChars
    rw [QuoteFree, hChars, List.mem_cons, not_or] at hs
    rw [hSome, Bool.and_false, read, hChars]
    exact (h.char (Ne.symm hs.1)).chars hs.2

end Found

/-- Reading an escaped name inside of an identifier adds the name. -/
theorem foldl_escape (names : List String) (outside name cs : List Char) :
    (escape cs).foldl step ⟨names, outside, .inside name⟩ =
      ⟨names, outside, .inside (name ++ cs)⟩ := by
  induction cs generalizing name with
  | nil => rw [List.append_nil]; rfl
  | cons c cs ih =>
    rw [escape]
    by_cases hQuote : c = delimiter
    · -- the first of two quotes looks like the end of the name until the second one is read
      have hOpen : step ⟨names, outside, .inside name⟩ delimiter =
          ⟨names, outside, .behind name⟩ := rfl
      have hTwice : step ⟨names, outside, .behind name⟩ delimiter =
          ⟨names, outside, .inside (name ++ [delimiter])⟩ := rfl
      rw [if_pos hQuote, List.foldl_cons, List.foldl_cons, hOpen, hTwice, ih, List.append_assoc,
        List.singleton_append, hQuote]
    · have hStep : step ⟨names, outside, .inside name⟩ c =
          ⟨names, outside, .inside (name ++ [c])⟩ := if_neg hQuote
      rw [if_neg hQuote, List.foldl_cons, hStep, ih, List.append_assoc, List.singleton_append]

/-- A quoted name is read back, whatever characters it has. -/
theorem Found.name {names : List String} {lexer : Lexer} (h : Found names false lexer)
    (name : String) : Found (names ++ [name]) true (lexer.read (quote name)) := by
  cases h with
  | @outside _ outside h =>
    have hRead : Lexer.read ⟨names, outside, .outside⟩ (quote name) =
        ⟨names, outside, .behind name.toList⟩ := by
      have hOpen : step ⟨names, outside, .outside⟩ delimiter = ⟨names, outside, .inside []⟩ := rfl
      rw [read, quote, String.toList_ofList, quoteChars, List.foldl_cons, hOpen,
        List.foldl_append, foldl_escape]
      rfl
    have hBehind : Found (names ++ [String.ofList name.toList]) true
        ⟨names, outside, .behind name.toList⟩ := .behind h
    rw [String.ofList_toList] at hBehind
    rw [hRead]
    exact hBehind

/-- A character that is no quote and is not inside of a name has the same names before it. -/
theorem Found.of_step {names : List String} {ended : Bool} {lexer : Lexer} {c : Char}
    (hc : c ≠ delimiter) (h : Found names ended (lexer.step c)) :
    ∃ before, Found names before lexer := by
  obtain ⟨found, outside, mode⟩ := lexer
  have hFree : delimiter ∉ outside ++ [c] → delimiter ∉ outside :=
    fun h hMem => h (List.mem_append_left _ hMem)
  cases mode with
  | outside =>
    have hStep : step ⟨found, outside, .outside⟩ c = ⟨found, outside ++ [c], .outside⟩ := if_neg hc
    rw [hStep] at h
    cases h with
    | outside h => exact ⟨false, .outside (hFree h)⟩
  | inside name =>
    have hStep : step ⟨found, outside, .inside name⟩ c = ⟨found, outside, .inside (name ++ [c])⟩ :=
      if_neg hc
    -- an identifier would still be open
    rw [hStep] at h
    nomatch h
  | behind name =>
    have hStep : step ⟨found, outside, .behind name⟩ c =
        ⟨found ++ [String.ofList name], outside ++ [c], .outside⟩ := if_neg hc
    rw [hStep] at h
    cases h with
    | outside h => exact ⟨true, .behind (hFree h)⟩

end Lexer

/-- The space that a pass drops is outside of all names. -/
theorem lex_dropFinalSpace {names : List String} {ended : Bool} {text : String}
    (h : Lexer.Found names ended (Lexer.read {} text)) :
    ∃ outside, lex (dropFinalSpace text) = some (names, outside) ∧ delimiter ∉ outside := by
  unfold dropFinalSpace
  split
  · rename_i hSpace
    obtain ⟨front, hText⟩ := List.getLast?_eq_some_iff.mp hSpace
    have hRead : Lexer.read {} text = (Lexer.read {} (String.ofList front)).step ' ' := by
      rw [Lexer.read, hText, List.foldl_append, Lexer.read, String.toList_ofList]
      rfl
    rw [hRead] at h
    obtain ⟨before, hBefore⟩ := h.of_step (by decide)
    rw [hText, List.dropLast_concat]
    exact hBefore.finish
  · exact h.finish

end Identifier

end QueryText

import Mathlib.Data.List.Forall2
import QueryText.Datum

/-!
# QueryText — reading array literals

What PostgreSQL makes of the body of an array literal. Elements stand between braces with commas
between them, and blanks before an element do not count. An element is an array, a string between
double quotes, in which a backslash takes the next character as it is, or a bare text up to the
next comma or closing brace; the bare text `NULL`, in capitals or not, is no value. Blanks behind an
element and backslashes outside of strings are refused here: array literals are written without
them.

The reader goes through the text once, one character after the other, and keeps the arrays that
are open. It stops at the brace that closes the outermost one, so it tells what comes after it.

## Main results

* `ArrayReader.run_quoted`, `ArrayReader.run_bare` — strings and bare texts are read to their end.
* `ArrayReader.Reads.bare`, `ArrayReader.Reads.quoted`, `ArrayReader.Reads.array` — the texts of
  elements, each read as one element wherever one can stand.
* `ArrayReader.read_braced` — an array is read to its closing brace, whatever comes after it.
-/

namespace QueryText

/-- What a reader finds in an array literal. -/
inductive ArrayTree where
  | null
  /-- A text without quotes around it. -/
  | bare (text : String)
  /-- A text between double quotes, without its escapes. -/
  | quoted (text : String)
  | array (elements : List ArrayTree)

/-- What a bare text stands for. -/
def ArrayTree.ofBare (text : List Char) : ArrayTree :=
  if text.map Char.toUpper = "NULL".toList then .null else .bare (String.ofList text)

/-- Where a reader stands in the innermost array that is open. -/
inductive ArrayPosition where
  /-- Behind the opening brace. -/
  | opened
  /-- Behind a comma. -/
  | separated
  /-- In a string that begins as given. -/
  | quoted (text : List Char)
  /-- Behind a backslash in a string. -/
  | escaped (text : List Char)
  /-- In a bare text that begins as given. -/
  | bare (text : List Char)
  /-- Behind an element. -/
  | behind

/-- A reader with the elements of the innermost open array, as far as they were read, and those of
the arrays around it, from the inside to the outside. -/
structure ArrayReader where
  position : ArrayPosition := .opened
  elements : List ArrayTree := []
  outer : List (List ArrayTree) := []

namespace ArrayReader

/-- What one more character leads to. -/
inductive Next where
  | more (reader : ArrayReader)
  /-- The outermost array is closed. -/
  | done (tree : ArrayTree)

def opening : Char := '\x7b'

def closing : Char := '\x7d'

/-- Adds an element. -/
def put (reader : ArrayReader) (tree : ArrayTree) : ArrayReader :=
  { reader with position := .behind, elements := reader.elements ++ [tree] }

/-- Closes the innermost array, which becomes an element of the one around it. -/
def close (reader : ArrayReader) : Next :=
  match reader.outer with
  | [] => .done (.array reader.elements)
  | elements :: outer => .more ⟨.behind, elements ++ [.array reader.elements], outer⟩

/-- Reads the first character of an element. -/
def enter (reader : ArrayReader) (c : Char) : Option Next :=
  if c = opening then some (.more ⟨.opened, [], reader.elements :: reader.outer⟩)
  else if c = '\x22' then some (.more { reader with position := .quoted [] })
  else if c = closing ∨ c = ',' ∨ c = '\\' then none
  else some (.more { reader with position := .bare [c] })

/-- Reads a character behind an element. -/
def delimit (reader : ArrayReader) (c : Char) : Option Next :=
  if c = ',' then some (.more { reader with position := .separated })
  else if c = closing then some reader.close
  else none

/-- Reads one character. -/
def step (reader : ArrayReader) (c : Char) : Option Next :=
  match reader.position with
  | .opened =>
    if c = closing then some reader.close
    else if c = ' ' then some (.more reader)
    else reader.enter c
  | .separated => if c = ' ' then some (.more reader) else reader.enter c
  | .quoted text =>
    if c = '\x22' then some (.more (reader.put (.quoted (String.ofList text))))
    else if c = '\\' then some (.more { reader with position := .escaped text })
    else some (.more { reader with position := .quoted (text ++ [c]) })
  | .escaped text => some (.more { reader with position := .quoted (text ++ [c]) })
  | .bare text =>
    if c = ',' ∨ c = closing then (reader.put (.ofBare text)).delimit c
    else if c = opening ∨ c = '\x22' ∨ c = '\\' ∨ c = ' ' then none
    else some (.more { reader with position := .bare (text ++ [c]) })
  | .behind => reader.delimit c

/-- Reads up to the brace that closes the outermost array: the array, and the text behind it. -/
def run (reader : ArrayReader) : List Char → Option (ArrayTree × List Char)
  | [] => none
  | c :: cs =>
    match reader.step c with
    | none => none
    | some (.more next) => run next cs
    | some (.done tree) => some (tree, cs)

/-- Reads an array at the head of a text. -/
def read : List Char → Option (ArrayTree × List Char)
  | [] => none
  | c :: cs => if c = opening then run {} cs else none

-- ---------------------------------------------------------------------------
-- Elements
-- ---------------------------------------------------------------------------

variable {elements : List ArrayTree} {outer : List (List ArrayTree)}

/-- A character that does not end the text is read before the others. -/
theorem run_cons {reader next : ArrayReader} {c : Char} (h : reader.step c = some (.more next))
    (cs : List Char) : reader.run (c :: cs) = next.run cs := by
  rw [run, h]

/-- A string with its escapes is read to the quote that ends it. -/
theorem run_quoted (text s cs : List Char) :
    run ⟨.quoted text, elements, outer⟩ (escapeElement s ++ '\x22' :: cs) =
      run ⟨.behind, elements ++ [.quoted (String.ofList (text ++ s))], outer⟩ cs := by
  induction s generalizing text with
  | nil =>
    rw [List.append_nil]
    exact run_cons rfl cs
  | cons c s ih =>
    have hText : text ++ c :: s = text ++ [c] ++ s := by
      rw [List.append_assoc, List.singleton_append]
    rw [escapeElement, hText, ← ih (text ++ [c])]
    by_cases hEscaped : c = '\x22' ∨ c = '\\'
    · rw [if_pos hEscaped, List.cons_append, List.cons_append]
      exact (run_cons rfl _).trans (run_cons rfl _)
    · rw [if_neg hEscaped, List.cons_append]
      obtain ⟨hQuote, hBackslash⟩ := not_or.mp hEscaped
      refine run_cons ?_ _
      simp only [step, if_neg hQuote, if_neg hBackslash]

/-- The characters that can stand anywhere in a bare text. -/
def Plain (c : Char) : Prop :=
  c ∉ [' ', ',', '\x22', '\\', opening, closing]

instance (c : Char) : Decidable (Plain c) :=
  inferInstanceAs (Decidable (_ ∉ _))

theorem plain_of_all {text : List Char} (h : text.all (fun c => Plain c) = true) :
    ∀ c ∈ text, Plain c :=
  fun c hc => of_decide_eq_true (List.all_eq_true.mp h c hc)

/-- The characters behind an element. -/
def Ends (c : Char) : Prop :=
  c = ',' ∨ c = closing

/-- A bare text is read to the comma or brace behind it. -/
theorem run_bare (text s cs : List Char) {c : Char} (hPlain : ∀ d ∈ s, Plain d) (hc : Ends c) :
    run ⟨.bare text, elements, outer⟩ (s ++ c :: cs) =
      run ⟨.behind, elements ++ [.ofBare (text ++ s)], outer⟩ (c :: cs) := by
  induction s generalizing text with
  | nil =>
    have hStep : step ⟨.bare text, elements, outer⟩ c =
        step ⟨.behind, elements ++ [.ofBare text], outer⟩ c := if_pos hc
    rw [List.append_nil, List.nil_append, run, run, hStep]
  | cons d s ih =>
    obtain ⟨hd, hs⟩ := List.forall_mem_cons.mp hPlain
    have hText : text ++ d :: s = text ++ [d] ++ s := by
      rw [List.append_assoc, List.singleton_append]
    rw [hText, ← ih (text ++ [d]) hs, List.cons_append]
    refine run_cons ?_ _
    simp only [Plain, List.mem_cons, List.not_mem_nil, or_false, not_or] at hd
    simp only [step, hd, or_false, if_false]

/-- An element can come next. -/
def Ready (reader : ArrayReader) : Prop :=
  reader.position = .opened ∨ reader.position = .separated

/-- Where an element may begin, a character begins one, unless it is a blank or closes the array. -/
theorem Ready.step_eq {reader : ArrayReader} (h : reader.Ready) {c : Char} (hBlank : c ≠ ' ')
    (hClosing : c ≠ closing) : reader.step c = reader.enter c := by
  rcases h with hPosition | hPosition
  · simp only [step, hPosition, if_neg hBlank, if_neg hClosing]
  · simp only [step, hPosition, if_neg hBlank]

/-- A text is read as one element wherever an element can come next, up to what ends it. -/
def Reads (text : List Char) (tree : ArrayTree) : Prop :=
  ∀ (reader : ArrayReader) (c : Char) (cs : List Char), reader.Ready → Ends c →
    reader.run (text ++ c :: cs) = (reader.put tree).run (c :: cs)

/-- Characters without a meaning are read as one bare text. -/
theorem Reads.bare {c : Char} {text : List Char} (h : ∀ d ∈ c :: text, Plain d) :
    Reads (c :: text) (.ofBare (c :: text)) := by
  intro reader e cs hReady he
  obtain ⟨hc, hText⟩ := List.forall_mem_cons.mp h
  simp only [Plain, List.mem_cons, List.not_mem_nil, or_false, not_or] at hc
  have hStep : reader.step c = some (.more { reader with position := .bare [c] }) := by
    rw [hReady.step_eq hc.1 hc.2.2.2.2.2]
    simp only [enter, hc, or_false, if_false]
  rw [List.cons_append, run_cons hStep]
  exact run_bare [c] text cs hText he

/-- A string between double quotes is read as itself, with its escapes taken away. -/
theorem Reads.quoted (s : String) : Reads (textElement s).toList (.quoted s) := by
  intro reader c cs hReady _
  have hStep : reader.step '\x22' = some (.more { reader with position := .quoted [] }) :=
    hReady.step_eq (by decide) (by decide)
  have hText : (textElement s).toList ++ c :: cs =
      '\x22' :: (escapeElement s.toList ++ '\x22' :: c :: cs) := by
    rw [textElement, String.toList_ofList]
    simp
  rw [hText, run_cons hStep, run_quoted, List.nil_append, String.ofList_toList]
  rfl

-- ---------------------------------------------------------------------------
-- Lists of elements
-- ---------------------------------------------------------------------------

/-- Texts that are read as elements one by one. -/
def ReadsAll (texts : List String) (trees : List ArrayTree) : Prop :=
  List.Forall₂ (fun text tree => Reads text.toList tree) texts trees

/-- A reader that has read further elements. -/
def putAll (reader : ArrayReader) (trees : List ArrayTree) : ArrayReader :=
  { reader with position := .behind, elements := reader.elements ++ trees }

/-- One element or more are read up to the closing brace. -/
theorem run_commaSeparated {text : String} {texts : List String} {trees : List ArrayTree}
    (h : ReadsAll (text :: texts) trees) {reader : ArrayReader} (hReady : reader.Ready)
    (cs : List Char) :
    reader.run ((commaSeparated (text :: texts)).toList ++ closing :: cs) =
      (reader.putAll trees).run (closing :: cs) := by
  induction texts generalizing text trees reader with
  | nil =>
    cases h with
    | cons hFirst hRest =>
      cases hRest
      exact hFirst reader closing cs hReady (Or.inr rfl)
  | cons next texts ih =>
    cases h with
    | @cons _ tree _ trees hFirst hRest =>
      have hText : (commaSeparated (text :: next :: texts)).toList ++ closing :: cs =
          text.toList ++ ',' :: ' ' ::
            ((commaSeparated (next :: texts)).toList ++ closing :: cs) := by
        rw [commaSeparated, String.toList_append, String.toList_append]
        simp
      have hComma : (reader.put tree).step ',' =
          some (.more { reader.put tree with position := .separated }) := rfl
      have hBlank : ({ reader.put tree with position := .separated } : ArrayReader).step ' ' =
          some (.more { reader.put tree with position := .separated }) := rfl
      rw [hText, hFirst reader ',' _ hReady (Or.inl rfl), run_cons hComma, run_cons hBlank,
        ih hRest (Or.inr rfl)]
      simp only [putAll, put, List.append_assoc, List.singleton_append]

/-- The elements of an array, if there are any, are read up to its closing brace. -/
theorem run_elements {texts : List String} {trees : List ArrayTree} (h : ReadsAll texts trees)
    (outer : List (List ArrayTree)) (cs : List Char) :
    run ⟨.opened, [], outer⟩ ((commaSeparated texts).toList ++ closing :: cs) =
      run ⟨.behind, trees, outer⟩ (closing :: cs) := by
  cases texts with
  | nil =>
    cases h
    rfl
  | cons text texts => exact run_commaSeparated h (Or.inl rfl) cs

/-- Between the braces stand the elements with their commas. -/
theorem toList_braced (texts : List String) (cs : List Char) :
    (braced texts).toList ++ cs = opening :: ((commaSeparated texts).toList ++ closing :: cs) := by
  rw [braced, String.toList_append, String.toList_append]
  simp [opening, closing]

/-- Elements between braces are read as an array of what they are read as. -/
theorem Reads.array {texts : List String} {trees : List ArrayTree} (h : ReadsAll texts trees) :
    Reads (braced texts).toList (.array trees) := by
  intro reader c cs hReady _
  have hStep : reader.step opening =
      some (.more ⟨.opened, [], reader.elements :: reader.outer⟩) :=
    hReady.step_eq (by decide) (by decide)
  rw [toList_braced, run_cons hStep, run_elements h]
  exact run_cons rfl _

/-- An array is read up to its closing brace, and what comes after it is left. -/
theorem read_braced {texts : List String} {trees : List ArrayTree} (h : ReadsAll texts trees)
    (rest : List Char) : read ((braced texts).toList ++ rest) = some (.array trees, rest) := by
  rw [toList_braced, read, if_pos rfl]
  exact run_elements h [] rest

end ArrayReader

end QueryText

import Mathlib.Logic.Function.Basic
import QueryText.Identifier

/-!
# QueryText — reading one identifier back

A name is quoted with every double quote in it written twice, and read up to the first double quote
that stands alone. So two double quotes in a row are never the end, wherever in the name they come
from, and the closing one is the end unless a text that begins with a double quote is put right
behind it. Under that condition reading accepts exactly what quoting writes.

## Main results

* `Identifier.readBody_eq_some_iff`, `Identifier.read_eq_some_iff` — what is read as a name with a
  rest behind it is that name, quoted, with that rest behind it.
* `Identifier.quote_read_back` — a quoted name ends where its identifier ends.
-/

namespace QueryText.Identifier

-- ---------------------------------------------------------------------------
-- The inside of an identifier
-- ---------------------------------------------------------------------------

theorem escape_delimiter (cs : List Char) :
    escape (delimiter :: cs) = delimiter :: delimiter :: escape cs :=
  if_pos rfl

theorem escape_cons {c : Char} (h : c ≠ delimiter) (cs : List Char) :
    escape (c :: cs) = c :: escape cs :=
  if_neg h

/-- A double quote closes the identifier if no other one follows. -/
theorem readBody_close {rest : List Char} (h : rest.head? ≠ some delimiter) :
    readBody (delimiter :: rest) = some ([], rest) := by
  cases rest with
  | nil => rfl
  | cons d ds => exact (if_pos rfl).trans (if_neg fun hQuote => h (congrArg some hQuote))

/-- Two double quotes stand for one. -/
theorem readBody_twice (cs : List Char) :
    readBody (delimiter :: delimiter :: cs) =
      (readBody cs).map fun (name, rest) => (delimiter :: name, rest) :=
  (if_pos rfl).trans (if_pos rfl)

/-- The reader takes a character that is no delimiter as it is. -/
theorem readBody_cons {c : Char} (h : c ≠ delimiter) (cs : List Char) :
    readBody (c :: cs) = (readBody cs).map fun (name, rest) => (c :: name, rest) := by
  rw [readBody.eq_def]
  exact if_neg h

/-- An escaped name is read to its end, whatever is read behind it. -/
theorem readBody_escape_append (name cs : List Char) :
    readBody (escape name ++ cs) =
      (readBody cs).map fun (more, rest) => (name ++ more, rest) := by
  induction name with
  | nil => exact Option.map_id'.symm
  | cons c name ih =>
    by_cases h : c = delimiter
    · rw [h, escape_delimiter, List.cons_append, List.cons_append, readBody_twice, ih,
        Option.map_map]
      rfl
    · rw [escape_cons h, List.cons_append, readBody_cons h, ih, Option.map_map]
      rfl

/-- The inside of an identifier is read as a name exactly if it is the escaped name with the closing
quote, and no quote follows. -/
theorem readBody_eq_some_iff {cs name rest : List Char} :
    readBody cs = some (name, rest) ↔
      cs = escape name ++ delimiter :: rest ∧ rest.head? ≠ some delimiter := by
  constructor
  · intro hRead
    -- the induction follows the reader, which takes two quotes in one step
    fun_induction readBody cs generalizing name with
    | case1 => cases hRead
    | case2 =>
      cases hRead
      exact ⟨rfl, nofun⟩
    | case3 cs ih =>
      obtain ⟨⟨inner, _⟩, hInner, hSame⟩ := Option.map_eq_some_iff.mp hRead
      cases hSame
      obtain ⟨rfl, hRest⟩ := ih hInner
      rw [escape_delimiter]
      exact ⟨rfl, hRest⟩
    | case4 c cs hAlone =>
      cases hRead
      exact ⟨rfl, fun hHead => hAlone (Option.some.inj hHead)⟩
    | case5 c cs hOther ih =>
      obtain ⟨⟨inner, _⟩, hInner, hSame⟩ := Option.map_eq_some_iff.mp hRead
      cases hSame
      obtain ⟨rfl, hRest⟩ := ih hInner
      rw [escape_cons hOther]
      exact ⟨rfl, hRest⟩
  · rintro ⟨rfl, hRest⟩
    rw [readBody_escape_append, readBody_close hRest, Option.map_some]
    exact congrArg (fun chars => some (chars, rest)) (List.append_nil name)

-- ---------------------------------------------------------------------------
-- Whole identifiers
-- ---------------------------------------------------------------------------

/-- Reading accepts exactly what quoting writes, with no quote behind it. -/
theorem read_eq_some_iff {cs name rest : List Char} :
    read cs = some (name, rest) ↔
      cs = quoteChars name ++ rest ∧ rest.head? ≠ some delimiter := by
  have hQuoted : quoteChars name ++ rest = delimiter :: (escape name ++ delimiter :: rest) := by
    rw [quoteChars, List.cons_append, List.append_assoc, List.singleton_append]
  rw [hQuoted]
  cases cs with
  | nil => simp [read]
  | cons c cs =>
    by_cases h : c = delimiter
    · rw [read, if_pos h, readBody_eq_some_iff, h, List.cons_inj_right]
    · simp [read, h]

/-- The characters of a quoted name with a text behind it. -/
theorem toList_quote_append (name rest : String) :
    (quote name ++ rest).toList = quoteChars name.toList ++ rest.toList := by
  rw [String.toList_append, quote, String.toList_ofList]

/-- A quoted name is read back with the text behind it exactly if that text does not begin with a
double quote. So where neither text does, two quoted names with a text behind them are the same
only if the names are and the texts are, and different names are quoted differently. -/
theorem quote_read_back (name : String) :
    (∀ rest : String,
      read (quote name ++ rest).toList = some (name.toList, rest.toList) ↔
        rest.toList.head? ≠ some delimiter) ∧
    (∀ rest other more : String, rest.toList.head? ≠ some delimiter →
      more.toList.head? ≠ some delimiter → quote name ++ rest = quote other ++ more →
        name = other ∧ rest = more) ∧
    Function.Injective quote := by
  have hReads : ∀ name rest : String,
      read (quote name ++ rest).toList = some (name.toList, rest.toList) ↔
        rest.toList.head? ≠ some delimiter := by
    intro name rest
    rw [toList_quote_append, read_eq_some_iff]
    exact and_iff_right rfl
  have hEnds : ∀ name rest other more : String, rest.toList.head? ≠ some delimiter →
      more.toList.head? ≠ some delimiter → quote name ++ rest = quote other ++ more →
        name = other ∧ rest = more := by
    intro name rest other more hRest hMore hSame
    have hFirst := (hReads name rest).mpr hRest
    rw [hSame, (hReads other more).mpr hMore] at hFirst
    obtain ⟨hNames, hTexts⟩ := Prod.mk.inj (Option.some.inj hFirst)
    exact ⟨(String.toList_inj.mp hNames).symm, (String.toList_inj.mp hTexts).symm⟩
  have hEmpty : "".toList.head? ≠ some delimiter := by decide
  exact ⟨hReads name, hEnds name,
    fun left right hSame => (hEnds left "" right "" hEmpty hEmpty (by rw [hSame])).1⟩

/-- A name that begins and ends with quotes is read to its end before a column, and not before
another quote. It is not taken for a shorter name, and where the quotes stand in a name makes a
difference. -/
theorem quote_read_back_quotes :
    read "\"\"\"a\"\"\"\"\".\"b\"".toList = some ("\"a\"\"".toList, ".\"b\"".toList) ∧
      read (quote "\"a\"\"" ++ "\"b").toList ≠ some ("\"a\"\"".toList, "\"b".toList) ∧
      quote "\"a\"\"" ++ ".\"b\"" ≠ quote "\"a\"" ++ ".\"b\"" ∧
      quote "\"a\"\"" ≠ quote "\"\"a\"" := by
  obtain ⟨hReads, hEnds, hInjective⟩ := quote_read_back "\"a\"\""
  have hText : (quote "\"a\"\"" ++ ".\"b\"").toList = "\"\"\"a\"\"\"\"\".\"b\"".toList := by decide
  refine ⟨?_, ?_, fun hSame => ?_, fun hSame => ?_⟩
  · rw [← hText]
    exact (hReads ".\"b\"").mpr (by decide)
  · exact fun hRead => (hReads "\"b").mp hRead (by decide)
  · exact absurd (hEnds ".\"b\"" "\"a\"" ".\"b\"" (by decide) (by decide) hSame).1 (by decide)
  · exact absurd (hInjective hSame) (by decide)

end QueryText.Identifier

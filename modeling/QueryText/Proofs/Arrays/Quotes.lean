import Mathlib.Algebra.GroupWithZero.Nat
import QueryText.Datum

/-!
# QueryText — the quotes of array literals

An array literal stands between single quotes, so one more of them inside would end it too early.
Inside of an array a string stands between double quotes and an array has no quotes of its own, but
any other datum is written as outside of arrays. So a date, a time, an identifier and a number that
is not finite bring their two single quotes along, and a string brings those that it has.

## Main results

* `Datum.singleQuotes_element` — the single quotes of an element are those of its leaves.
* `Datum.singleQuotes_array` — how many single quotes an array literal has, and when it has
  only the outer ones.
* `Datum.array_of_date_unquotable` — an array whose literal ends too early.
-/

namespace QueryText

-- ---------------------------------------------------------------------------
-- Counting quotes
-- ---------------------------------------------------------------------------

/-- The number of single quotes in a text. -/
def singleQuotes (s : String) : Nat :=
  s.toList.count '\''

theorem singleQuotes_append (s t : String) :
    singleQuotes (s ++ t) = singleQuotes s + singleQuotes t := by
  rw [singleQuotes, String.toList_append, List.count_append]
  rfl

/-- Quoting adds two quotes, and escapes none. -/
theorem singleQuotes_singleQuoted (s : String) :
    singleQuotes (singleQuoted s) = singleQuotes s + 2 := by
  have hQuote : singleQuotes "'" = 1 := rfl
  rw [singleQuoted, singleQuotes_append, singleQuotes_append, hQuote]
  omega

/-- Commas add no quotes. -/
theorem singleQuotes_commaSeparated (texts : List String) :
    singleQuotes (commaSeparated texts) = (texts.map singleQuotes).sum := by
  have hComma : singleQuotes ", " = 0 := rfl
  induction texts with
  | nil => rfl
  | cons s texts ih =>
    cases texts with
    | nil => simp [commaSeparated]
    | cons t rest =>
      rw [commaSeparated, singleQuotes_append, singleQuotes_append, ih, hComma,
        Nat.add_zero]
      exact List.sum_cons.symm

theorem singleQuotes_braced (texts : List String) :
    singleQuotes (braced texts) = (texts.map singleQuotes).sum := by
  have hOpening : singleQuotes "\x7b" = 0 := rfl
  have hClosing : singleQuotes "\x7d" = 0 := rfl
  rw [braced, singleQuotes_append, singleQuotes_append, singleQuotes_commaSeparated, hOpening,
    hClosing, Nat.zero_add, Nat.add_zero]

/-- A single quote in a string is written as it is, and the characters that are escaped are
others. -/
theorem singleQuotes_textElement (s : String) :
    singleQuotes (textElement s) = singleQuotes s := by
  have hEscape : ∀ cs : List Char, (escapeElement cs).count '\'' = cs.count '\'' := by
    intro cs
    induction cs with
    | nil => rfl
    | cons c cs ih =>
      rw [escapeElement]
      split
      · rw [List.count_cons_of_ne (by decide), List.count_cons, List.count_cons, ih]
      · rw [List.count_cons, List.count_cons, ih]
  rw [singleQuotes, textElement, String.toList_ofList, List.count_cons_of_ne (by decide),
    List.count_append, hEscape]
  rfl

-- ---------------------------------------------------------------------------
-- Texts without quotes
-- ---------------------------------------------------------------------------

/-- A text without a single quote. -/
def Unquoted (s : String) : Prop :=
  '\'' ∉ s.toList

instance (s : String) : Decidable (Unquoted s) :=
  inferInstanceAs (Decidable (_ ∉ _))

theorem unquoted_iff {s : String} : Unquoted s ↔ singleQuotes s = 0 :=
  List.count_eq_zero.symm

namespace Unquoted

theorem append {s t : String} (hs : Unquoted s) (ht : Unquoted t) : Unquoted (s ++ t) := by
  rw [Unquoted, String.toList_append, List.mem_append]
  exact not_or.mpr ⟨hs, ht⟩

theorem ofList {cs : List Char} (h : ∀ c ∈ cs, c ≠ '\'') : Unquoted (String.ofList cs) := by
  rw [Unquoted, String.toList_ofList]
  exact fun hMem => h _ hMem rfl

theorem ne {s : String} (h : Unquoted s) : ∀ c ∈ s.toList, c ≠ '\'' :=
  fun _ hc hEq => h (hEq ▸ hc)

end Unquoted

/-- Digits are no quotes, up to base sixteen. -/
theorem ne_quote_of_mem_toDigits {base n : Nat} (hBase : 1 < base) (hSixteen : base ≤ 16)
    {c : Char} (hc : c ∈ Nat.toDigits base n) : c ≠ '\'' := by
  have hDigit : ∀ d < 16, Nat.digitChar d ≠ '\'' := by decide
  induction n using Nat.strongRecOn with
  | ind n ih =>
    rw [Nat.toDigits_eq_if hBase] at hc
    split at hc
    · rw [List.mem_singleton.mp hc]
      exact hDigit n (by omega)
    · rename_i hLarge
      rcases List.mem_append.mp hc with hFront | hLast
      · exact ih (n / base) (Nat.div_lt_self (by omega) hBase) hFront
      · have hRest : n % base < base := Nat.mod_lt n (by omega)
        rw [List.mem_singleton.mp hLast]
        exact hDigit (n % base) (by omega)

theorem unquoted_nat (n : Nat) : Unquoted (toString n) := by
  rw [Nat.toString_eq_ofList_toDigits]
  exact .ofList fun c hc => ne_quote_of_mem_toDigits (by decide) (by decide) hc

theorem unquoted_int (n : Int) : Unquoted (toString n) := by
  cases n with
  | ofNat n => exact unquoted_nat n
  | negSucc n =>
    have hMinus : Unquoted "-" := by decide
    exact hMinus.append (unquoted_nat (n + 1))

theorem unquoted_booleanText (value : Bool) : Unquoted (booleanText value) := by
  cases value <;> decide

namespace Number

theorem unquoted_zeros (count : Nat) : Unquoted (zeros count) :=
  .ofList fun c hc => by
    rw [List.eq_of_mem_replicate hc]
    decide

theorem unquoted_padded (width number : Nat) : Unquoted (padded width number) :=
  (unquoted_zeros _).append (unquoted_nat number)

/-- Digits have no quotes on either side of the point. -/
theorem Decimal.unquoted_pointed (digits places : Nat) : Unquoted (pointed digits places) := by
  have hDigits := (unquoted_padded (places + 1) digits).ne
  have hPoint : Unquoted "." := by decide
  rw [pointed]
  split
  · exact .ofList hDigits
  · refine .append (.append (.ofList fun c hc => ?_) hPoint) (.ofList fun c hc => ?_)
    · exact hDigits c (List.mem_of_mem_take hc)
    · exact hDigits c (List.mem_of_mem_drop hc)

/-- A number in positional notation has no quotes. -/
theorem Decimal.unquoted_positional (d : Decimal) : Unquoted d.positional := by
  rw [positional]
  split
  · exact unquoted_pointed _ _
  · exact (unquoted_nat _).append (unquoted_zeros _)

end Number

theorem unquoted_sign (negative : Bool) : Unquoted (if negative then "-" else "") := by
  cases negative <;> decide

theorem unquoted_decimalText (mantissa : Int) (scale : Nat) :
    Unquoted (decimalText mantissa scale) := by
  refine .append ?_ (Number.Decimal.unquoted_pointed _ _)
  split <;> decide

-- ---------------------------------------------------------------------------
-- Dates, times and identifiers
-- ---------------------------------------------------------------------------

open Number (unquoted_padded)

/-- The text of a date has no quotes: they come with its literal. -/
theorem Date.unquoted_text (date : Date) : Unquoted date.text := by
  have hDash : Unquoted "-" := by decide
  have hYear : Unquoted (yearText date.year) := by
    refine .append ?_ (unquoted_padded _ _)
    split
    · decide
    · split <;> decide
  exact (((hYear.append hDash).append (unquoted_padded _ _)).append hDash).append
    (unquoted_padded _ _)

/-- A fraction of a second has no quotes. -/
theorem unquoted_fractionText (nanoseconds : Nat) : Unquoted (fractionText nanoseconds) := by
  have hPoint : Unquoted "." := by decide
  unfold fractionText
  split
  · decide
  · split
    · exact hPoint.append (unquoted_padded _ _)
    · split
      · exact hPoint.append (unquoted_padded _ _)
      · exact hPoint.append (unquoted_padded _ _)

theorem TimeOfDay.unquoted_text (time : TimeOfDay) : Unquoted time.text := by
  have hColon : Unquoted ":" := by decide
  exact (((((unquoted_padded _ _).append hColon).append (unquoted_padded _ _)).append
    hColon).append (unquoted_padded _ _)).append (unquoted_fractionText _)

/-- A timestamp has none if what separates its date and its time has none. -/
theorem Timestamp.unquoted_text (timestamp : Timestamp) {separator : String}
    (h : Unquoted separator) : Unquoted (timestamp.text separator) :=
  (timestamp.date.unquoted_text.append h).append timestamp.time.unquoted_text

/-- A timestamp with its offset has no quotes. -/
theorem ZonedTimestamp.unquoted_text (timestamp : ZonedTimestamp) : Unquoted timestamp.text := by
  have hColon : Unquoted ":" := by decide
  have hOffset : Unquoted (offsetText timestamp.offset) := by
    refine .append (.append (.append ?_ (unquoted_padded _ _)) hColon) (unquoted_padded _ _)
    split <;> decide
  exact (timestamp.localTime.unquoted_text (by decide)).append hOffset

/-- The text of an identifier has no quotes. -/
theorem unquoted_uuidText (value : Nat) : Unquoted (uuidText value) := by
  have hAll : ∀ c ∈ List.replicate (32 - (Nat.toDigits 16 value).length) '0' ++
      Nat.toDigits 16 value, c ≠ '\'' := by
    refine List.forall_mem_append.mpr ⟨fun c hc => ?_, fun c hc => ?_⟩
    · rw [List.eq_of_mem_replicate hc]
      decide
    · exact ne_quote_of_mem_toDigits (by decide) (by decide) hc
  refine .ofList ?_
  -- five groups, with a dash before each but the first
  simp only [List.forall_mem_append, List.forall_mem_cons]
  refine ⟨⟨⟨⟨?_, by decide, ?_⟩, by decide, ?_⟩, by decide, ?_⟩, by decide, ?_⟩
  · exact fun c hc => hAll c (List.mem_of_mem_take hc)
  · exact fun c hc => hAll c (List.mem_of_mem_drop (List.mem_of_mem_take hc))
  · exact fun c hc => hAll c (List.mem_of_mem_drop (List.mem_of_mem_take hc))
  · exact fun c hc => hAll c (List.mem_of_mem_drop (List.mem_of_mem_take hc))
  · exact fun c hc => hAll c (List.mem_of_mem_drop hc)

-- ---------------------------------------------------------------------------
-- Arrays
-- ---------------------------------------------------------------------------

namespace Datum

mutual

/-- The data in an array at any depth that are no arrays themselves; any other datum is its own
leaf. -/
def leaves : Datum → List Datum
  | array values => leavesAll values
  | value => [value]

def leavesAll : List Datum → List Datum
  | [] => []
  | value :: values => value.leaves ++ leavesAll values

end

/-- The single quotes that a leaf brings into an array. -/
def ownQuotes : Datum → Nat
  | float format bits =>
    match format.read bits with
    | .nan | .infinite _ => 2
    | .zero _ | .finite .. => 0
  | date _ | time _ | timestamp _ | zonedTimestamp _ | uuid _ => 2
  | text value => singleQuotes value
  | custom literal => singleQuotes literal
  | null | boolean _ | integer _ | decimal .. | array _ => 0

/-- A finite number has no quotes, and one that is not finite has the two around its name. -/
theorem singleQuotes_floatText (format : Number.BinaryFormat) (bits : Nat) :
    singleQuotes (floatText format bits) = (float format bits).ownQuotes := by
  rw [floatText, ownQuotes]
  cases format.read bits with
  | nan => rfl
  | infinite negative => cases negative <;> rfl
  | zero negative => cases negative <;> rfl
  | finite negative magnitude =>
    exact unquoted_iff.mp ((unquoted_sign negative).append (Number.Decimal.unquoted_positional _))

/-- A text without quotes has two of them between quotes. -/
theorem singleQuotes_of_unquoted {s : String} (h : Unquoted s) :
    singleQuotes (singleQuoted s) = 2 := by
  rw [singleQuotes_singleQuoted, unquoted_iff.mp h]

mutual

/-- The single quotes of an element are those of its leaves. -/
theorem singleQuotes_element : ∀ value : Datum,
    singleQuotes value.element = (value.leaves.map ownQuotes).sum
  | null => rfl
  | boolean value => unquoted_iff.mp (unquoted_booleanText value)
  | integer value => unquoted_iff.mp (unquoted_int value)
  | float format bits => singleQuotes_floatText format bits
  | decimal mantissa scale => unquoted_iff.mp (unquoted_decimalText mantissa scale)
  | text value => singleQuotes_textElement value
  | date value => singleQuotes_of_unquoted value.unquoted_text
  | time value => singleQuotes_of_unquoted value.unquoted_text
  | timestamp value => singleQuotes_of_unquoted (value.unquoted_text (by decide))
  | zonedTimestamp value => singleQuotes_of_unquoted value.unquoted_text
  | uuid value => singleQuotes_of_unquoted (unquoted_uuidText value)
  | array values => (singleQuotes_braced _).trans (singleQuotes_elementTexts values)
  | custom literal => rfl

/-- The elements of an array have the quotes of their leaves. -/
theorem singleQuotes_elementTexts : ∀ values : List Datum,
    ((elementTexts values).map singleQuotes).sum = ((leavesAll values).map ownQuotes).sum
  | [] => rfl
  | value :: values => by
    rw [elementTexts, leavesAll, List.map_cons, List.sum_cons, List.map_append, List.sum_append,
      singleQuotes_element value, singleQuotes_elementTexts values]

end

/-- A text whose only single quotes are its first and its last character. -/
def QuotedOnce (s : String) : Prop :=
  ∃ body, s = singleQuoted body ∧ Unquoted body

/-- A quoted text has only the outer quotes if there are none inside. -/
theorem quotedOnce_iff {s : String} : QuotedOnce (singleQuoted s) ↔ Unquoted s := by
  constructor
  · rintro ⟨body, hText, hBody⟩
    have hCount := congrArg singleQuotes hText
    rw [singleQuotes_singleQuoted, singleQuotes_of_unquoted hBody] at hCount
    exact unquoted_iff.mpr (by omega)
  · exact fun h => ⟨s, rfl, h⟩

/-- An array literal has its outer quotes and those that its leaves bring along. So it is one
quoted string exactly if no leaf has quotes: if there is no date, no time, no timestamp, no
universally unique identifier, no number that is not finite, and no text with a quote of its
own. -/
theorem singleQuotes_array (values : List Datum) :
    singleQuotes (array values).literal = 2 + ((leavesAll values).map ownQuotes).sum ∧
      (QuotedOnce (array values).literal ↔ ∀ leaf ∈ leavesAll values, leaf.ownQuotes = 0) := by
  have hLiteral : (array values).literal = singleQuoted (array values).element := rfl
  have hElement : singleQuotes (array values).element =
      ((leavesAll values).map ownQuotes).sum := singleQuotes_element (array values)
  refine ⟨?_, ?_⟩
  · rw [hLiteral, singleQuotes_singleQuoted, hElement, Nat.add_comm]
  · rw [hLiteral, quotedOnce_iff, unquoted_iff, hElement,
      List.sum_eq_zero_iff_forall_eq_nat, List.forall_mem_map]

/-- The literal of an array with a date ends before the date. -/
theorem array_of_date_unquotable :
    (array [date ⟨2024, 2, 29⟩]).literal = "'\x7b'2024-02-29'\x7d'" ∧
      ¬ QuotedOnce (array [date ⟨2024, 2, 29⟩]).literal := by
  refine ⟨by decide +kernel, fun h => ?_⟩
  have hBody : Unquoted (array [date ⟨2024, 2, 29⟩]).element := quotedOnce_iff.mp h
  exact absurd hBody (by decide +kernel)

end Datum

end QueryText

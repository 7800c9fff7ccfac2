import QueryText.Proofs.Arrays.Reader

/-!
# QueryText — array literals are read back

The literal of an array of integers, truth values, strings and missing values, nested to any depth,
has one reading. A string is the only element between double quotes, so the string `NULL` is no
missing value and the string `1` is no number; inside of the quotes braces and commas have no
meaning, and every character that would have one is escaped.

## Main results

* `Datum.Simple.reads` — the text of a datum as an element is read as its tree.
* `Datum.Simple.ofTree_tree` — a tree tells the datum that it was made from.
* `Datum.array_read_back` — the body of an array literal has one reading, the array.
-/

namespace QueryText

open ArrayReader (Plain plain_of_all Reads ReadsAll)

-- ---------------------------------------------------------------------------
-- Bare texts
-- ---------------------------------------------------------------------------

/-- Digits with a sign or without. -/
def Numeral (text : List Char) : Prop :=
  text ≠ [] ∧ ∀ c ∈ text, c.isDigit ∨ c = '-'

/-- The number of a numeral. -/
def numeralValue : List Char → Int
  | '-' :: digits => -(Nat.ofDigitChars 10 digits 0 : Int)
  | digits => Nat.ofDigitChars 10 digits 0

theorem toList_nat (n : Nat) : (toString n).toList = Nat.toDigits 10 n := by
  rw [Nat.toString_eq_ofList_toDigits, String.toList_ofList]

/-- A negative number is written with a sign before its digits. -/
theorem toList_negSucc (n : Nat) :
    (toString (Int.negSucc n)).toList = '-' :: Nat.toDigits 10 (n + 1) := by
  rw [← toList_nat]
  exact String.toList_append

theorem isDigit_of_mem_toDigits {n : Nat} {c : Char} (h : c ∈ Nat.toDigits 10 n) :
    c.isDigit = true :=
  Nat.isDigit_of_mem_toDigits (by decide) (by decide) h

/-- An integer is written as a numeral. -/
theorem numeral_int (n : Int) : Numeral (toString n).toList := by
  cases n with
  | ofNat n =>
    have hText : (toString (Int.ofNat n)).toList = Nat.toDigits 10 n := toList_nat n
    rw [hText]
    exact ⟨Nat.toDigits_ne_nil, fun c hc => Or.inl (isDigit_of_mem_toDigits hc)⟩
  | negSucc n =>
    rw [toList_negSucc]
    refine ⟨List.cons_ne_nil _ _, List.forall_mem_cons.mpr ⟨Or.inr rfl, fun c hc => ?_⟩⟩
    exact Or.inl (isDigit_of_mem_toDigits hc)

/-- The numeral of an integer tells the integer. -/
theorem numeralValue_int (n : Int) : numeralValue (toString n).toList = n := by
  cases n with
  | ofNat n =>
    have hText : (toString (Int.ofNat n)).toList = Nat.toDigits 10 n := toList_nat n
    rw [hText]
    unfold numeralValue
    split
    · rename_i digits hDigits
      -- a sign is no digit
      have hSign : '-' ∈ Nat.toDigits 10 n := by
        rw [hDigits]
        exact List.mem_cons_self ..
      exact absurd (isDigit_of_mem_toDigits hSign) (by decide)
    · rw [Nat.ofDigitChars_ten_toDigits]
      rfl
  | negSucc n =>
    rw [toList_negSucc, numeralValue, Nat.ofDigitChars_ten_toDigits]
    rfl

/-- Digits have no upper case. -/
theorem Char.toUpper_of_isDigit {c : Char} (h : c.isDigit = true) : c.toUpper = c := by
  simp only [Char.isDigit, Bool.and_eq_true, decide_eq_true_eq] at h
  unfold Char.toUpper
  rw [dif_neg]
  intro hLower
  exact absurd (UInt32.le_trans hLower.1 h.2) (by decide)

namespace Numeral

variable {text : List Char}

/-- Nothing in a numeral has a meaning in an array. -/
theorem plain (h : Numeral text) : ∀ c ∈ text, Plain c := by
  intro c hc hSpecial
  have hDigit := h.2 c hc
  simp only [List.mem_cons, List.not_mem_nil, or_false] at hSpecial
  rcases hSpecial with rfl | rfl | rfl | rfl | rfl | rfl
  all_goals exact absurd hDigit (by decide)

/-- A numeral is not taken for a missing value. -/
theorem ofBare_eq (h : Numeral text) : ArrayTree.ofBare text = .bare (String.ofList text) := by
  refine if_neg fun hNull => ?_
  -- a letter would be among the digits
  have hLetter : 'N' ∈ text.map Char.toUpper := by
    rw [hNull]
    decide
  obtain ⟨c, hc, hUpper⟩ := List.mem_map.mp hLetter
  rcases h.2 c hc with hDigit | rfl
  · rw [Char.toUpper_of_isDigit hDigit] at hUpper
    rw [hUpper] at hDigit
    exact absurd hDigit (by decide)
  · exact absurd hUpper (by decide)

end Numeral

-- ---------------------------------------------------------------------------
-- Data as trees
-- ---------------------------------------------------------------------------

namespace Datum

mutual

/-- What a datum stands for in an array: the structure, with a string as itself and any other leaf
as its bare text. -/
def tree : Datum → ArrayTree
  | null => .null
  | text value => .quoted value
  | array values => .array (trees values)
  | value => .bare value.element

def trees : List Datum → List ArrayTree
  | [] => []
  | value :: values => value.tree :: trees values

end

/-- The texts of elements are those of the data, one by one. -/
theorem elementTexts_eq_map (values : List Datum) : elementTexts values = values.map element := by
  induction values with
  | nil => rfl
  | cons value values ih => rw [elementTexts, ih, List.map_cons]

theorem trees_eq_map (values : List Datum) : trees values = values.map tree := by
  induction values with
  | nil => rfl
  | cons value values ih => rw [trees, ih, List.map_cons]

/-- A missing value, a truth value, an integer, a string, or an array of such data. -/
inductive Simple : Datum → Prop where
  | null : Simple null
  | boolean (value : Bool) : Simple (boolean value)
  | integer (value : Int) : Simple (integer value)
  | text (value : String) : Simple (text value)
  | array {values : List Datum} (h : ∀ value ∈ values, value.Simple) : Simple (array values)

/-- Elements are read as their trees, if it is so for each. -/
theorem readsAll {values : List Datum}
    (h : ∀ value ∈ values, Reads value.element.toList value.tree) :
    ReadsAll (elementTexts values) (trees values) := by
  rw [elementTexts_eq_map, trees_eq_map, ReadsAll, List.forall₂_map_left_iff,
    List.forall₂_map_right_iff, List.forall₂_same]
  exact h

/-- The text of a datum as an element is read as its tree. -/
theorem Simple.reads {value : Datum} (h : value.Simple) :
    Reads value.element.toList value.tree := by
  induction h with
  | null =>
    have hPlain : ∀ c ∈ 'N' :: "ULL".toList, Plain c := plain_of_all (by decide)
    exact Reads.bare hPlain
  | boolean value =>
    cases value with
    | true =>
      have hPlain : ∀ c ∈ 't' :: "rue".toList, Plain c := plain_of_all (by decide)
      exact Reads.bare hPlain
    | false =>
      have hPlain : ∀ c ∈ 'f' :: "alse".toList, Plain c := plain_of_all (by decide)
      exact Reads.bare hPlain
  | integer value =>
    have hNumeral := numeral_int value
    obtain ⟨c, text, hText⟩ := List.exists_cons_of_ne_nil hNumeral.1
    have hReads := Reads.bare (hText ▸ hNumeral.plain)
    rw [← hText, hNumeral.ofBare_eq, String.ofList_toList] at hReads
    exact hReads
  | text value => exact Reads.quoted value
  | array _ ih => exact Reads.array (readsAll ih)

-- ---------------------------------------------------------------------------
-- Trees as data
-- ---------------------------------------------------------------------------

mutual

/-- The datum that a tree was made from. -/
def ofTree : ArrayTree → Datum
  | .null => null
  | .bare s =>
    if s = "true" then boolean true
    else if s = "false" then boolean false
    else integer (numeralValue s.toList)
  | .quoted s => text s
  | .array trees => array (ofTrees trees)

def ofTrees : List ArrayTree → List Datum
  | [] => []
  | tree :: trees => ofTree tree :: ofTrees trees

end

/-- The trees of data tell the data, if it is so for each. -/
theorem ofTrees_trees {values : List Datum} (h : ∀ value ∈ values, ofTree value.tree = value) :
    ofTrees (trees values) = values := by
  induction values with
  | nil => rfl
  | cons value values ih =>
    obtain ⟨hFirst, hRest⟩ := List.forall_mem_cons.mp h
    rw [trees, ofTrees, hFirst, ih hRest]

/-- A word is not written as a number. -/
theorem toString_int_ne {n : Int} {s : String} {c : Char} (hc : c ∈ s.toList)
    (h : ¬ (c.isDigit ∨ c = '-')) : toString n ≠ s := fun hEq =>
  h ((numeral_int n).2 c (hEq ▸ hc))

/-- A tree tells the datum that it was made from. -/
theorem Simple.ofTree_tree {value : Datum} (h : value.Simple) : ofTree value.tree = value := by
  induction h with
  | null => rfl
  | boolean value => cases value <;> rfl
  | integer value =>
    have hTrue : toString value ≠ "true" := toString_int_ne (c := 't') (by decide) (by decide)
    have hFalse : toString value ≠ "false" := toString_int_ne (c := 'f') (by decide) (by decide)
    show ofTree (.bare (toString value)) = Datum.integer value
    rw [ofTree, if_neg hTrue, if_neg hFalse, numeralValue_int]
  | text value => rfl
  | @array values _ ih => rw [tree, ofTree, ofTrees_trees ih]

-- ---------------------------------------------------------------------------
-- Array literals
-- ---------------------------------------------------------------------------

/-- The literal of an array is its body between single quotes. -/
theorem toList_literal_array (values : List Datum) :
    (array values).literal.toList = '\'' :: ((braced (elementTexts values)).toList ++ ['\'']) := by
  show (singleQuoted _).toList = _
  rw [singleQuoted, String.toList_append, String.toList_append]
  rfl

/-- The body of an array is read as its trees, whatever follows. -/
theorem read_array {values : List Datum} (h : ∀ value ∈ values, value.Simple) (rest : List Char) :
    ArrayReader.read ((braced (elementTexts values)).toList ++ rest) =
      some (.array (trees values), rest) :=
  ArrayReader.read_braced (readsAll fun value hValue => (h value hValue).reads) rest

/-- The literal of an array of simple data stands between single quotes. What is between them is
read as the array, to its end and no further, whatever comes after it; and no other such array has
the same literal. -/
theorem array_read_back {values : List Datum} (h : ∀ value ∈ values, value.Simple) :
    ∃ body : List Char, (array values).literal.toList = '\'' :: (body ++ ['\'']) ∧
      (∀ rest, ArrayReader.read (body ++ rest) = some (.array (trees values), rest)) ∧
      ∀ others : List Datum, (∀ value ∈ others, value.Simple) →
        (array others).literal = (array values).literal → others = values := by
  refine ⟨_, toList_literal_array values, read_array h, fun others hOthers hSame => ?_⟩
  have hBodies : (braced (elementTexts others)).toList ++ ['\''] =
      (braced (elementTexts values)).toList ++ ['\''] := by
    have hTexts := congrArg String.toList hSame
    rw [toList_literal_array, toList_literal_array] at hTexts
    exact (List.cons.inj hTexts).2
  have hReads := read_array hOthers ['\'']
  rw [hBodies, read_array h] at hReads
  have hTrees : (array values).tree = (array others).tree :=
    (Prod.mk.inj (Option.some.inj hReads)).1
  have hData := congrArg ofTree hTrees
  rw [(Simple.array h).ofTree_tree, (Simple.array hOthers).ofTree_tree] at hData
  exact (Datum.array.inj hData).symm

/-- Strings that look like other elements, one with every special character, and an empty array
inside. -/
theorem array_read_back_mixed :
    let values : List Datum :=
      [text "NULL", null, text "1", integer 1, array [], array [text "\x7d, \"\\'", boolean true]]
    (∀ value ∈ values, value.Simple) ∧
      (array values).literal = "'\x7b\"NULL\", NULL, \"1\", 1, \x7b\x7d, " ++
        "\x7b\"\x7d, \\\"\\\\'\", true\x7d\x7d'" ∧
      (∃ body, (array values).literal.toList = '\'' :: (body ++ ['\'']) ∧
        ArrayReader.read body = some (.array
          [.quoted "NULL", .null, .quoted "1", .bare "1", .array [],
            .array [.quoted "\x7d, \"\\'", .bare "true"]], [])) ∧
      (array [null]).literal ≠ (array [text "NULL"]).literal := by
  intro values
  have hSimple : ∀ value ∈ values, value.Simple := by
    have hInner : ∀ value ∈ [text "\x7d, \"\\'", boolean true], value.Simple := by
      simp only [List.forall_mem_cons]
      exact ⟨.text _, .boolean true, fun _ hNone => absurd hNone List.not_mem_nil⟩
    have hEmpty : (array []).Simple := .array fun _ hNone => absurd hNone List.not_mem_nil
    simp only [values, List.forall_mem_cons]
    exact ⟨.text _, .null, .text _, .integer 1, hEmpty, .array hInner,
      fun _ hNone => absurd hNone List.not_mem_nil⟩
  obtain ⟨body, hText, hRead, -⟩ := array_read_back hSimple
  have hBody := hRead []
  rw [List.append_nil] at hBody
  refine ⟨hSimple, by decide +kernel, ⟨body, hText, hBody⟩, fun hSame => ?_⟩
  have hWord : ∀ value ∈ [text "NULL"], value.Simple := by
    simp only [List.forall_mem_singleton]
    exact .text _
  have hNone : ∀ value ∈ [null], value.Simple := by
    simp only [List.forall_mem_singleton]
    exact .null
  obtain ⟨_, -, -, hOnly⟩ := array_read_back hWord
  have hEqual := hOnly [null] hNone hSame
  simp at hEqual

end Datum

end QueryText

import Mathlib.Data.List.Forall2
import QueryText.Json.Literal
import QueryText.Proofs.Arrays.ReadBack

/-!
# QueryText — literals of JSON values and of host values

A JSON value has a literal if it is a scalar or an array of scalars. Its encoder is one of its own:
it looks at the elements of an array before it writes them, and has its own text for every scalar. A
scalar and an array of scalars also have a host value, whose literal is written by the encoder for
data. The two agree, except on floating point numbers, which JSON writes in its own format.

## Main results

* `Json.elementTexts_eq` — one element that holds other values is enough to refuse an array.
* `Json.literal_of_host` — the literal of a value is that of its host value.
* `Json.literal_agrees` — which values have a literal, and what it is.
-/

namespace QueryText

-- ---------------------------------------------------------------------------
-- Texts of arrays
-- ---------------------------------------------------------------------------

theorem commaSeparated_eq_intercalate (texts : List String) :
    commaSeparated texts = ", ".intercalate texts := by
  induction texts with
  | nil => rfl
  | cons s texts ih =>
    cases texts with
    | nil => rfl
    | cons t texts => rw [commaSeparated, ih, String.intercalate_cons_cons]

/-- A string between double quotes, with a backslash before every double quote and every backslash
in it. -/
def doubleQuoted (s : String) : String :=
  "\"" ++
    String.ofList (s.toList.flatMap fun c => if c = '\x22' ∨ c = '\\' then ['\\', c] else [c]) ++
    "\""

/-- A string is escaped in an array of data as in one of JSON values. -/
theorem textElement_eq (s : String) : textElement s = doubleQuoted s := by
  have hEscape : ∀ cs : List Char, escapeElement cs =
      cs.flatMap fun c => if c = '\x22' ∨ c = '\\' then ['\\', c] else [c] := by
    intro cs
    induction cs with
    | nil => rfl
    | cons c cs ih =>
      rw [escapeElement, List.flatMap_cons, ih]
      split <;> rfl
  rw [textElement, hEscape, doubleQuoted, ← String.toList_inj]
  simp

namespace Json

-- ---------------------------------------------------------------------------
-- Arrays of scalars
-- ---------------------------------------------------------------------------

/-- What a scalar is written as in an array. -/
inductive ElementText : Json → String → Prop where
  | null : ElementText .null "NULL"
  | yes : ElementText (.boolean true) "true"
  | no : ElementText (.boolean false) "false"
  | number (value : JsonNumber) : ElementText (.number value) value.text
  | string (value : String) : ElementText (.string value) (doubleQuoted value)

/-- A value that is no container has the text of an element. -/
theorem elementText_spec {value : Json} (h : ¬ value.isContainer) :
    ElementText value value.elementText := by
  cases value with
  | null => exact .null
  | boolean value =>
    cases value with
    | true => exact .yes
    | false => exact .no
  | number value => exact .number value
  | string value =>
    rw [elementText, textElement_eq]
    exact .string value
  | array items => exact absurd rfl h
  | object members => exact absurd rfl h

/-- An array is refused for the first of its elements that holds other values. -/
theorem elementTexts_eq (items : List Json) :
    elementTexts items =
      match items.find? isContainer with
      | some item => .error (.unsupportedLiteral ("nested JSON value in array: " ++ item.compact))
      | none => .ok (items.map elementText) := by
  induction items with
  | nil => rfl
  | cons item items ih =>
    rw [elementTexts, List.find?_cons]
    cases item.isContainer with
    | true => rfl
    | false =>
      rw [if_neg (by decide), ih]
      cases items.find? isContainer <;> rfl

/-- An array without containers has the texts of its items. -/
theorem elementTexts_of_flat {items : List Json} (h : ∀ item ∈ items, ¬ item.isContainer) :
    elementTexts items = .ok (items.map elementText) := by
  rw [elementTexts_eq, List.find?_eq_none.mpr h]

/-- An array with a container among its items has no literal. -/
theorem elementTexts_of_nested {items : List Json} (h : ∃ item ∈ items, item.isContainer) :
    ∃ reason, elementTexts items = .error (.unsupportedLiteral reason) := by
  obtain ⟨first, hFirst⟩ := Option.isSome_iff_exists.mp (List.find?_isSome.mpr h)
  rw [elementTexts_eq, hFirst]
  exact ⟨_, rfl⟩

/-- Whether a value has no literal: it is an object, or an array with an object or an array in
it. -/
def Refused : Json → Prop
  | object _ => True
  | array items => ∃ item ∈ items, item.isContainer
  | null | boolean _ | number _ | string _ => False

/-- A value that is refused has no literal. -/
theorem literal_of_refused {value : Json} (h : value.Refused) :
    ∃ reason, value.literal = .error (.unsupportedLiteral reason) := by
  cases value with
  | null => exact h.elim
  | boolean value => exact h.elim
  | number value => exact h.elim
  | string value => exact h.elim
  | array items =>
    obtain ⟨reason, hItems⟩ := elementTexts_of_nested h
    refine ⟨reason, ?_⟩
    rw [literal, hItems]
    rfl
  | object members => exact ⟨_, rfl⟩

/-- The literal of an array is put together from the texts of its elements. -/
theorem literal_array {items : List Json} (h : ¬ (array items).Refused) :
    (array items).literal = .ok (singleQuoted (braced (items.map elementText))) := by
  have hFlat : ∀ item ∈ items, ¬ item.isContainer :=
    fun item hItem hContainer => h ⟨item, hItem, hContainer⟩
  rw [literal, elementTexts_of_flat hFlat]
  rfl

/-- A value that is not refused has a literal. -/
theorem literal_of_not_refused {value : Json} (h : ¬ value.Refused) :
    ∃ text, value.literal = .ok text := by
  cases value with
  | null => exact ⟨_, rfl⟩
  | boolean value => exact ⟨_, rfl⟩
  | number value => exact ⟨_, rfl⟩
  | string value => exact ⟨_, rfl⟩
  | array items => exact ⟨_, literal_array h⟩
  | object members => exact absurd trivial h

/-- A value with a literal was not refused. -/
theorem not_refused_of_ok {value : Json} {text : String} (h : value.literal = .ok text) :
    ¬ value.Refused := by
  intro hRefused
  obtain ⟨reason, hError⟩ := literal_of_refused hRefused
  cases hError.symm.trans h

-- ---------------------------------------------------------------------------
-- Host values
-- ---------------------------------------------------------------------------

/-- The host value of a scalar. -/
def scalarHost? : Json → Option Datum
  | null => some .null
  | boolean value => some (.boolean value)
  | number (.integer value) => some (.integer value)
  | number (.float bits) => some (.float Number.binary64 bits)
  | string value => some (.text value)
  | array _ | object _ => none

/-- The host value of a scalar or of an array of scalars. -/
def host? : Json → Option Datum
  | array items => (items.mapM scalarHost?).map .array
  | value => value.scalarHost?

/-- Whether a value is a floating point number. -/
def isFloat : Json → Bool
  | number (.float _) => true
  | _ => false

/-- Whether all numbers of a scalar, or of an array of scalars, are integers. -/
def Whole : Json → Prop
  | array items => ∀ item ∈ items, ¬ item.isFloat
  | value => ¬ value.isFloat

/-- A scalar that is no floating point number has a host value, which is written alike as an element
of an array. -/
theorem element_of_host {value : Json} (hFlat : ¬ value.isContainer) (hWhole : ¬ value.isFloat) :
    ∃ datum, value.scalarHost? = some datum ∧ value.elementText = datum.element := by
  cases value with
  | null => exact ⟨_, rfl, rfl⟩
  | boolean value => exact ⟨_, rfl, rfl⟩
  | number value =>
    cases value with
    | integer value => exact ⟨_, rfl, rfl⟩
    | float bits => exact absurd rfl hWhole
  | string value => exact ⟨_, rfl, rfl⟩
  | array items => exact absurd rfl hFlat
  | object members => exact absurd rfl hFlat

/-- Items that are scalars and whole numbers have the texts of typed elements. -/
theorem elements_of_host {items : List Json} (hFlat : ∀ item ∈ items, ¬ item.isContainer)
    (hWhole : ∀ item ∈ items, ¬ item.isFloat) :
    ∃ data, items.mapM scalarHost? = some data ∧
      items.map elementText = data.map Datum.element := by
  induction items with
  | nil => exact ⟨[], rfl, rfl⟩
  | cons item items ih =>
    obtain ⟨hItemFlat, hRestFlat⟩ := List.forall_mem_cons.mp hFlat
    obtain ⟨hItemWhole, hRestWhole⟩ := List.forall_mem_cons.mp hWhole
    obtain ⟨datum, hHost, hText⟩ := element_of_host hItemFlat hItemWhole
    obtain ⟨data, hHosts, hTexts⟩ := ih hRestFlat hRestWhole
    refine ⟨datum :: data, ?_, ?_⟩
    · rw [List.mapM_cons, hHost, hHosts]
      rfl
    · rw [List.map_cons, List.map_cons, hText, hTexts]

/-- The literal of a value without floating point numbers is that of its host value. -/
theorem literal_of_host {value : Json} (hAccepted : ¬ value.Refused) (hWhole : value.Whole) :
    ∃ datum, value.host? = some datum ∧ value.literal = .ok datum.literal := by
  cases value with
  | null => exact ⟨_, rfl, rfl⟩
  | boolean value => exact ⟨_, rfl, rfl⟩
  | number value =>
    cases value with
    | integer value => exact ⟨_, rfl, rfl⟩
    | float bits => exact absurd rfl hWhole
  | string value => exact ⟨_, rfl, rfl⟩
  | array items =>
    have hFlat : ∀ item ∈ items, ¬ item.isContainer :=
      fun item hItem hContainer => hAccepted ⟨item, hItem, hContainer⟩
    obtain ⟨data, hHosts, hTexts⟩ := elements_of_host hFlat hWhole
    refine ⟨.array data, ?_, ?_⟩
    · rw [host?, hHosts]
      rfl
    · rw [literal_array hAccepted, hTexts, ← Datum.elementTexts_eq_map]
      rfl
  | object members => exact absurd trivial hAccepted

-- ---------------------------------------------------------------------------
-- The literals of JSON values
-- ---------------------------------------------------------------------------

/-- What the literal of a value is, if it has one. -/
structure LiteralAgrees (value : Json) : Prop where
  /-- Objects and arrays with objects or arrays in them are refused. -/
  refused : (∃ reason, value.literal = .error (.unsupportedLiteral reason)) ↔ value.Refused
  /-- Nothing else is. -/
  accepted : (∃ text, value.literal = .ok text) ↔ ¬ value.Refused
  /-- If all numbers are integers, the literal is that of the host value. -/
  typed : ∀ text, value.literal = .ok text → value.Whole →
    ∃ datum, value.host? = some datum ∧ text = datum.literal
  /-- A string of its own stands between single quotes. -/
  string : ∀ s, value = .string s → value.literal = .ok ("'" ++ s ++ "'")
  /-- The elements of an array, strings between double quotes among them, stand between braces, and
  the whole between single quotes. -/
  array : ∀ items text, value = .array items → value.literal = .ok text →
    ∃ texts, List.Forall₂ ElementText items texts ∧
      text = "'\x7b" ++ ", ".intercalate texts ++ "\x7d'"

/-- A JSON value has a literal exactly if it is a scalar or an array of scalars. Unless a number in
it is a floating point number, the literal is that of the host value. -/
theorem literal_agrees (value : Json) : value.LiteralAgrees := by
  constructor
  case refused =>
    refine ⟨fun ⟨reason, hError⟩ => ?_, literal_of_refused⟩
    by_contra hAccepted
    obtain ⟨text, hText⟩ := literal_of_not_refused hAccepted
    cases hError.symm.trans hText
  case accepted => exact ⟨fun ⟨text, hText⟩ => not_refused_of_ok hText, literal_of_not_refused⟩
  case typed =>
    intro text hText hWhole
    obtain ⟨datum, hHost, hLiteral⟩ := literal_of_host (not_refused_of_ok hText) hWhole
    exact ⟨datum, hHost, Except.ok.inj (hText.symm.trans hLiteral)⟩
  case string =>
    rintro s rfl
    rfl
  case array =>
    rintro items text rfl hText
    have hAccepted := not_refused_of_ok hText
    refine ⟨items.map elementText, ?_, ?_⟩
    · rw [List.forall₂_map_right_iff, List.forall₂_same]
      exact fun item hItem => elementText_spec fun hContainer => hAccepted ⟨item, hItem, hContainer⟩
    · have hOpening : "'\x7b" = "'" ++ "\x7b" := by decide
      have hClosing : "\x7d'" = "\x7d" ++ "'" := by decide
      rw [literal_array hAccepted] at hText
      rw [← Except.ok.inj hText, singleQuoted, braced, commaSeparated_eq_intercalate, hOpening,
        hClosing]
      simp only [String.append_assoc]

/-- Strings that look like other elements keep their quotes, and a nested array is refused behind
any number of scalars. -/
theorem literal_agrees_mixed :
    let flat := Json.array [.string "a\"\\'", .null, .string "NULL", .number (.integer (-1)),
      .boolean true]
    (∃ datum, flat.host? = some datum ∧ datum.literal =
        "'\x7b\"a\\\"\\\\'\", NULL, \"NULL\", -1, true\x7d'") ∧
      (∃ reason, (Json.array [.null, .array []]).literal =
        .error (.unsupportedLiteral reason)) := by
  intro flat
  have hText : flat.literal =
      .ok "'\x7b\"a\\\"\\\\'\", NULL, \"NULL\", -1, true\x7d'" := by rfl
  have hWhole : flat.Whole := by
    show ∀ item ∈ [_, _, _, _, _], ¬ isFloat item
    simp only [List.forall_mem_cons, isFloat]
    simp
  obtain ⟨datum, hHost, hLiteral⟩ := (literal_agrees flat).typed _ hText hWhole
  refine ⟨⟨datum, hHost, hLiteral.symm⟩, ?_⟩
  exact (literal_agrees _).refused.mpr ⟨_, List.mem_cons_of_mem _ (List.mem_cons_self ..), rfl⟩

end Json

end QueryText

import Mathlib.Data.List.DropRight
import QueryText.Expr
import QueryText.Proofs.Binding
import QueryText.Proofs.Styles

/-!
# QueryText — the tags of arguments and of values

An argument drops the blanks around its tag when it is made, and a value is kept under its tag as
it was given. So the slot of an argument has a trimmed tag, and a value is found there exactly if
its tag had no blanks to drop.

## Main results

* `Text.trim_eq_self_iff`, `Text.trim_eq_empty_iff` — what trimming leaves alone, and what it
  empties.
* `Statement.arguments_of_only` — one tag takes one slot, however often it is written.
* `Statement.only_tag_bound_iff` — when the value of the only tag of a statement is found.
* `padded_tag_unbound` — a tag with blanks around it whose value is not found.
-/

namespace QueryText

-- ---------------------------------------------------------------------------
-- Trimming
-- ---------------------------------------------------------------------------

namespace Text

/-- Whether a text is nothing but blanks. -/
def Blank (s : String) : Prop :=
  ∀ c ∈ s.toList, isBlank c = true

/-- Whether a text has no blank at either end. -/
def Tight (s : String) : Prop :=
  (∀ c ∈ s.toList.head?, isBlank c = false) ∧ ∀ c ∈ s.toList.getLast?, isBlank c = false

/-- Trimming drops the blanks at the start and those at the end. -/
theorem trimChars_eq (cs : List Char) : trimChars cs = (cs.dropWhile isBlank).rdropWhile isBlank :=
  rfl

/-- Nothing is left of blanks, and only of them. -/
theorem trimChars_eq_nil_iff (cs : List Char) :
    trimChars cs = [] ↔ ∀ c ∈ cs, isBlank c = true := by
  rw [trimChars_eq, List.rdropWhile_eq_nil_iff]
  refine ⟨fun hRest => ?_, fun hAll c hc => hAll c ((List.dropWhile_suffix _).mem hc)⟩
  -- what is left at the start does not begin with a blank, so nothing is left
  have hNone : cs.dropWhile isBlank = [] := by
    refine Decidable.byContradiction fun hSome => ?_
    have hHead := List.head_dropWhile_not isBlank hSome
    rw [hRest _ (List.head_mem hSome)] at hHead
    cases hHead
  exact List.dropWhile_eq_nil_iff.mp hNone

/-- A text without a blank at either end is left as it is. -/
theorem trimChars_eq_self_iff (cs : List Char) :
    trimChars cs = cs ↔
      (∀ c ∈ cs.head?, isBlank c = false) ∧ ∀ c ∈ cs.getLast?, isBlank c = false := by
  have hStart : cs.dropWhile isBlank = cs ↔ ∀ c ∈ cs.head?, isBlank c = false := by
    cases cs with
    | nil => simp
    | cons c cs => simp
  have hEnd : cs.rdropWhile isBlank = cs ↔ ∀ c ∈ cs.getLast?, isBlank c = false := by
    rw [List.rdropWhile_eq_self_iff]
    rcases List.eq_nil_or_concat cs with rfl | ⟨before, last, rfl⟩ <;> simp
  rw [← hStart, ← hEnd, trimChars_eq]
  constructor
  · intro hSame
    -- nothing gets longer, so nothing was dropped at either end
    have hPrefix := List.rdropWhile_prefix isBlank (cs.dropWhile isBlank)
    have hSuffix := List.dropWhile_suffix (l := cs) isBlank
    have hLength := hPrefix.length_le
    rw [hSame] at hLength
    have hFirst := hSuffix.eq_of_length (Nat.le_antisymm hSuffix.length_le hLength)
    rw [hFirst] at hSame
    exact ⟨hFirst, hSame⟩
  · rintro ⟨hFirst, hLast⟩
    rw [hFirst, hLast]

/-- Only a text without blanks at its ends is left alone. -/
theorem trim_eq_self_iff (s : String) : trim s = s ↔ Tight s := by
  rw [Tight, ← trimChars_eq_self_iff, trim]
  refine ⟨fun hSame => ?_, fun hSame => by rw [hSame, String.ofList_toList]⟩
  have hChars := congrArg String.toList hSame
  rwa [String.toList_ofList] at hChars

/-- Only of blanks nothing is left. -/
theorem trim_eq_empty_iff (s : String) : trim s = "" ↔ Blank s := by
  rw [Blank, ← trimChars_eq_nil_iff, trim]
  simp

end Text

-- ---------------------------------------------------------------------------
-- One tag, one slot
-- ---------------------------------------------------------------------------

namespace Slots

/-- A tag that is written any number of times takes one slot. -/
theorem foldl_grow_of_forall_eq {tags : List String} {tag : String} (hTag : tag ≠ "")
    (hSome : tags ≠ []) (hAll : ∀ t ∈ tags, t = tag) : tags.foldl grow [] = [tag] := by
  have hTaken : ∀ n, (List.replicate n tag).foldl grow [tag] = [tag] := by
    intro n
    induction n with
    | zero => rfl
    | succ n ih =>
      have hSame : grow [tag] tag = [tag] := grow_of_taken ⟨hTag, List.mem_singleton.mpr rfl⟩
      rw [List.replicate_succ, List.foldl_cons, hSame, ih]
  obtain ⟨first, rest, rfl⟩ := List.exists_cons_of_ne_nil hSome
  obtain rfl : first = tag := hAll first (List.mem_cons_self ..)
  have hRest : rest = List.replicate rest.length first :=
    List.eq_replicate_iff.mpr ⟨rfl, fun t ht => hAll t (List.mem_cons_of_mem _ ht)⟩
  have hNew : grow [] first = [first] := grow_of_not_taken fun hTaken => List.not_mem_nil hTaken.2
  rw [List.foldl_cons, hNew, hRest]
  exact hTaken _

end Slots

namespace Statement

/-- The statement writes arguments, and all of them are the one with the given tag. -/
def OnlyArgument (statement : Statement) (inferring : Bool) (tag : String) : Prop :=
  statement.written ⟨.positional, inferring⟩ ≠ [] ∧
    ∀ p ∈ statement.written ⟨.positional, inferring⟩, Expr.argument p.tag = Expr.arg tag

/-- One tag takes one slot, however often it is written. -/
theorem arguments_of_only {statement : Statement} {inferring : Bool} {tag : String}
    {rendering : Rendering} (hBlank : ¬ Text.Blank tag)
    (hOnly : statement.OnlyArgument inferring tag)
    (hRender : statement.render ⟨.positional, inferring⟩ = .ok rendering) :
    rendering.arguments = [Text.trim tag] := by
  obtain ⟨hSome, hAll⟩ := hOnly
  obtain ⟨hWritten, hArguments⟩ := written_of_ok hRender
  have hTags : (statement.written ⟨.positional, inferring⟩).map Placeholder.tag =
      (statement.layout inferring).tags := by
    rw [hWritten, Slots.map_tag_run]
  rw [hArguments, ← hTags]
  refine Slots.foldl_grow_of_forall_eq (mt (Text.trim_eq_empty_iff tag).mp hBlank) ?_ ?_
  · simpa using hSome
  · intro t ht
    obtain ⟨p, hp, rfl⟩ := List.mem_map.mp ht
    exact Expr.argument.inj (hAll p hp)

end Statement

-- ---------------------------------------------------------------------------
-- Values by tag
-- ---------------------------------------------------------------------------

variable {α : Type}

/-- A single value is found in a single slot exactly if both have the same tag. -/
theorem Rendering.bind_set {rendering : Rendering} {tag : String} (hTag : tag ≠ "")
    (hArguments : rendering.arguments = [tag]) (key : String) (value : α) :
    rendering.bind (({} : Bindings α).set key value) =
      if tag = key then .ok [value] else .error (.missingArgument (.tagged tag)) := by
  rw [bind, hArguments, Bindings.fill_cons, Bindings.slotValue_zero, if_neg hTag,
    Bindings.get?_set, Bindings.emptySlot, if_neg hTag]
  by_cases hKey : tag = key
  · rw [if_pos hKey, if_pos hKey]
    rfl
  · rw [if_neg hKey, if_neg hKey]
    rfl

/-- What happens to the value that was set for the only tag of a statement. -/
structure Bindings.FoundUnder (rendering : Rendering) (tag : String) (value : α) : Prop where
  /-- Set under the tag as it was given, the value is found exactly if the tag was given without
  blanks around it. -/
  given : rendering.bind (({} : Bindings α).set tag value) = .ok [value] ↔ Text.Tight tag
  /-- Otherwise the slot counts as empty. -/
  lost : ¬ Text.Tight tag →
    rendering.bind (({} : Bindings α).set tag value) =
      .error (.missingArgument (.tagged (Text.trim tag)))
  /-- Set under the trimmed tag, the value is always found. -/
  trimmed : rendering.bind (({} : Bindings α).set (Text.trim tag) value) = .ok [value]

/-- A statement that writes one argument, any number of times, and whose tag is not blank: it can be
rendered unless it is misused, and it has one slot. The value that is set for the tag gets there
exactly if the tag has no blanks at its ends. -/
theorem Statement.only_tag_bound_iff {statement : Statement} {inferring : Bool} {tag : String}
    (hBlank : ¬ Text.Blank tag) (hOnly : statement.OnlyArgument inferring tag)
    (hFault : statement.fault = none) (value : α) :
    ∃ rendering, statement.render ⟨.positional, inferring⟩ = .ok rendering ∧
      rendering.arguments = [Text.trim tag] ∧ Bindings.FoundUnder rendering tag value := by
  obtain ⟨rendering, hRender⟩ := (statement.exists_render_positional_iff inferring).mpr hFault
  have hArguments := arguments_of_only hBlank hOnly hRender
  have hBind := Rendering.bind_set (α := α) (mt (Text.trim_eq_empty_iff tag).mp hBlank) hArguments
  refine ⟨rendering, hRender, hArguments, ?_, ?_, ?_⟩
  · rw [hBind, ← Text.trim_eq_self_iff]
    by_cases hTight : Text.trim tag = tag <;> simp [hTight]
  · intro hLoose
    rw [hBind, if_neg (mt (Text.trim_eq_self_iff tag).mp hLoose)]
  · rw [hBind, if_pos rfl]

/-- A tag between blanks, written twice: its value is found under the trimmed tag only. -/
theorem Statement.only_tag_bound_twice :
    ∃ rendering,
      Statement.render (.select { items := [.arg " a\t", .group (.arg " a\t")] })
        ⟨.positional, true⟩ = .ok rendering ∧
      rendering.arguments = ["a"] ∧ Bindings.FoundUnder rendering " a\t" 1 := by
  have hBlank : ¬ Text.Blank " a\t" := by
    rw [← Text.trim_eq_empty_iff]
    decide
  have hTrim : Text.trim " a\t" = "a" := by decide
  have hWritten : Statement.written (.select { items := [.arg " a\t", .group (.arg " a\t")] })
      ⟨.positional, true⟩ = [⟨"a", 1⟩, ⟨"a", 1⟩] := by
    decide +kernel
  have hOnly : Statement.OnlyArgument (.select { items := [.arg " a\t", .group (.arg " a\t")] })
      true " a\t" := by
    rw [OnlyArgument, hWritten, Expr.arg, hTrim]
    simp
  exact only_tag_bound_iff hBlank hOnly rfl 1

/-- The value of a tag with a blank in front of it: the statement is rendered, and the value that is
set under the very same tag is not found. -/
theorem padded_tag_unbound :
    ∃ (statement : Statement) (tag : String) (rendering : Rendering),
      ¬ Text.Blank tag ∧ statement.OnlyArgument true tag ∧
      statement.render ⟨.positional, true⟩ = .ok rendering ∧
      rendering = ⟨"SELECT $1", ["a"], .positional⟩ ∧
      rendering.bind (({} : Bindings Nat).set tag 1) = .error (.missingArgument (.tagged "a")) := by
  have hTrim : Text.trim " a" = "a" := by decide
  have hWritten : Statement.written (.select { items := [.arg " a"] }) ⟨.positional, true⟩ =
      [⟨"a", 1⟩] := by
    decide +kernel
  refine ⟨.select { items := [.arg " a"] }, " a", ⟨"SELECT $1", ["a"], .positional⟩, ?_, ?_, ?_,
    rfl, rfl⟩
  · rw [← Text.trim_eq_empty_iff, hTrim]
    decide
  · rw [Statement.OnlyArgument, hWritten, Expr.arg, hTrim]
    simp
  · decide +kernel

end QueryText

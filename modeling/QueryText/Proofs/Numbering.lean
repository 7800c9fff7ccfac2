import Mathlib.Data.List.Pairwise
import QueryText.Render.ArgumentSlots

/-!
# QueryText — the numbering of arguments

Slots are handed out by first use. What a pass does to its slots depends only on the tags that it
meets, one after the other, so the numbering is a run over a list of tags: `Slots.grow` is one
step of it, and `Numbered` is what every step preserves.

## Main results

* `Slots.run_induction` — what one step preserves holds after a run.
* `Numbered.step` — one more placeholder keeps the numbering in order.
* `Numbered.run` — the placeholders of any list of tags are numbered in order.
* `Numbered.eq_of_slot` — a tag has one slot only.
-/

namespace QueryText

/-- A placeholder as it is written: its tag and the number of its slot. -/
structure Placeholder where
  tag : String
  number : Nat
  deriving DecidableEq, Repr

-- ---------------------------------------------------------------------------
-- The slots of a list of tags
-- ---------------------------------------------------------------------------

namespace Slots

/-- Whether an argument has a slot already: an anonymous one never does. -/
def Taken (slots : List String) (tag : String) : Prop :=
  tag ≠ "" ∧ tag ∈ slots

instance (slots : List String) (tag : String) : Decidable (Taken slots tag) :=
  inferInstanceAs (Decidable (_ ∧ _))

/-- The slots after an argument was written. -/
def grow (slots : List String) (tag : String) : List String :=
  if Taken slots tag then slots else slots ++ [tag]

/-- The number that an argument is written with. Slots are numbered from one. -/
def number (slots : List String) (tag : String) : Nat :=
  if Taken slots tag then slots.idxOf tag + 1 else slots.length + 1

/-- The placeholders of a list of tags. -/
def run (slots : List String) : List String → List Placeholder
  | [] => []
  | tag :: tags => ⟨tag, number slots tag⟩ :: run (grow slots tag) tags

/-- The tags behind others are numbered on from the slots that these took. -/
theorem run_append (slots tags more : List String) :
    run slots (tags ++ more) = run slots tags ++ run (tags.foldl grow slots) more := by
  induction tags generalizing slots with
  | nil => rfl
  | cons tag tags ih =>
    rw [List.cons_append, run, run, ih]
    rfl

/-- What one step preserves, a run preserves. -/
theorem run_induction {P : List Placeholder → List String → Prop}
    (hStep : ∀ placeholders slots, P placeholders slots →
      ∀ tag, P (placeholders ++ [⟨tag, number slots tag⟩]) (grow slots tag))
    (hNil : P [] []) (tags : List String) : P (run [] tags) (tags.foldl grow []) := by
  have hRun : ∀ placeholders slots, P placeholders slots →
      P (placeholders ++ run slots tags) (tags.foldl grow slots) := by
    induction tags with
    | nil =>
      intro placeholders slots h
      rw [run, List.append_nil]
      exact h
    | cons tag tags ih =>
      intro placeholders slots h
      have hRest := ih _ _ (hStep placeholders slots h tag)
      rw [List.append_assoc] at hRest
      exact hRest
  exact hRun [] [] hNil

/-- Numbering keeps the tags and their order. -/
theorem map_tag_run (slots tags : List String) : (run slots tags).map Placeholder.tag = tags := by
  induction tags generalizing slots with
  | nil => rfl
  | cons tag tags ih => rw [run, List.map_cons, ih]

/-- A tag that has a slot takes no new one. -/
theorem grow_of_taken {slots : List String} {tag : String} (h : Taken slots tag) :
    grow slots tag = slots :=
  if_pos h

/-- A tag without a slot takes the next. -/
theorem grow_of_not_taken {slots : List String} {tag : String} (h : ¬ Taken slots tag) :
    grow slots tag = slots ++ [tag] :=
  if_neg h

/-- A tag that has a slot has its number. -/
theorem number_of_taken {slots : List String} {tag : String} (h : Taken slots tag) :
    number slots tag = slots.idxOf tag + 1 :=
  if_pos h

/-- A tag without a slot has the number of the next. -/
theorem number_of_not_taken {slots : List String} {tag : String} (h : ¬ Taken slots tag) :
    number slots tag = slots.length + 1 :=
  if_neg h

theorem getElem?_idxOf {slots : List String} {tag : String} (h : tag ∈ slots) :
    slots[slots.idxOf tag]? = some tag := by
  rw [List.getElem?_eq_getElem (List.idxOf_lt_length_of_mem h), List.getElem_idxOf]

theorem idxOf?_of_mem {slots : List String} {tag : String} (h : tag ∈ slots) :
    slots.idxOf? tag = some (slots.idxOf tag) := by
  induction slots with
  | nil => exact absurd h List.not_mem_nil
  | cons first slots ih =>
    by_cases hFirst : first = tag
    · simp [hFirst, List.idxOf?_cons]
    · have hRest : tag ∈ slots := (List.mem_cons.mp h).resolve_left (Ne.symm hFirst)
      have hTest : (first == tag) = false := beq_eq_false_iff_ne.mpr hFirst
      rw [List.idxOf?_cons, List.idxOf_cons, ih hRest, hTest]
      rfl

end Slots

/-- The slots of a pass do what the run over its tags does. -/
theorem ArgumentSlots.lookup_eq (slots : ArgumentSlots) (tag : String) :
    slots.numbers.lookup tag =
      if Slots.Taken slots.tags.toList tag then some (slots.tags.toList.idxOf tag + 1)
      else none := by
  rw [slots.lookup_numbers]
  by_cases hEmpty : tag = ""
  · rw [if_pos hEmpty, if_neg fun h => h.1 hEmpty]
  · rw [if_neg hEmpty]
    by_cases hMem : tag ∈ slots.tags.toList
    · rw [if_pos ⟨hEmpty, hMem⟩, Slots.idxOf?_of_mem hMem]
      rfl
    · rw [if_neg fun h => hMem h.2, List.idxOf?_eq_none_iff.mpr hMem]
      rfl

/-- The table of known tags gives the number that looking through the slots gives. -/
theorem ArgumentSlots.number_eq (slots : ArgumentSlots) (tag : String) :
    slots.number tag = Slots.number slots.tags.toList tag := by
  rw [number, slots.lookup_eq]
  by_cases hTaken : Slots.Taken slots.tags.toList tag
  · rw [if_pos hTaken, Slots.number_of_taken hTaken, Option.getD_some]
  · rw [if_neg hTaken, Slots.number_of_not_taken hTaken, Option.getD_none, Array.length_toList]

/-- The table of known tags grows as the slots do. -/
theorem ArgumentSlots.tags_take (slots : ArgumentSlots) (tag : String) :
    (slots.take tag).tags.toList = Slots.grow slots.tags.toList tag := by
  have hLookup := slots.lookup_eq tag
  unfold take
  by_cases hTaken : Slots.Taken slots.tags.toList tag
  · rw [if_pos hTaken] at hLookup
    rw [Slots.grow_of_taken hTaken, dif_neg (by rw [hLookup]; exact Option.some_ne_none _)]
  · rw [if_neg hTaken] at hLookup
    rw [Slots.grow_of_not_taken hTaken, dif_pos hLookup]
    exact Array.toList_push

-- ---------------------------------------------------------------------------
-- The invariant
-- ---------------------------------------------------------------------------

section Firsts

variable {α : Type} [BEq α] [LawfulBEq α] {xs : List α} {x : α}

theorem eraseDups_concat_of_mem (h : x ∈ xs) : (xs ++ [x]).eraseDups = xs.eraseDups := by
  rw [List.eraseDups_append, List.removeAll, List.filter_cons_of_neg (by simpa using h),
    List.filter_nil, List.eraseDups_nil, List.append_nil]

theorem eraseDups_concat_of_notMem (h : x ∉ xs) :
    (xs ++ [x]).eraseDups = xs.eraseDups ++ [x] := by
  rw [List.eraseDups_append, List.removeAll, List.filter_cons_of_pos (by simpa using h),
    List.filter_nil, List.eraseDups_cons, List.filter_nil, List.eraseDups_nil]

end Firsts

/-- Placeholders that are numbered by first use, and the tags of their slots. -/
structure Numbered (placeholders : List Placeholder) (arguments : List String) : Prop where
  /-- The slot of a placeholder has its tag. -/
  slot : ∀ p ∈ placeholders, 0 < p.number ∧ arguments[p.number - 1]? = some p.tag
  /-- Two placeholders share a slot exactly if they have the same tag and are not anonymous. -/
  shared : placeholders.Pairwise fun p q => p.number = q.number ↔ p.tag = q.tag ∧ p.tag ≠ ""
  /-- Every slot is written. -/
  written : ∀ n, 0 < n → n ≤ arguments.length → ∃ p ∈ placeholders, p.number = n
  /-- New numbers come in order and without gaps. -/
  firstUse : (placeholders.map Placeholder.number).eraseDups = List.range' 1 arguments.length

namespace Numbered

variable {placeholders : List Placeholder} {arguments : List String}

/-- Without placeholders there is nothing to number. -/
theorem nil : Numbered [] [] where
  slot p hp := absurd hp List.not_mem_nil
  shared := List.Pairwise.nil
  written n hPos hLe := by
    rw [List.length_nil] at hLe
    omega
  firstUse := rfl

/-- No placeholder has a number beyond the slots. -/
theorem number_le (h : Numbered placeholders arguments) {p : Placeholder}
    (hp : p ∈ placeholders) : p.number ≤ arguments.length := by
  obtain ⟨hPos, hSlot⟩ := h.slot p hp
  have hLt := (List.getElem?_eq_some_iff.mp hSlot).1
  omega

/-- Any two placeholders with the same tag have the same number, unless they are anonymous. -/
theorem number_eq (h : Numbered placeholders arguments) {p q : Placeholder}
    (hp : p ∈ placeholders) (hq : q ∈ placeholders) (hTag : p.tag = q.tag) (hNamed : p.tag ≠ "") :
    p.number = q.number := by
  have hSymm : Std.Symm fun p q : Placeholder =>
      p.number = q.number ↔ p.tag = q.tag ∧ p.tag ≠ "" := by
    constructor
    intro p q hIff
    rw [eq_comm, hIff]
    constructor
    · rintro ⟨hEq, hNe⟩
      exact ⟨hEq.symm, hEq ▸ hNe⟩
    · rintro ⟨hEq, hNe⟩
      exact ⟨hEq.symm, hEq ▸ hNe⟩
  by_cases hSame : p = q
  · rw [hSame]
  · exact (h.shared.forall hp hq hSame).mpr ⟨hTag, hNamed⟩

/-- A tag has one slot only. -/
theorem eq_of_slot (h : Numbered placeholders arguments) {i j : Nat} {tag : String}
    (hNamed : tag ≠ "") (hi : arguments[i]? = some tag) (hj : arguments[j]? = some tag) :
    i = j := by
  -- both slots are written, and their placeholders have the same tag
  have hPlaced : ∀ k, arguments[k]? = some tag →
      ∃ p ∈ placeholders, p.number = k + 1 ∧ p.tag = tag := by
    intro k hk
    have hLt := (List.getElem?_eq_some_iff.mp hk).1
    obtain ⟨p, hp, hNumber⟩ := h.written (k + 1) (by omega) (by omega)
    have hSlot := (h.slot p hp).2
    rw [hNumber, Nat.add_sub_cancel, hk] at hSlot
    exact ⟨p, hp, hNumber, (Option.some.inj hSlot).symm⟩
  obtain ⟨p, hp, hpNumber, hpTag⟩ := hPlaced i hi
  obtain ⟨q, hq, hqNumber, hqTag⟩ := hPlaced j hj
  have hEq := h.number_eq hp hq (hpTag.trans hqTag.symm) (hpTag ▸ hNamed)
  omega

/-- A placeholder for a tag that has a slot already. -/
theorem step_taken (h : Numbered placeholders arguments) {tag : String}
    (hTaken : Slots.Taken arguments tag) :
    Numbered (placeholders ++ [⟨tag, arguments.idxOf tag + 1⟩]) arguments := by
  obtain ⟨hNamed, hMem⟩ := hTaken
  have hSlot := Slots.getElem?_idxOf hMem
  have hLt := List.idxOf_lt_length_of_mem hMem
  constructor
  case slot =>
    intro p hp
    rcases List.mem_append.mp hp with hOld | hNew
    · exact h.slot p hOld
    · obtain rfl := List.mem_singleton.mp hNew
      exact ⟨Nat.succ_pos _, hSlot⟩
  case shared =>
    refine List.pairwise_append.mpr ⟨h.shared, List.pairwise_singleton .., ?_⟩
    intro p hp q hq
    obtain rfl := List.mem_singleton.mp hq
    obtain ⟨hPos, hpSlot⟩ := h.slot p hp
    -- an equal number is the same slot, and by `eq_of_slot` an equal tag has no other one
    constructor
    · intro hNumber
      have hIndex : p.number - 1 = arguments.idxOf tag := by
        rw [hNumber]
        rfl
      rw [hIndex, hSlot] at hpSlot
      have hTag := Option.some.inj hpSlot
      exact ⟨hTag.symm, hTag ▸ hNamed⟩
    · rintro ⟨hTag, -⟩
      have hTag : p.tag = tag := hTag
      rw [hTag] at hpSlot
      have hIndex := h.eq_of_slot hNamed hpSlot hSlot
      show p.number = arguments.idxOf tag + 1
      omega
  case written =>
    intro n hPos hLe
    obtain ⟨p, hp, hNumber⟩ := h.written n hPos hLe
    exact ⟨p, List.mem_append_left _ hp, hNumber⟩
  case firstUse =>
    obtain ⟨p, hp, hNumber⟩ := h.written (arguments.idxOf tag + 1) (by omega) (by omega)
    have hOld : arguments.idxOf tag + 1 ∈ placeholders.map Placeholder.number :=
      List.mem_map.mpr ⟨p, hp, hNumber⟩
    rw [List.map_append]
    exact (eraseDups_concat_of_mem hOld).trans h.firstUse

/-- A placeholder with a slot of its own. -/
theorem step_new (h : Numbered placeholders arguments) {tag : String}
    (hNew : ¬ Slots.Taken arguments tag) :
    Numbered (placeholders ++ [⟨tag, arguments.length + 1⟩]) (arguments ++ [tag]) := by
  constructor
  case slot =>
    intro p hp
    rcases List.mem_append.mp hp with hOld | hLast
    · obtain ⟨hPos, hSlot⟩ := h.slot p hOld
      have hLe := h.number_le hOld
      exact ⟨hPos, by rw [List.getElem?_append_left (by omega), hSlot]⟩
    · obtain rfl := List.mem_singleton.mp hLast
      exact ⟨Nat.succ_pos _, by simp⟩
  case shared =>
    refine List.pairwise_append.mpr ⟨h.shared, List.pairwise_singleton .., ?_⟩
    intro p hp q hq
    obtain rfl := List.mem_singleton.mp hq
    have hLe := h.number_le hp
    have hSlot := (h.slot p hp).2
    -- the new slot lies behind all others, and no earlier placeholder has its tag
    constructor
    · intro hNumber
      have hNumber : p.number = arguments.length + 1 := hNumber
      omega
    · rintro ⟨hTag, hNamed⟩
      have hTag : p.tag = tag := hTag
      rw [hTag] at hSlot hNamed
      exact absurd ⟨hNamed, List.mem_of_getElem? hSlot⟩ hNew
  case written =>
    intro n hPos hLe
    rw [List.length_append, List.length_singleton] at hLe
    by_cases hLast : n = arguments.length + 1
    · exact ⟨_, List.mem_append_right _ (List.mem_singleton.mpr rfl), hLast.symm⟩
    · obtain ⟨p, hp, hNumber⟩ := h.written n hPos (by omega)
      exact ⟨p, List.mem_append_left _ hp, hNumber⟩
  case firstUse =>
    have hFresh : arguments.length + 1 ∉ placeholders.map Placeholder.number := by
      intro hMem
      obtain ⟨p, hp, hNumber⟩ := List.mem_map.mp hMem
      have hLe := h.number_le hp
      omega
    rw [List.map_append, List.length_append, List.length_singleton, List.range'_concat,
      ← h.firstUse, Nat.one_mul, Nat.add_comm 1]
    exact eraseDups_concat_of_notMem hFresh

/-- One more placeholder keeps the numbering in order. -/
theorem step (h : Numbered placeholders arguments) (tag : String) :
    Numbered (placeholders ++ [⟨tag, Slots.number arguments tag⟩]) (Slots.grow arguments tag) := by
  by_cases hTaken : Slots.Taken arguments tag
  · rw [Slots.number_of_taken hTaken, Slots.grow_of_taken hTaken]
    exact h.step_taken hTaken
  · rw [Slots.number_of_not_taken hTaken, Slots.grow_of_not_taken hTaken]
    exact h.step_new hTaken

/-- The placeholders of any list of tags are numbered by first use. -/
theorem run (tags : List String) : Numbered (Slots.run [] tags) (tags.foldl Slots.grow []) :=
  Slots.run_induction (fun _ _ h => h.step) Numbered.nil tags

end Numbered

end QueryText

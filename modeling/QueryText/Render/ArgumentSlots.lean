/-!
# QueryText — argument slots

The argument slots that a rendering pass has handed out, with the table by which a tag finds its
slot again. Slots are numbered from one. A tag keeps its slot; an anonymous argument, whose tag is
empty, always gets a new one and is never in the table.

The table and the list of tags are kept side by side. That they fit is part of the type, so
nothing that is built from slots has to ask for it.
-/

namespace QueryText

/-- The slots of the arguments that a pass has written. -/
structure ArgumentSlots where
  /-- The tag of each slot, in the order of the slots. -/
  tags : Array String := #[]
  /-- The number of the slot of a tag. -/
  numbers : List (String × Nat) := []
  /-- The table finds the first slot of every tag but the empty one. -/
  lookup_numbers : ∀ tag, numbers.lookup tag =
    if tag = "" then none else (tags.toList.idxOf? tag).map (· + 1) := by simp

namespace ArgumentSlots

/-- The number of the slot that an argument has or gets. -/
def number (slots : ArgumentSlots) (tag : String) : Nat :=
  (slots.numbers.lookup tag).getD (slots.tags.size + 1)

/-- The table after a tag that is not in it got the next slot. -/
def enter (slots : ArgumentSlots) (tag : String) : List (String × Nat) :=
  if tag = "" then slots.numbers else (tag, slots.tags.size + 1) :: slots.numbers

/-- A tag that is added is found at the end, unless it was there. -/
theorem idxOf?_push (tags : Array String) (tag key : String) :
    (tags.push tag).toList.idxOf? key =
      (tags.toList.idxOf? key).or (if tag = key then some tags.size else none) := by
  rw [Array.toList_push, List.idxOf?, List.findIdx?_append]
  by_cases h : tag = key <;> simp [h]

/-- Entering a new tag adds its number and changes no other; the empty tag is never found. -/
theorem lookup_enter (slots : ArgumentSlots) {tag : String}
    (h : slots.numbers.lookup tag = none) (key : String) :
    (slots.enter tag).lookup key =
      if key = "" then none else ((slots.tags.push tag).toList.idxOf? key).map (· + 1) := by
  have hKey := slots.lookup_numbers key
  rw [idxOf?_push]
  by_cases hSame : tag = key
  · subst hSame
    by_cases hEmpty : tag = ""
    · rw [enter, if_pos hEmpty, if_pos hEmpty, h]
    · -- the tag was nowhere before, so its new slot is the first
      rw [h, if_neg hEmpty, eq_comm, Option.map_eq_none_iff] at hKey
      rw [enter, if_neg hEmpty, if_neg hEmpty, hKey]
      simp
  · have hOther : (slots.enter tag).lookup key = slots.numbers.lookup key := by
      unfold enter
      split
      · rfl
      · rw [List.lookup_cons, beq_eq_false_iff_ne.mpr (Ne.symm hSame)]
    rw [hOther, if_neg hSame, Option.or_none, hKey]

/-- The slots after an argument was written. -/
def take (slots : ArgumentSlots) (tag : String) : ArgumentSlots :=
  if h : slots.numbers.lookup tag = none then
    { tags := slots.tags.push tag
      numbers := slots.enter tag
      lookup_numbers := slots.lookup_enter h }
  else slots

end ArgumentSlots

end QueryText

import Mathlib.Data.List.Induction
import Mathlib.Data.Nat.Find
import QueryText.Bindings
import QueryText.Proofs.Outcome

/-!
# QueryText — binding what was rendered

Rendering hands out slots by first use, and binding later walks over the slots with a queue of the
values that have no tag. The two meet in the rank of an anonymous slot: the number of anonymous
slots before it is at once the place of its placeholder among the anonymous ones and the place
of its value in the queue.

## Main results

* `Bindings.get?_build`, `Bindings.queue_build` — what any sequence of steps leaves.
* `Bindings.fill_ok`, `Bindings.fill_error` — what binding yields, slot by slot.
* `Ranked.run` — the ranks of the anonymous placeholders of a text.
* `Statement.bind_rendered` — every placeholder gets the value that was meant for it.
-/

namespace QueryText

variable {α : Type}

-- ---------------------------------------------------------------------------
-- Putting bindings together
-- ---------------------------------------------------------------------------

namespace Bindings

/-- A step of putting bindings together. -/
inductive Step (α : Type) where
  | set (tag : String) (value : α)
  | push (value : α)
  deriving DecidableEq, Repr

/-- The bindings after a step. -/
def apply (bindings : Bindings α) : Step α → Bindings α
  | .set tag value => bindings.set tag value
  | .push value => bindings.push value

/-- The bindings that a sequence of steps puts together. -/
def build (steps : List (Step α)) : Bindings α :=
  steps.foldl apply {}

/-- The value that a step gives to a tag. -/
def Step.valueOf? (tag : String) : Step α → Option α
  | set name value => if name = tag then some value else none
  | push _ => none

/-- The value that a step adds to the queue. -/
def Step.pushed? : Step α → Option α
  | set _ _ => none
  | push value => some value

/-- The last value that was set for a tag. -/
def lastSet (steps : List (Step α)) (tag : String) : Option α :=
  (steps.filterMap (Step.valueOf? tag)).getLast?

/-- The values without a tag, in order. -/
def pushed (steps : List (Step α)) : List α :=
  steps.filterMap Step.pushed?

theorem build_concat (steps : List (Step α)) (step : Step α) :
    build (steps ++ [step]) = (build steps).apply step :=
  List.foldl_concat ..

/-- Under a tag the value is found that was set last. -/
theorem get?_build (steps : List (Step α)) (tag : String) :
    (build steps).get? tag = lastSet steps tag := by
  induction steps using List.reverseRecOn with
  | nil => rfl
  | append_singleton steps step ih =>
    rw [build_concat, lastSet, List.filterMap_append]
    cases step with
    | set name value =>
      rw [apply, get?_set]
      by_cases hTag : tag = name
      · simp [hTag, Step.valueOf?]
      · have hName : name ≠ tag := Ne.symm hTag
        simp [hTag, hName, Step.valueOf?, ih, lastSet]
    | push value => simpa [apply, push, get?, Step.valueOf?, lastSet] using ih

/-- Values without a tag stand in the order in which they were pushed. -/
theorem queue_build (steps : List (Step α)) : (build steps).queue = pushed steps := by
  induction steps using List.reverseRecOn with
  | nil => rfl
  | append_singleton steps step ih =>
    rw [build_concat, pushed, List.filterMap_append]
    cases step with
    | set name value =>
      rw [List.filterMap_cons, Step.pushed?, List.filterMap_nil, List.append_nil]
      exact ih
    | push value => simp [apply, push, Step.pushed?, pushed, ih]

/-- A tag has a value exactly if it was set. -/
theorem isSome_lastSet {steps : List (Step α)} {tag : String} :
    (lastSet steps tag).isSome ↔ ∃ value, Step.set tag value ∈ steps := by
  rw [lastSet, List.getLast?_isSome]
  constructor
  · intro hSet
    obtain ⟨value, hValue⟩ := List.exists_mem_of_ne_nil _ hSet
    obtain ⟨step, hStep, hGives⟩ := List.mem_filterMap.mp hValue
    cases step with
    | push _ => cases hGives
    | set name given =>
      simp only [Step.valueOf?] at hGives
      split at hGives
      · rename_i hName
        exact ⟨given, hName ▸ hStep⟩
      · cases hGives
  · rintro ⟨value, hStep⟩
    refine List.ne_nil_of_mem (a := value) (List.mem_filterMap.mpr ⟨_, hStep, ?_⟩)
    exact if_pos rfl

-- ---------------------------------------------------------------------------
-- Filling slots
-- ---------------------------------------------------------------------------

/-- The value for a slot: that of its tag, or the one that its rank among the anonymous slots has
in the queue. -/
def slotValue (bindings : Bindings α) (queue : List α) (tags : List String) (slot : Nat) :
    Option α :=
  tags[slot]?.bind fun tag =>
    if tag = "" then queue[(tags.take slot).count ""]? else bindings.get? tag

/-- The slot that is reported when it has no value. -/
def emptySlot (tag : String) (number : Nat) : EmptySlot :=
  if tag = "" then .anonymous number else .tagged tag

variable {bindings : Bindings α}

/-- The queue for the slots after the first one. -/
def queueAfter (tag : String) (queue : List α) : List α :=
  if tag = "" then queue.tail else queue

/-- The first slot takes the value of its tag, or the first of the queue if it has none. -/
theorem slotValue_zero (tag : String) (queue : List α) (tags : List String) :
    bindings.slotValue queue (tag :: tags) 0 =
      if tag = "" then queue[0]? else bindings.get? tag :=
  rfl

/-- Each further slot takes its value from what the earlier ones leave of the queue. -/
theorem slotValue_succ (tag : String) (queue : List α) (tags : List String) (slot : Nat) :
    bindings.slotValue queue (tag :: tags) (slot + 1) =
      bindings.slotValue (queueAfter tag queue) tags slot := by
  unfold slotValue queueAfter
  rw [List.getElem?_cons_succ, List.take_succ_cons, List.count_cons]
  by_cases hTag : tag = ""
  · simp [hTag, List.getElem?_tail]
  · simp [hTag]

/-- Filling takes the value of the first slot and goes on with what the queue has left. -/
theorem fill_cons (number : Nat) (tag : String) (queue : List α) (tags : List String) :
    bindings.fill number queue (tag :: tags) =
      match bindings.slotValue queue (tag :: tags) 0 with
      | none => .error (.missingArgument (emptySlot tag number))
      | some value =>
        (bindings.fill (number + 1) (queueAfter tag queue) tags).map (value :: ·) := by
  rw [slotValue_zero, emptySlot, queueAfter]
  by_cases hTag : tag = ""
  · subst hTag
    cases queue <;> rfl
  · have hTest : ¬ tag.isEmpty = true := by simpa using hTag
    rw [if_neg hTag, if_neg hTag, if_neg hTag]
    exact if_neg hTest

/-- With a value for every slot, binding yields these values in the order of the slots. -/
theorem fill_ok {queue : List α} {tags : List String} (number : Nat)
    (h : ∀ slot < tags.length, (bindings.slotValue queue tags slot).isSome) :
    ∃ values, bindings.fill number queue tags = .ok values ∧ values.length = tags.length ∧
      ∀ slot < tags.length, values[slot]? = bindings.slotValue queue tags slot := by
  induction tags generalizing number queue with
  | nil => exact ⟨[], rfl, rfl, fun slot hSlot => absurd hSlot (Nat.not_lt_zero slot)⟩
  | cons tag tags ih =>
    obtain ⟨value, hValue⟩ := Option.isSome_iff_exists.mp (h 0 (Nat.succ_pos _))
    have hRest : ∀ slot < tags.length,
        (bindings.slotValue (queueAfter tag queue) tags slot).isSome := by
      intro slot hSlot
      have hNext := h (slot + 1) (Nat.succ_lt_succ hSlot)
      rwa [slotValue_succ] at hNext
    obtain ⟨values, hFill, hLength, hValues⟩ := ih (number + 1) hRest
    refine ⟨value :: values, ?_, congrArg Nat.succ hLength, ?_⟩
    · rw [fill_cons, hValue, hFill]
      rfl
    · intro slot hSlot
      cases slot with
      | zero => exact hValue.symm
      | succ slot =>
        rw [slotValue_succ]
        exact hValues slot (Nat.lt_of_succ_lt_succ hSlot)

/-- The first slot without a value is the one that is reported. -/
theorem fill_error {queue : List α} {tags : List String} {slot : Nat} {tag : String}
    (number : Nat) (hTag : tags[slot]? = some tag)
    (hEmpty : bindings.slotValue queue tags slot = none)
    (hFirst : ∀ earlier < slot, (bindings.slotValue queue tags earlier).isSome) :
    bindings.fill number queue tags =
      .error (.missingArgument (emptySlot tag (number + slot))) := by
  induction tags generalizing number queue slot with
  | nil => cases hTag
  | cons first tags ih =>
    rw [fill_cons]
    cases slot with
    | zero =>
      obtain rfl : first = tag := Option.some.inj hTag
      rw [hEmpty]
      rfl
    | succ slot =>
      obtain ⟨value, hValue⟩ := Option.isSome_iff_exists.mp (hFirst 0 (Nat.succ_pos _))
      rw [slotValue_succ] at hEmpty
      have hRest := ih (number + 1) hTag hEmpty fun earlier hEarlier => by
        have hNext := hFirst (earlier + 1) (Nat.succ_lt_succ hEarlier)
        rwa [slotValue_succ] at hNext
      rw [hValue, hRest, Nat.add_assoc, Nat.add_comm 1]
      rfl

/-- Either every slot has a value, or there is a first one without. -/
theorem slots_valued_or_first_empty (bindings : Bindings α) (queue : List α)
    (tags : List String) :
    (∀ slot < tags.length, (bindings.slotValue queue tags slot).isSome) ∨
      ∃ slot tag, tags[slot]? = some tag ∧ bindings.slotValue queue tags slot = none ∧
        ∀ earlier < slot, (bindings.slotValue queue tags earlier).isSome := by
  by_cases hAll : ∀ slot < tags.length, (bindings.slotValue queue tags slot).isSome
  · exact Or.inl hAll
  · right
    have hSome : ∃ slot, slot < tags.length ∧ bindings.slotValue queue tags slot = none := by
      simpa using hAll
    obtain ⟨hLt, hEmpty⟩ := Nat.find_spec hSome
    refine ⟨Nat.find hSome, tags[Nat.find hSome], List.getElem?_eq_getElem hLt, hEmpty, ?_⟩
    intro earlier hEarlier
    have hNot := Nat.find_min hSome hEarlier
    rw [Option.isSome_iff_ne_none]
    exact fun hNone => hNot ⟨Nat.lt_trans hEarlier hLt, hNone⟩

end Bindings

-- ---------------------------------------------------------------------------
-- The ranks of anonymous slots
-- ---------------------------------------------------------------------------

/-- The anonymous placeholders of a text, in order. -/
def anonymous (placeholders : List Placeholder) : List Placeholder :=
  placeholders.filter (·.tag = "")

/-- The place of an anonymous placeholder among the anonymous ones is that of its slot among the
anonymous slots. -/
structure Ranked (placeholders : List Placeholder) (arguments : List String) : Prop where
  count : (anonymous placeholders).length = arguments.count ""
  rank : ∀ k p, (anonymous placeholders)[k]? = some p →
    p.number - 1 < arguments.length ∧ (arguments.take (p.number - 1)).count "" = k

namespace Ranked

variable {placeholders : List Placeholder} {arguments : List String}

theorem nil : Ranked [] [] :=
  ⟨rfl, fun k p h => by cases h⟩

/-- A placeholder with a tag has no rank. -/
theorem step_tagged (h : Ranked placeholders arguments) {tag : String} (hTag : tag ≠ "")
    (number : Nat) {grown : List String} (hGrown : grown = arguments ∨ grown = arguments ++ [tag]) :
    Ranked (placeholders ++ [⟨tag, number⟩]) grown := by
  have hSame : anonymous (placeholders ++ [⟨tag, number⟩]) = anonymous placeholders := by
    simp [anonymous, hTag]
  rcases hGrown with rfl | rfl
  · exact ⟨hSame ▸ h.count, hSame ▸ h.rank⟩
  · refine ⟨?_, ?_⟩
    · rw [hSame, h.count, List.count_append, List.count_singleton, if_neg (by simpa using hTag)]
      rfl
    · intro k p hp
      rw [hSame] at hp
      obtain ⟨hLt, hRank⟩ := h.rank k p hp
      refine ⟨by rw [List.length_append]; omega, ?_⟩
      rw [List.take_append_of_le_length (Nat.le_of_lt hLt), hRank]

/-- An anonymous placeholder is the last of them, and so is its slot. -/
theorem step_anonymous (h : Ranked placeholders arguments) :
    Ranked (placeholders ++ [⟨"", arguments.length + 1⟩]) (arguments ++ [""]) := by
  have hMore : anonymous (placeholders ++ [⟨"", arguments.length + 1⟩]) =
      anonymous placeholders ++ [⟨"", arguments.length + 1⟩] := by
    simp [anonymous]
  refine ⟨?_, ?_⟩
  · rw [hMore, List.length_append, h.count, List.count_append]
    rfl
  · intro k p hp
    rw [hMore] at hp
    -- the new placeholder has as many before it as there are anonymous slots
    by_cases hOld : k < (anonymous placeholders).length
    · rw [List.getElem?_append_left hOld] at hp
      obtain ⟨hLt, hRank⟩ := h.rank k p hp
      refine ⟨by rw [List.length_append]; omega, ?_⟩
      rw [List.take_append_of_le_length (Nat.le_of_lt hLt), hRank]
    · rw [List.getElem?_append_right (Nat.le_of_not_lt hOld)] at hp
      obtain ⟨hIndex, hEq⟩ := List.getElem?_eq_some_iff.mp hp
      rw [List.length_singleton] at hIndex
      obtain rfl : p = ⟨"", arguments.length + 1⟩ := by simpa using hEq.symm
      refine ⟨by simp, ?_⟩
      rw [Nat.add_sub_cancel, List.take_left, ← h.count]
      omega

/-- One more placeholder keeps the ranks. -/
theorem step (h : Ranked placeholders arguments) (tag : String) :
    Ranked (placeholders ++ [⟨tag, Slots.number arguments tag⟩]) (Slots.grow arguments tag) := by
  by_cases hTag : tag = ""
  · subst hTag
    have hNew : ¬ Slots.Taken arguments "" := fun hTaken => hTaken.1 rfl
    rw [Slots.number_of_not_taken hNew, Slots.grow_of_not_taken hNew]
    exact h.step_anonymous
  · refine h.step_tagged hTag _ ?_
    by_cases hTaken : Slots.Taken arguments tag
    · exact Or.inl (Slots.grow_of_taken hTaken)
    · exact Or.inr (Slots.grow_of_not_taken hTaken)

/-- The anonymous placeholders of any list of tags have their ranks. -/
theorem run (tags : List String) : Ranked (Slots.run [] tags) (tags.foldl Slots.grow []) :=
  Slots.run_induction (fun _ _ h => h.step) Ranked.nil tags

end Ranked

-- ---------------------------------------------------------------------------
-- Values of placeholders
-- ---------------------------------------------------------------------------

namespace Bindings

variable {placeholders : List Placeholder} {arguments : List String} {steps : List (Step α)}

/-- The value that a sequence of steps has for a slot. -/
def valueAt (steps : List (Step α)) (arguments : List String) (slot : Nat) : Option α :=
  (build steps).slotValue (build steps).queue arguments slot

/-- The steps that a text needs: one for each tag, and as many values without a tag as there are
anonymous placeholders. -/
def Cover (steps : List (Step α)) (placeholders : List Placeholder) : Prop :=
  (∀ p ∈ placeholders, p.tag ≠ "" → ∃ value, Step.set p.tag value ∈ steps) ∧
    (anonymous placeholders).length ≤ (pushed steps).length

/-- Values for the slots such that every placeholder has what was meant for it. -/
structure Delivered (steps : List (Step α)) (placeholders : List Placeholder)
    (values : List α) : Prop where
  /-- A placeholder with a tag has the last value that was set for the tag. -/
  tagged : ∀ p ∈ placeholders, p.tag ≠ "" →
    ∃ value, values[p.number - 1]? = some value ∧ lastSet steps p.tag = some value
  /-- The anonymous placeholders have the values without a tag, in order. -/
  queued : ∀ (k : Nat) (p : Placeholder), (anonymous placeholders)[k]? = some p →
    ∃ value, values[p.number - 1]? = some value ∧ (pushed steps)[k]? = some value

/-- Whether a sequence of steps has a value for a slot. -/
def Provided (steps : List (Step α)) (arguments : List String) (slot : Nat) : Prop :=
  ∀ tag, arguments[slot]? = some tag →
    if tag = "" then (arguments.take slot).count "" < (pushed steps).length
    else ∃ value, Step.set tag value ∈ steps

/-- A slot with a tag holds the value that was set last for the tag. -/
theorem valueAt_tagged {slot : Nat} {tag : String} (hSlot : arguments[slot]? = some tag)
    (hTag : tag ≠ "") : valueAt steps arguments slot = lastSet steps tag := by
  rw [valueAt, slotValue, hSlot, Option.bind_some, if_neg hTag, get?_build]

/-- A slot without one holds the value at its place in the queue, counted among the slots without
tags. -/
theorem valueAt_anonymous {slot : Nat} (hSlot : arguments[slot]? = some "") :
    valueAt steps arguments slot = (pushed steps)[(arguments.take slot).count ""]? := by
  rw [valueAt, slotValue, hSlot, Option.bind_some, if_pos rfl, queue_build]

/-- A slot has a value exactly if one was provided for it. -/
theorem isSome_valueAt {slot : Nat} (h : slot < arguments.length) :
    (valueAt steps arguments slot).isSome ↔ Provided steps arguments slot := by
  have hSlot := List.getElem?_eq_getElem h
  by_cases hTag : arguments[slot] = ""
  · rw [hTag] at hSlot
    simp [valueAt_anonymous hSlot, Provided, hSlot]
  · rw [valueAt_tagged hSlot hTag, isSome_lastSet]
    simp [Provided, hSlot, hTag]

/-- A placeholder with a tag stands for the value that was set last for the tag. -/
theorem valueAt_of_tagged (hNumbered : Numbered placeholders arguments) {p : Placeholder}
    (hp : p ∈ placeholders) (hTag : p.tag ≠ "") :
    valueAt steps arguments (p.number - 1) = lastSet steps p.tag :=
  valueAt_tagged (hNumbered.slot p hp).2 hTag

/-- The anonymous placeholders stand for the pushed values, in order. -/
theorem valueAt_of_anonymous (hNumbered : Numbered placeholders arguments)
    (hRanked : Ranked placeholders arguments) {k : Nat} {p : Placeholder}
    (hp : (anonymous placeholders)[k]? = some p) :
    valueAt steps arguments (p.number - 1) = (pushed steps)[k]? := by
  obtain ⟨hMem, hTag⟩ := List.mem_filter.mp (List.mem_of_getElem? hp)
  have hTag : p.tag = "" := by simpa using hTag
  have hSlot := (hNumbered.slot p hMem).2
  rw [hTag] at hSlot
  rw [valueAt_anonymous hSlot, (hRanked.rank k p hp).2]

/-- There is a value for every slot exactly if the steps cover the placeholders. -/
theorem valued_iff_cover (steps : List (Step α)) (hNumbered : Numbered placeholders arguments)
    (hRanked : Ranked placeholders arguments) :
    (∀ slot < arguments.length, (valueAt steps arguments slot).isSome) ↔
      Cover steps placeholders := by
  constructor
  · intro hAll
    refine ⟨?_, ?_⟩
    · intro p hp hTag
      have hLe := hNumbered.number_le hp
      have hPos := (hNumbered.slot p hp).1
      have hSome := hAll (p.number - 1) (by omega)
      rw [valueAt_of_tagged hNumbered hp hTag] at hSome
      exact isSome_lastSet.mp hSome
    · -- the last anonymous placeholder needs the value of the highest rank
      by_cases hNone : (anonymous placeholders).length = 0
      · rw [hNone]
        exact Nat.zero_le _
      · have hLast : (anonymous placeholders).length - 1 <
            (anonymous placeholders).length := by omega
        have hp := List.getElem?_eq_getElem hLast
        have hSome := hAll _ (hRanked.rank _ _ hp).1
        rw [valueAt_of_anonymous hNumbered hRanked hp] at hSome
        have hLt : (anonymous placeholders).length - 1 < (pushed steps).length := by
          simpa using hSome
        omega
  · rintro ⟨hSet, hEnough⟩ slot hSlot
    obtain ⟨p, hp, hNumber⟩ := hNumbered.written (slot + 1) (Nat.succ_pos _) hSlot
    obtain rfl : slot = p.number - 1 := by omega
    by_cases hTag : p.tag = ""
    · have hMem : p ∈ anonymous placeholders :=
        List.mem_filter.mpr ⟨hp, by simpa using hTag⟩
      obtain ⟨k, hLt, hk⟩ := List.mem_iff_getElem.mp hMem
      have hk : (anonymous placeholders)[k]? = some p := by
        rw [List.getElem?_eq_getElem hLt, hk]
      rw [valueAt_of_anonymous hNumbered hRanked hk,
        List.getElem?_eq_getElem (Nat.lt_of_lt_of_le hLt hEnough)]
      rfl
    · rw [valueAt_of_tagged hNumbered hp hTag]
      exact isSome_lastSet.mpr (hSet p hp hTag)

/-- With a value for every slot, binding delivers the values. -/
theorem bind_ok {rendering : Rendering} (hNumbered : Numbered placeholders rendering.arguments)
    (hRanked : Ranked placeholders rendering.arguments)
    (h : ∀ slot < rendering.arguments.length,
      (valueAt steps rendering.arguments slot).isSome) :
    ∃ values, rendering.bind (build steps) = .ok values ∧
      values.length = rendering.arguments.length ∧ Delivered steps placeholders values := by
  obtain ⟨values, hFill, hLength, hValues⟩ := fill_ok 1 h
  refine ⟨values, hFill, hLength, ?_, ?_⟩
  · intro p hp hTag
    have hLe := hNumbered.number_le hp
    have hPos := (hNumbered.slot p hp).1
    have hLt : p.number - 1 < rendering.arguments.length := by omega
    obtain ⟨value, hValue⟩ := Option.isSome_iff_exists.mp (h _ hLt)
    refine ⟨value, (hValues _ hLt).trans hValue, ?_⟩
    rw [← valueAt_of_tagged hNumbered hp hTag, hValue]
  · intro k p hp
    have hLt := (hRanked.rank k p hp).1
    obtain ⟨value, hValue⟩ := Option.isSome_iff_exists.mp (h _ hLt)
    refine ⟨value, (hValues _ hLt).trans hValue, ?_⟩
    rw [← valueAt_of_anonymous hNumbered hRanked hp, hValue]

/-- Without a value for some slot, binding names the first such slot. -/
theorem bind_error {rendering : Rendering} {slot : Nat} {tag : String}
    (hTag : rendering.arguments[slot]? = some tag)
    (hEmpty : valueAt steps rendering.arguments slot = none)
    (hFirst : ∀ earlier < slot, (valueAt steps rendering.arguments earlier).isSome) :
    rendering.bind (build steps) = .error (.missingArgument (emptySlot tag (slot + 1))) ∧
      ¬ Provided steps rendering.arguments slot ∧
      ∀ earlier < slot, Provided steps rendering.arguments earlier := by
  have hLt := (List.getElem?_eq_some_iff.mp hTag).1
  refine ⟨?_, ?_, ?_⟩
  · rw [Nat.add_comm]
    exact fill_error 1 hTag hEmpty hFirst
  · rw [← isSome_valueAt hLt, hEmpty]
    exact Bool.false_ne_true
  · intro earlier hEarlier
    exact (isSome_valueAt (Nat.lt_trans hEarlier hLt)).mp (hFirst earlier hEarlier)

end Bindings

-- ---------------------------------------------------------------------------
-- Statements
-- ---------------------------------------------------------------------------

namespace Statement

open Bindings (Step build Cover Delivered Provided emptySlot)

/-- Binding succeeds exactly if the steps cover what was written, and then every placeholder has
the value that was meant for it. A failure names the first slot without a value. -/
theorem bind_rendered (statement : Statement) (inferring : Bool) (steps : List (Step α))
    {rendering : Rendering} (h : statement.render ⟨.positional, inferring⟩ = .ok rendering) :
    ((∃ values, rendering.bind (build steps) = .ok values) ↔
        Cover steps (statement.written ⟨.positional, inferring⟩)) ∧
      (∀ values, rendering.bind (build steps) = .ok values →
        values.length = rendering.arguments.length ∧
          Delivered steps (statement.written ⟨.positional, inferring⟩) values) ∧
      ∀ error, rendering.bind (build steps) = .error error →
        ∃ slot tag, rendering.arguments[slot]? = some tag ∧
          ¬ Provided steps rendering.arguments slot ∧
          (∀ earlier < slot, Provided steps rendering.arguments earlier) ∧
          error = .missingArgument (emptySlot tag (slot + 1)) := by
  obtain ⟨hWritten, hArguments⟩ := written_of_ok h
  have hNumbered : Numbered (statement.written ⟨.positional, inferring⟩) rendering.arguments := by
    rw [hWritten, hArguments]
    exact Numbered.run _
  have hRanked : Ranked (statement.written ⟨.positional, inferring⟩) rendering.arguments := by
    rw [hWritten, hArguments]
    exact Ranked.run _
  have hCover := Bindings.valued_iff_cover steps hNumbered hRanked
  -- one of two: every slot has a value, or one is the first without
  have hSlots :=
    (build steps).slots_valued_or_first_empty (build steps).queue rendering.arguments
  rcases hSlots with hAll | ⟨slot, tag, hTag, hEmpty, hFirst⟩
  · obtain ⟨values, hBind, hLength, hDelivered⟩ := Bindings.bind_ok hNumbered hRanked hAll
    refine ⟨⟨fun _ => hCover.mp hAll, fun _ => ⟨values, hBind⟩⟩, ?_, ?_⟩
    · intro others hOthers
      obtain rfl : values = others := Except.ok.inj (hBind.symm.trans hOthers)
      exact ⟨hLength, hDelivered⟩
    · intro error hError
      cases hBind.symm.trans hError
  · obtain ⟨hBind, hNot, hProvided⟩ := Bindings.bind_error hTag hEmpty hFirst
    have hLt := (List.getElem?_eq_some_iff.mp hTag).1
    refine ⟨⟨?_, ?_⟩, ?_, ?_⟩
    · rintro ⟨values, hValues⟩
      cases hBind.symm.trans hValues
    · intro hCovered
      exact absurd ((Bindings.isSome_valueAt hLt).mp (hCover.mpr hCovered slot hLt)) hNot
    · intro values hValues
      cases hBind.symm.trans hValues
    · intro error hError
      have hSame := (Except.error.inj (hBind.symm.trans hError)).symm
      exact ⟨slot, tag, hTag, hNot, hProvided, hSame⟩

/-- The last value of a tag and a value without a tag, each in its slot. -/
theorem bind_rendered_twice_set :
    Delivered [.set "a" 1, .push 2, .set "a" 3] [⟨"a", 1⟩, ⟨"", 2⟩, ⟨"a", 1⟩] [3, 2] := by
  have hRender : Statement.render
      (.select { items := [.argument "a", .argument "", .group (.argument "a")] })
      ⟨.positional, true⟩ = .ok ⟨"SELECT $1, $2, ($1)", ["a", ""], .positional⟩ := by
    decide +kernel
  have hWritten : written
      (.select { items := [.argument "a", .argument "", .group (.argument "a")] })
      ⟨.positional, true⟩ = [⟨"a", 1⟩, ⟨"", 2⟩, ⟨"a", 1⟩] := by
    decide +kernel
  have hBind := (bind_rendered _ true [.set "a" 1, .push 2, .set "a" 3] hRender).2.1 [3, 2]
    (by decide +kernel)
  rw [hWritten] at hBind
  exact hBind.2

end Statement

end QueryText

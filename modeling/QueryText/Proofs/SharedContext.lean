import QueryText.Proofs.Outcome

/-!
# QueryText — many writes on one context

A context can be shared by any number of expressions and statements, and a write that fails does
not spoil it. Wherever a write stops, it has added the beginning of its layout and nothing else:
what it changed around its parts is put back, and what it took back was its own.

## Main results

* `Write.wrote_after` — what one write adds, whether it succeeds or fails.
* `Context.Shared.step`, `Context.shared_afterWrites` — what a write preserves, and any row of them.
* `Context.kept_by_writes` — the context around each write of a row.
-/

namespace QueryText

-- ---------------------------------------------------------------------------
-- Writes
-- ---------------------------------------------------------------------------

/-- What can be written on a context. -/
inductive Write where
  | expr (expr : Expr)
  | statement (statement : Statement)

namespace Write

def writer : Write → Writer
  | expr e => e.write
  | statement s => s.write

/-- The context after a write, be it finished or not. -/
def after (write : Write) (ctx : Context) : Context :=
  write.writer.after ctx

def layout (auto : Bool) : Write → Layout
  | expr e => e.layout auto .reference
  | statement s => s.layout auto

def fault : Write → Option Misuse
  | expr _ => none
  | statement s => s.fault

/-- Each write lays out what it is about and stops at its fault. -/
theorem stops (write : Write) (auto : Bool) :
    write.writer.Stops ⟨.reference, auto, auto⟩ (write.layout auto) write.fault := by
  cases write with
  | expr e => exact (writeCases auto).expr e .reference auto
  | statement s => exact s.write_stops

end Write

/-- The context after a row of writes: the next one starts from what the last one left. -/
def Context.afterWrites (options : Options) (writes : List Write) : Context :=
  writes.foldl (fun ctx write => write.after ctx) (Context.start options)

-- ---------------------------------------------------------------------------
-- The table of slots
-- ---------------------------------------------------------------------------

namespace Slots

/-- A slot that was taken is never given up. -/
theorem prefix_grow (slots : List String) (tag : String) : slots <+: grow slots tag := by
  unfold grow
  split
  · exact List.prefix_rfl
  · exact List.prefix_append ..

theorem prefix_foldl_grow (slots tags : List String) : slots <+: tags.foldl grow slots := by
  induction tags generalizing slots with
  | nil => exact List.prefix_rfl
  | cons tag tags ih => exact (prefix_grow slots tag).trans (ih (grow slots tag))

end Slots

/-- The table sends the tags of the slots to their numbers and knows no others. -/
structure ArgumentSlots.Exact (slots : ArgumentSlots) : Prop where
  lookup_iff : ∀ tag number, slots.numbers.lookup tag = some number ↔
    tag ≠ "" ∧ 0 < number ∧ slots.tags[number - 1]? = some tag
  once : ∀ (i j : Nat) (tag : String), tag ≠ "" → slots.tags[i]? = some tag →
    slots.tags[j]? = some tag → i = j

/-- Slots that were handed out by first use have an exact table. -/
theorem ArgumentSlots.exact_of_grown {slots : ArgumentSlots} {tags : List String}
    (h : slots.tags.toList = tags.foldl Slots.grow []) : slots.Exact := by
  have hNumbered : Numbered (Slots.run [] tags) slots.tags.toList := h ▸ Numbered.run tags
  have hOnce : ∀ (i j : Nat) (tag : String), tag ≠ "" → slots.tags[i]? = some tag →
      slots.tags[j]? = some tag → i = j := by
    intro i j tag hNamed hi hj
    rw [← Array.getElem?_toList] at hi hj
    exact hNumbered.eq_of_slot hNamed hi hj
  refine ⟨fun tag number => ?_, hOnce⟩
  rw [slots.lookup_eq]
  constructor
  · intro hLookup
    split at hLookup
    · rename_i hTaken
      obtain rfl := Option.some.inj hLookup
      refine ⟨hTaken.1, Nat.succ_pos _, ?_⟩
      rw [Nat.add_sub_cancel, ← Array.getElem?_toList]
      exact Slots.getElem?_idxOf hTaken.2
    · cases hLookup
  · rintro ⟨hNamed, hPos, hSlot⟩
    have hMem : tag ∈ slots.tags.toList := by
      rw [← Array.getElem?_toList] at hSlot
      exact List.mem_of_getElem? hSlot
    have hFirst : slots.tags[slots.tags.toList.idxOf tag]? = some tag := by
      rw [← Array.getElem?_toList]
      exact Slots.getElem?_idxOf hMem
    have hIndex := hOnce _ _ tag hNamed hFirst hSlot
    rw [if_pos ⟨hNamed, hMem⟩, hIndex, Nat.sub_add_cancel hPos]

-- ---------------------------------------------------------------------------
-- One write
-- ---------------------------------------------------------------------------

/-- What a write keeps of the context that it was given. -/
structure Context.Kept (before after : Context) : Prop extends before.SamePlace after where
  text : ∃ more, after.text = before.text ++ more
  arguments : before.arguments.toList <+: after.arguments.toList

/-- A context that only grew is kept. -/
theorem Context.Wrote.kept {before after : Context} {l : Layout} (h : before.Wrote l after) :
    before.Kept after := by
  refine ⟨h.toSamePlace, ?_, ?_⟩
  · refine ⟨spellAll before.options.placeholder (l.fragments before.arguments.toList), ?_⟩
    rw [Context.text, Context.text, h.options, h.fragments, spellAll_append]
  · rw [h.arguments]
    exact Slots.prefix_foldl_grow ..

/-- What all writes on a context preserve. -/
structure Context.Shared (options : Options) (ctx : Context) : Prop
    extends (Context.start options).SamePlace ctx where
  grown : ∃ tags : List String, ctx.slots.tags.toList = tags.foldl Slots.grow []

namespace Context.Shared

variable {options : Options} {ctx : Context}

theorem start (options : Options) : Context.Shared options (Context.start options) :=
  ⟨⟨rfl, rfl, rfl⟩, [], rfl⟩

/-- A shared context is always in reference naming, with inference as at the start. -/
theorem place (h : ctx.Shared options) :
    ctx.place = ⟨.reference, options.inferring, options.inferring⟩ :=
  h.toSamePlace.place

end Context.Shared

/-- A write adds the beginning of its layout, however far it gets. -/
theorem Write.wrote_after (write : Write) {options : Options} {ctx : Context}
    (h : ctx.Shared options) :
    ∃ written rest, write.layout options.inferring = written ++ rest ∧
      ctx.Wrote written (write.after ctx) := by
  have hStops : write.writer.Stops ctx.place (write.layout options.inferring) write.fault := by
    rw [h.place]
    exact write.stops options.inferring
  obtain ⟨written, rest, hSplit, hWrote, -⟩ := hStops.wrote_after
  exact ⟨written, rest, hSplit, hWrote⟩

/-- A context is still shared after a write, whether that finished or failed. -/
theorem Context.Shared.step {options : Options} {ctx : Context} (h : ctx.Shared options)
    (write : Write) : (write.after ctx).Shared options := by
  obtain ⟨written, -, -, hWrote⟩ := write.wrote_after h
  obtain ⟨tags, hTags⟩ := h.grown
  refine ⟨h.toSamePlace.trans hWrote.toSamePlace, tags ++ written.tags, ?_⟩
  have hArguments : (write.after ctx).slots.tags.toList =
      written.tags.foldl Slots.grow ctx.slots.tags.toList := hWrote.arguments
  rw [hArguments, hTags, List.foldl_append]

/-- A context can be shared after any row of writes. -/
theorem Context.shared_afterWrites (options : Options) (writes : List Write) :
    (Context.afterWrites options writes).Shared options := by
  have hRun : ∀ ctx : Context, ctx.Shared options →
      (writes.foldl (fun ctx write => write.after ctx) ctx).Shared options := by
    induction writes with
    | nil => exact fun _ h => h
    | cons write writes ih => exact fun _ h => ih _ (h.step write)
  exact hRun _ (Context.Shared.start options)

-- ---------------------------------------------------------------------------
-- Taking a space back
-- ---------------------------------------------------------------------------

/-- A layout that ends in a space was written with the space, and without it before that. -/
theorem Layout.kept_by_dropGap {l : Layout} {ctx after : Context}
    (h : ctx.Wrote (l ++ Layout.gap) after) :
    after.text = after.dropGap.text ++ " " ∧ ctx.Kept after.dropGap := by
  have hFragments : after.fragments.toList =
      (ctx.fragments.toList ++ l.fragments ctx.arguments.toList) ++ [.gap] := by
    rw [h.fragments, Layout.fragments_append, List.append_assoc]
    rfl
  have hBack : after.fragments.back? = some .gap := by
    rw [← Array.getLast?_toList, hFragments, List.getLast?_concat]
  have hDropped : after.dropGap.fragments.toList =
      ctx.fragments.toList ++ l.fragments ctx.arguments.toList := by
    rw [Context.dropGap, if_pos hBack, Array.toList_pop, hFragments, List.dropLast_concat]
  obtain ⟨hPlace, hArguments⟩ :
      after.SamePlace after.dropGap ∧ after.dropGap.arguments = after.arguments := by
    rw [Context.dropGap, if_pos hBack]
    exact ⟨⟨rfl, rfl, rfl⟩, rfl⟩
  refine ⟨?_, h.toSamePlace.trans hPlace, ?_, ?_⟩
  · rw [Context.text, Context.text, hPlace.options, hFragments, hDropped, spellAll_append]
    rfl
  · refine ⟨spellAll ctx.options.placeholder (l.fragments ctx.arguments.toList), ?_⟩
    rw [Context.text, Context.text, hPlace.options, h.options, hDropped, spellAll_append]
  · rw [hArguments]
    exact h.kept.arguments

/-- A query ends in a space of its own, wherever it stands, so dropping the final space of the text
after it leaves all that was there before. -/
theorem Select.kept_by_dropGap {query : Select} {ctx after : Context}
    (h : query.write ctx = .ok () after) :
    after.text = after.dropGap.text ++ " " ∧ after.dropGap.text = dropFinalSpace after.text ∧
      ctx.Kept after.dropGap := by
  rw [(writeCases ctx.initial.inferring).select query ctx.naming ctx.options.inferring ctx rfl]
    at h
  obtain ⟨hText, hKept⟩ := Layout.kept_by_dropGap (Layout.wrote_of_ok h)
  refine ⟨hText, ?_, hKept⟩
  rw [hText, dropFinalSpace_append_space]

-- ---------------------------------------------------------------------------
-- A row of writes
-- ---------------------------------------------------------------------------

/-- Around each write of a row, finished or not: the surroundings stay, text and arguments only
grow, and the table of slots fits the arguments. A space is only taken back after a query: it is
the final one of the text, and the query wrote it. -/
theorem Context.kept_by_writes (options : Options) (writes : List Write) (next : Write) :
    (afterWrites options writes).Kept (next.after (afterWrites options writes)) ∧
      (next.after (afterWrites options writes)).slots.Exact ∧
      ∀ (query : Select) (ctx after : Context), query.write ctx = .ok () after →
        after.text = after.dropGap.text ++ " " ∧
          after.dropGap.text = dropFinalSpace after.text ∧ ctx.Kept after.dropGap := by
  have hShared := shared_afterWrites options writes
  obtain ⟨written, -, -, hWrote⟩ := next.wrote_after hShared
  obtain ⟨tags, hTags⟩ := (hShared.step next).grown
  exact ⟨hWrote.kept, ArgumentSlots.exact_of_grown hTags, fun _ _ _ => Select.kept_by_dropGap⟩

/-- A write that stops inside a sub-query, after another one that did, and a query behind both. -/
theorem Context.kept_by_writes_refused :
    let refused : Write := .expr (.subquery .exists { items := [.argument "a", .argument ""] })
    let before := afterWrites ⟨.named, true⟩ [refused]
    let after := refused.after before
    let query : Select := { items := [.star] }
    before.text = "EXISTS (SELECT :a, " ∧
      after.text = "EXISTS (SELECT :a, EXISTS (SELECT :a, " ∧
      before.Kept after ∧ after.slots.Exact ∧
      (query.write.after after).text = (query.write.after after).dropGap.text ++ " " := by
  intro refused before after query
  obtain ⟨hKept, hExact, hQuery⟩ := kept_by_writes ⟨.named, true⟩ [refused] refused
  have hWritten : query.write after = .ok () (query.write.after after) := rfl
  exact ⟨by decide +kernel, by decide +kernel, hKept, hExact, (hQuery query after _ hWritten).1⟩

end QueryText

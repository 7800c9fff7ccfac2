import Mathlib.Data.List.Induction
import QueryText.Proofs.Raw.Filling

/-!
# QueryText — backslashes in raw SQL

Where a backslash takes the next character literally, a quote delimits a region exactly if the run
of backslashes before it has an even length: they escape one another in pairs. The writer looks at
one character only. It takes a quote for a delimiter exactly if no backslash stands right before
it, so a run of two or more backslashes of even length hides a delimiter from it. Where no quote
stands behind such a run, both readings agree.

A text that was read is given by its characters with the last one first, so that what stands right
before a character is at the head.

## Main results

* `Raw.scanned_eq` — the writer's reading, by the runs of backslashes.
* `Raw.region_of_noEvenRun` — where the writer and the rule agree.
* `Context.fills_by_backslashes` — which quotes count, and where the operands go.
* `Context.even_run_hides_delimiter` — an even run that hides a hole.
-/

namespace QueryText

-- ---------------------------------------------------------------------------
-- Readings by runs of backslashes
-- ---------------------------------------------------------------------------

namespace Raw

/-- The number of backslashes that a text ends in, given its last character first. -/
def backslashes (read : List Char) : Nat :=
  (read.takeWhile fun c => c = '\\').length

/-- The region that a text ends in, given its last character first, if a quote counts by the number
of backslashes before it. -/
def region (counts : Nat → Bool) : List Char → Option Char
  | [] => none
  | c :: read =>
    if counts (backslashes read) then regionAfter (region counts read) c else region counts read

/-- The marks of a text behind one that was read: the question marks outside of all regions are
holes. -/
def marksBy (counts : Nat → Bool) (read : List Char) : List Char → List Mark
  | [] => []
  | c :: cs =>
    (if (region counts read).isNone && c == '?' then .hole else .kept c) ::
      marksBy counts (c :: read) cs

/-- The rule of backslashes that take the next character literally. -/
def inPairs (run : Nat) : Bool :=
  run % 2 == 0

/-- The reading of the writer. -/
def alone (run : Nat) : Bool :=
  run == 0

/-- A run of backslashes ends at any other character. -/
theorem backslashes_cons (c : Char) (read : List Char) :
    backslashes (c :: read) = if c = '\\' then backslashes read + 1 else 0 := by
  rw [backslashes, List.takeWhile_cons]
  by_cases hc : c = '\\'
  · rw [if_pos hc, if_pos (decide_eq_true hc)]
    rfl
  · rw [if_neg hc, if_neg (by simpa using hc)]
    rfl

-- ---------------------------------------------------------------------------
-- The writer's reading
-- ---------------------------------------------------------------------------

/-- Where the writer stands after a text, given the last character first. -/
def scanAt (read : List Char) : Scan :=
  ⟨region alone read, !alone (backslashes read)⟩

/-- One more character: it is escaped exactly if a backslash stands right before it. -/
theorem next_scanAt (read : List Char) (c : Char) : (scanAt read).next c = scanAt (c :: read) := by
  have hEscaped : (c == '\\') = !alone (backslashes (c :: read)) := by
    rw [backslashes_cons]
    by_cases hc : c = '\\'
    · simp [hc, alone]
    · simp [hc, alone]
  have hQuote : (scanAt read).quoteAfter c = region alone (c :: read) := by
    rw [Scan.quoteAfter_eq, region, scanAt]
    cases alone (backslashes read) <;> rfl
  rw [Scan.next, hEscaped, hQuote]
  rfl

/-- Where the writer stands after a text. -/
def scanned (cs : List Char) : Scan :=
  cs.foldl Scan.next {}

/-- The state of the scan is told by the characters that it has read. -/
theorem scanned_eq (cs : List Char) : scanned cs = scanAt cs.reverse := by
  have hRun : ∀ read : List Char, cs.foldl Scan.next (scanAt read) =
      scanAt (cs.reverse ++ read) := by
    induction cs with
    | nil => exact fun _ => rfl
    | cons c cs ih =>
      intro read
      rw [List.foldl_cons, next_scanAt, ih, List.reverse_cons, List.append_assoc]
      rfl
  have hStart := hRun []
  rw [List.append_nil] at hStart
  exact hStart

/-- The scan takes every backslash for an escape, also one that is escaped itself. -/
theorem marks_scanAt (read cs : List Char) : marks (scanAt read) cs = marksBy alone read cs := by
  induction cs generalizing read with
  | nil => rfl
  | cons c cs ih =>
    rw [marks, marksBy, next_scanAt, ih]
    rfl

-- ---------------------------------------------------------------------------
-- Texts without an even run before a quote
-- ---------------------------------------------------------------------------

/-- No quote stands behind a run of two, four or more backslashes of even length. -/
def NoEvenRun (cs : List Char) : Prop :=
  ∀ (i : Nat) (h : i < cs.length), IsQuote cs[i] →
    backslashes (cs.take i).reverse = 0 ∨ backslashes (cs.take i).reverse % 2 = 1

instance (cs : List Char) : Decidable (NoEvenRun cs) :=
  inferInstanceAs (Decidable (∀ (i : Nat) (h : i < cs.length), IsQuote cs[i] → _))

/-- Before a quote there is no backslash, or an odd number of them. -/
theorem NoEvenRun.run {before after : List Char} {q : Char} (h : NoEvenRun (before ++ q :: after))
    (hQuote : IsQuote q) :
    backslashes before.reverse = 0 ∨ backslashes before.reverse % 2 = 1 := by
  have hHere := h before.length (by simp)
  rw [List.take_left] at hHere
  exact hHere (by simpa using hQuote)

/-- Regions are opened by quotes. -/
theorem quote_of_region {counts : Nat → Bool} {read : List Char} {q : Char}
    (h : region counts read = some q) : IsQuote q := by
  induction read with
  | nil => cases h
  | cons c read ih =>
    rw [region] at h
    by_cases hCounts : counts (backslashes read) = true
    · rw [if_pos hCounts] at h
      cases hBefore : region counts read with
      | none =>
        rw [hBefore, regionAfter] at h
        by_cases hQuote : IsQuote c
        · rw [if_pos hQuote] at h
          exact Option.some.inj h ▸ hQuote
        · rw [if_neg hQuote] at h
          cases h
      | some opened =>
        rw [hBefore, regionAfter] at h
        by_cases hClosed : c = opened
        · rw [if_pos hClosed] at h
          cases h
        · rw [if_neg hClosed] at h
          exact ih (hBefore.trans h)
    · rw [if_neg hCounts] at h
      exact ih h

/-- A character that is no quote leaves the region as it is. -/
theorem regionAfter_of_not_quote {counts : Nat → Bool} {read : List Char} {c : Char}
    (hc : ¬ IsQuote c) :
    regionAfter (region counts read) c = region counts read := by
  cases hRegion : region counts read with
  | none => exact if_neg hc
  | some q =>
    have hOther : c ≠ q := fun hEq => hc (hEq ▸ quote_of_region hRegion)
    exact if_neg hOther

/-- Without an even run before a quote, the writer finds the regions of the rule. -/
theorem region_of_noEvenRun {before after : List Char} (h : NoEvenRun (before ++ after)) :
    region alone before.reverse = region inPairs before.reverse := by
  induction before using List.reverseRecOn generalizing after with
  | nil => rfl
  | append_singleton before c ih =>
    rw [List.append_assoc, List.singleton_append] at h
    have hSame := ih h
    rw [List.reverse_append, List.reverse_singleton, List.singleton_append, region, region, hSame]
    by_cases hQuote : IsQuote c
    · have hCounts : alone (backslashes before.reverse) = inPairs (backslashes before.reverse) := by
        rcases h.run hQuote with hNone | hOdd
        · rw [hNone]
          rfl
        · have hSome : backslashes before.reverse ≠ 0 := by
            intro hNone
            rw [hNone] at hOdd
            cases hOdd
          simp [alone, inPairs, hOdd, hSome]
      rw [hCounts]
    · -- whether it counts or not, the region stays
      rw [regionAfter_of_not_quote hQuote, ite_self, ite_self]

/-- Without an even run before a quote both readings of backslashes leave the same holes. -/
theorem marksBy_of_noEvenRun (before : List Char) {cs : List Char} (h : NoEvenRun (before ++ cs)) :
    marksBy alone before.reverse cs = marksBy inPairs before.reverse cs := by
  induction cs generalizing before with
  | nil => rfl
  | cons c cs ih =>
    have hRest := ih (before ++ [c]) (by rwa [List.append_assoc, List.singleton_append])
    rw [List.reverse_append, List.reverse_singleton, List.singleton_append] at hRest
    rw [marksBy, marksBy, region_of_noEvenRun h, hRest]

end Raw

-- ---------------------------------------------------------------------------
-- Raw SQL in a context
-- ---------------------------------------------------------------------------

/-- A quote of the kind that opened a region closes it exactly if no backslash stands right before
it, so never behind a run of odd length; and the operands go where the regions that are found so
leave a question mark outside. Where no quote stands behind a run of two or more backslashes of
even length, this is the reading in which backslashes escape one another in pairs: the same
quotes count, and the operands go into the same holes. -/
theorem Context.fills_by_backslashes (ctx : Context) (sql : String) (operands : List Expr) :
    (∀ before q after, sql.toList = before ++ q :: after →
        (Raw.scanned before).quote = some q →
          ((Raw.scanned (before ++ [q])).quote = none ↔
            Raw.backslashes before.reverse = 0)) ∧
      ctx.Fills sql operands (Raw.marksBy Raw.alone [] sql.toList) ∧
      (Raw.NoEvenRun sql.toList →
        (∀ before after, sql.toList = before ++ after →
          (Raw.scanned before).quote = Raw.region Raw.inPairs before.reverse) ∧
        ctx.Fills sql operands (Raw.marksBy Raw.inPairs [] sql.toList)) := by
  have hFills : ctx.Fills sql operands (Raw.marksBy Raw.alone [] sql.toList) := by
    have hMarks : Raw.marks {} sql.toList = Raw.marksBy Raw.alone [] sql.toList :=
      Raw.marks_scanAt [] sql.toList
    rw [← hMarks]
    exact ctx.fills sql operands
  refine ⟨fun before q after _ hOpen => ?_, hFills, fun hRuns => ⟨?_, ?_⟩⟩
  · have hRegion : Raw.region Raw.alone before.reverse = some q := by
      rw [Raw.scanned_eq] at hOpen
      exact hOpen
    have hAfter : (Raw.scanned (before ++ [q])).quote =
        if Raw.alone (Raw.backslashes before.reverse) then none else some q := by
      rw [Raw.scanned_eq, List.reverse_append, List.reverse_singleton, List.singleton_append,
        Raw.scanAt, Raw.region, hRegion, Raw.regionAfter, if_pos rfl]
    rw [hAfter]
    by_cases hNone : Raw.backslashes before.reverse = 0
    · simp [Raw.alone, hNone]
    · simp [Raw.alone, hNone]
  · intro before after hSplit
    rw [hSplit] at hRuns
    rw [Raw.scanned_eq, Raw.scanAt, Raw.region_of_noEvenRun hRuns]
  · have hSame : Raw.marksBy Raw.alone [] sql.toList = Raw.marksBy Raw.inPairs [] sql.toList :=
      Raw.marksBy_of_noEvenRun [] hRuns
    rw [← hSame]
    exact hFills

/-- Odd runs before quotes outside of all regions and inside of one. -/
theorem Context.fills_by_backslashes_odd :
    let sql := "\\'? 'a\\\\\\'?' ?"
    let operands : List Expr := [.argument "t", .literal "1"]
    let ctx := Context.start ⟨.positional, true⟩
    Raw.NoEvenRun sql.toList ∧ (Raw.scanned "\\'? 'a\\\\\\".toList).quote = some '\'' ∧
      (Raw.scanned "\\'? 'a\\\\\\'".toList).quote ≠ none ∧
      ctx.Fills sql operands (Raw.marksBy Raw.inPairs [] sql.toList) ∧
      (Expr.raw sql operands).toSql ⟨.positional, true⟩ = .ok "\\'$1 'a\\\\\\'?' 1" := by
  intro sql operands ctx
  have hRuns : Raw.NoEvenRun sql.toList := by decide +kernel
  have hOpen : (Raw.scanned "\\'? 'a\\\\\\".toList).quote = some '\'' := by decide +kernel
  obtain ⟨hCloses, -, hRule⟩ := ctx.fills_by_backslashes sql operands
  have hStays := hCloses "\\'? 'a\\\\\\".toList '\'' "?' ?".toList (by decide +kernel) hOpen
  refine ⟨hRuns, hOpen, ?_, (hRule hRuns).2, by decide +kernel⟩
  exact fun hClosed => absurd (hStays.mp hClosed) (by decide +kernel)

/-- Two backslashes escape one another, so the quote behind them ends the string and the question
mark is outside; but the writer takes it to be inside, and leaves it as it is. -/
theorem Context.even_run_hides_delimiter :
    let sql := "'a\\\\' ?"
    let operands : List Expr := [.literal "1"]
    let ctx := Context.start ⟨.positional, true⟩
    Raw.region Raw.inPairs "'a\\\\".toList.reverse = some '\'' ∧
      Raw.backslashes "'a\\\\".toList.reverse = 2 ∧
      (Raw.scanned "'a\\\\'".toList).quote = some '\'' ∧
      Raw.fill (Raw.marksBy Raw.inPairs [] sql.toList) ["1"] = "'a\\\\' 1" ∧
      (Expr.raw sql operands).toSql ⟨.positional, true⟩ = .ok sql ∧
      ¬ ctx.Fills sql operands (Raw.marksBy Raw.inPairs [] sql.toList) := by
  intro sql operands ctx
  have hKept := ctx.fills sql operands
  have hNone : Raw.holes (Raw.marks {} sql.toList) = 0 := by decide +kernel
  have hOne : Raw.holes (Raw.marksBy Raw.inPairs [] sql.toList) = 1 := by decide +kernel
  refine ⟨by decide +kernel, by decide +kernel, by decide +kernel, by decide +kernel,
    by decide +kernel, fun hFills => ?_⟩
  obtain ⟨kept, hWrite, hText, -⟩ := hKept.written [] ctx (by rw [hNone]; exact .nil ctx)
  let filled := ctx.push (.text "1")
  have hFilled : filled.text = ctx.text ++ "1" := by decide +kernel
  obtain ⟨after, hWrite', hText', -⟩ :=
    hFills.written ["1"] filled (by rw [hOne]; exact .cons rfl hFilled (.nil filled))
  rw [hWrite] at hWrite'
  obtain rfl : kept = after := (EStateM.Result.ok.inj hWrite').2
  rw [hText, hKept.text] at hText'
  exact absurd hText' (by decide +kernel)

end QueryText

import QueryText.Proofs.Raw.Filling

/-!
# QueryText — doubled delimiters in raw SQL

SQL has strings between single quotes and identifiers between double quotes, and a delimiter inside
of either is written twice. The writer knows nothing of doubled delimiters: it leaves a region at
the first of two and enters a new one at the second. Since nothing stands between the two, it
finds the same holes, as long as no backslash comes in.

## Main results

* `Raw.marks_outside`, `Raw.marks_inside` — both readings of a text mark it alike.
* `Context.fills_outside_regions` — the operands go where SQL's rule has a question mark outside of
  all regions.
-/

namespace QueryText

-- ---------------------------------------------------------------------------
-- The rule of SQL
-- ---------------------------------------------------------------------------

namespace Raw

mutual

/-- The marks of a text that starts outside of all regions. -/
def marksOutside : List Char → List Mark
  | [] => []
  | c :: cs =>
    if IsQuote c then .kept c :: marksInside c cs
    else if c = '?' then .hole :: marksOutside cs
    else .kept c :: marksOutside cs

/-- The marks of a text that starts inside of a region. Two delimiters in a row stand for one
character of the region; a single one ends it. -/
def marksInside (delimiter : Char) : List Char → List Mark
  | [] => []
  | [c] => [.kept c]
  | c :: d :: cs =>
    if c = delimiter then
      if d = delimiter then .kept c :: .kept d :: marksInside delimiter cs
      else .kept c :: marksOutside (d :: cs)
    else .kept c :: marksInside delimiter (d :: cs)

end

-- ---------------------------------------------------------------------------
-- The writer's reading
-- ---------------------------------------------------------------------------

/-- Reading a character that is neither escaped nor a backslash. -/
theorem marks_cons_plain {c : Char} (hc : c ≠ '\\') (quote : Option Char) (cs : List Char) :
    marks ⟨quote, false⟩ (c :: cs) =
      (if quote.isNone && c == '?' then .hole else .kept c) ::
        marks ⟨regionAfter quote c, false⟩ cs := by
  have hNext : Scan.next ⟨quote, false⟩ c = ⟨regionAfter quote c, false⟩ := by
    rw [Scan.next, Scan.quoteAfter_eq, beq_eq_false_iff_ne.mpr hc]
    rfl
  rw [marks, hNext]
  rfl

/-- Outside of all regions a quote opens one. -/
theorem marks_cons_outside {c : Char} (hc : c ≠ '\\') (cs : List Char) :
    marks {} (c :: cs) =
      if IsQuote c then .kept c :: marks ⟨some c, false⟩ cs
      else if c = '?' then .hole :: marks {} cs else .kept c :: marks {} cs := by
  rw [marks_cons_plain hc none cs, regionAfter]
  by_cases hQuote : IsQuote c
  · have hHole : (c == '?') = false := by rcases hQuote with rfl | rfl <;> rfl
    rw [if_pos hQuote, if_pos hQuote, hHole]
    rfl
  · rw [if_neg hQuote, if_neg hQuote]
    by_cases hHole : c = '?'
    · simp [hHole]
    · simp [hHole]

/-- Inside of a region, its delimiter closes it. -/
theorem marks_cons_inside {q c : Char} (hc : c ≠ '\\') (cs : List Char) :
    marks ⟨some q, false⟩ (c :: cs) =
      .kept c :: if c = q then marks {} cs else marks ⟨some q, false⟩ cs := by
  rw [marks_cons_plain hc (some q) cs, regionAfter]
  by_cases hClosed : c = q
  · rw [if_pos hClosed, if_pos hClosed]
    rfl
  · rw [if_neg hClosed, if_neg hClosed]
    rfl

mutual

/-- Without backslashes, the holes outside of regions are those of the plain reading. -/
theorem marks_outside : ∀ cs : List Char, '\\' ∉ cs → marks {} cs = marksOutside cs
  | [], _ => by rw [marks, marksOutside]
  | c :: cs, h => by
    obtain ⟨hc, hcs⟩ := not_or.mp fun hMem => h (List.mem_cons.mpr hMem)
    rw [marks_cons_outside (Ne.symm hc), marksOutside, marks_outside cs hcs]
    by_cases hQuote : IsQuote c
    · rw [if_pos hQuote, if_pos hQuote, marks_inside c hQuote cs hcs]
    · rw [if_neg hQuote, if_neg hQuote]

/-- Inside of a region, they are those that the plain reading finds there. -/
theorem marks_inside (q : Char) (hq : IsQuote q) :
    ∀ cs : List Char, '\\' ∉ cs → marks ⟨some q, false⟩ cs = marksInside q cs
  | [], _ => by rw [marks, marksInside]
  | [c], h => by
    have hc : c ≠ '\\' := fun hEq => h (List.mem_singleton.mpr hEq.symm)
    rw [marks_cons_inside hc, marksInside]
    split <;> rfl
  | c :: d :: cs, h => by
    obtain ⟨hc, hRest⟩ := not_or.mp fun hMem => h (List.mem_cons.mpr hMem)
    obtain ⟨hd, hcs⟩ := not_or.mp fun hMem => hRest (List.mem_cons.mpr hMem)
    rw [marks_cons_inside (Ne.symm hc), marksInside]
    by_cases hClosed : c = q
    · rw [if_pos hClosed, if_pos hClosed]
      by_cases hDoubled : d = q
      · -- the region that the second delimiter opens is the one that the first has closed
        have hOpens : IsQuote d := hDoubled ▸ hq
        rw [if_pos hDoubled, marks_cons_outside (Ne.symm hd), if_pos hOpens, hDoubled,
          marks_inside q hq cs hcs]
      · rw [if_neg hDoubled, marks_outside (d :: cs) hRest]
    · rw [if_neg hClosed, if_neg hClosed, marks_inside q hq (d :: cs) hRest]

end

end Raw

-- ---------------------------------------------------------------------------
-- Raw SQL in a context
-- ---------------------------------------------------------------------------

/-- Raw SQL without backslashes takes its operands at the question marks that SQL has outside of all
strings and quoted identifiers. -/
theorem Context.fills_outside_regions (ctx : Context) {sql : String} (h : '\\' ∉ sql.toList)
    (operands : List Expr) : ctx.Fills sql operands (Raw.marksOutside sql.toList) := by
  rw [← Raw.marks_outside sql.toList h]
  exact ctx.fills sql operands

/-- Delimiters that are doubled and that stand in regions of the other kind, an operand that ends in
an open quote, and an anonymous argument without a hole. -/
theorem Context.fills_outside_regions_doubled :
    let sql := "'a''?\"' || ? || \"x\"\"?'\" || ?"
    let operands : List Expr := [.literal "'?", .argument "t", .argument ""]
    let ctx := Context.start ⟨.named, true⟩
    '\\' ∉ sql.toList ∧ ctx.Fills sql operands (Raw.marksOutside sql.toList) ∧
      ∃ after, (Expr.raw sql operands).write ctx = .ok () after ∧
        after.text = "'a''?\"' || '? || \"x\"\"?'\" || :t" ∧ after.arguments = #["t"] := by
  intro sql operands ctx
  have hPlain : '\\' ∉ sql.toList := by decide
  have hFills := ctx.fills_outside_regions hPlain operands
  let quoted := ctx.push (.text "'?")
  let tagged := quoted.pushArgument "t"
  have hQuoted : quoted.text = ctx.text ++ "'?" := by decide +kernel
  have hTagged : tagged.text = quoted.text ++ ":t" := by decide +kernel
  have hHoles : Raw.holes (Raw.marksOutside sql.toList) = 2 := by decide +kernel
  have hRow : ctx.Row (operands.take (Raw.holes (Raw.marksOutside sql.toList))) ["'?", ":t"]
      tagged := by
    rw [hHoles]
    exact .cons rfl hQuoted (.cons rfl hTagged (.nil tagged))
  obtain ⟨after, hWrite, hText, hArguments⟩ := hFills.written _ _ hRow
  refine ⟨hPlain, hFills, after, hWrite, hText.trans ?_, hArguments.trans ?_⟩
  · decide +kernel
  · decide +kernel

end QueryText

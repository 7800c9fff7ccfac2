import QueryText.Proofs.Naming.Revision

/-!
# QueryText — where aliases are declared

A named expression is written out at one kind of place only, at the top of a SELECT or RETURNING
list. Everywhere else its name stands for it. So declaration naming makes no difference for an
expression that has no name itself, and what an alias stands for below the top of a list can be
replaced by anything that mentions the same relations.

## Main results

* `Expr.within_write`, `Select.within_write` — writing a tree under a naming.
* `Expr.unnoticed_concealed` — aliases can be concealed where only their names are written.
* `aliases_declared_at_top` — where aliases are declared, and where they are not.
-/

namespace QueryText

-- ---------------------------------------------------------------------------
-- Writing under a naming
-- ---------------------------------------------------------------------------

/-- Under a naming an expression is written as its layout for that naming. -/
theorem Expr.within_write (e : Expr) (naming : Naming) (ctx : Context) :
    Writer.within naming e.write ctx = (e.layout ctx.initial.inferring naming).play ctx := by
  have hWrites := (writeCases ctx.initial.inferring).expr e naming ctx.options.inferring
  exact Writer.Writes.within hWrites ctx rfl

/-- A query is written alike under every naming. -/
theorem Select.within_write (query : Select) (naming : Naming) (ctx : Context) :
    Writer.within naming query.write ctx =
      Layout.play (query.layout ctx.initial.inferring ctx.options.inferring ++ Layout.gap) ctx := by
  have hWrites := (writeCases ctx.initial.inferring).select query naming ctx.options.inferring
  exact Writer.Writes.within hWrites ctx rfl

/-- An expression without a name is laid out under declaration naming as under reference naming: all
its parts are written in reference naming. -/
theorem Expr.layout_declaration {e : Expr} (h : e.givenName? = none) (auto : Bool) :
    e.layout auto .declaration = e.layout auto .reference := by
  cases e with
  | named inner name => cases h
  | column relation name => rfl
  | star => rfl
  | allOf relation => rfl
  | argument tag => rfl
  | literal text => rfl
  | raw sql operands => rfl
  | group inner => rfl
  | list items => rfl
  | unary op operand => rfl
  | binary op left right => rfl
  | logical op operands => rfl
  | call function operands => rfl
  | subquery op query => rfl

/-- A declared alias: the expression in reference naming, a space and the name. -/
theorem Expr.within_write_named (e : Expr) (name : String) :
    Writer.within .declaration (Expr.named e name).write =
      (do Writer.within .reference e.write; Writer.text " "; Writer.name name) := by
  funext ctx
  have hInner : (Writer.within .reference e.write).Writes ctx.place
      (e.layout ctx.initial.inferring .reference) :=
    Writer.Writes.within ((writeCases ctx.initial.inferring).expr e .reference _)
  have hDeclared := hInner.seq ((Writer.writes_text " ").seq (Writer.writes_name name))
  rw [Expr.within_write, hDeclared ctx rfl]
  rw [Expr.layout, Layout.named, if_pos rfl, List.append_assoc]

-- ---------------------------------------------------------------------------
-- Concealing what aliases stand for
-- ---------------------------------------------------------------------------

mutual

/-- An expression that shows nothing of what its aliases stand for but the relations mentioned
there. Only an alias that is declared, at the top under declaration naming, keeps its expression.
Sub-queries are not looked into. -/
def Expr.concealed (naming : Naming) : Expr → Expr
  | .column relation name => .column relation name
  | .star => .star
  | .allOf relation => .allOf relation
  | .argument tag => .argument tag
  | .literal text => .literal text
  | .raw sql operands => .raw sql (Expr.concealedAll naming.inner operands)
  | .group inner => .group (inner.concealed naming.inner)
  | .list items => .list (Expr.concealedAll naming.inner items)
  | .unary op operand => .unary op (operand.concealed naming.inner)
  | .binary op left right =>
    .binary op (left.concealed naming.inner) (right.concealed naming.inner)
  | .logical op operands => .logical op (Expr.concealedAll naming.inner operands)
  | .call function operands => .call function (Expr.concealedAll naming.inner operands)
  | .named inner name =>
    .named (if naming = .declaration then inner.concealed .reference
      else .list (inner.mentions.map .allOf)) name
  | .subquery op query => .subquery op query

def Expr.concealedAll (naming : Naming) : List Expr → List Expr
  | [] => []
  | expr :: exprs => expr.concealed naming :: Expr.concealedAll naming exprs

end

/-- The aliases of a list are concealed expression by expression. -/
theorem Expr.concealedAll_eq_map (naming : Naming) (exprs : List Expr) :
    Expr.concealedAll naming exprs = exprs.map (Expr.concealed naming) := by
  induction exprs with
  | nil => rfl
  | cons expr exprs ih => simp [Expr.concealedAll, ih]

theorem Expr.isCompound_concealed (naming : Naming) (e : Expr) :
    (e.concealed naming).isCompound = e.isCompound := by
  cases e <;> rfl

theorem Expr.startsWithOperator_concealed (naming : Naming) (e : Expr) :
    (e.concealed naming).startsWithOperator = e.startsWithOperator := by
  cases e <;> rfl

/-- Stars of relations mention just these. -/
theorem Expr.mentionsAll_map_allOf (relations : List Relation) :
    Expr.mentionsAll (relations.map .allOf) = relations := by
  rw [Expr.mentionsAll_eq_flatMap, List.flatMap_map]
  exact List.flatMap_singleton' relations

/-- A list mentions the same relations when its aliases are concealed, if each expression does. -/
theorem Expr.mentionsAll_concealed {naming : Naming} {exprs : List Expr}
    (h : ∀ e ∈ exprs, ∀ naming, (e.concealed naming).mentions = e.mentions) :
    Expr.mentionsAll (Expr.concealedAll naming exprs) = Expr.mentionsAll exprs := by
  rw [Expr.concealedAll_eq_map, Expr.mentionsAll_eq_flatMap, Expr.mentionsAll_eq_flatMap,
    List.flatMap_map]
  exact List.flatMap_congr fun e he => h e he naming

/-- A list is laid out alike when its aliases are concealed, if each expression is. -/
theorem Expr.layouts_concealed {auto : Bool} {naming : Naming} {exprs : List Expr}
    (h : ∀ e ∈ exprs, ∀ naming, (e.concealed naming).layout auto naming = e.layout auto naming) :
    Expr.layouts auto (Expr.concealedAll naming exprs) naming =
      Expr.layouts auto exprs naming := by
  rw [Expr.concealedAll_eq_map, Expr.layouts_eq_map, Expr.layouts_eq_map, List.map_map]
  exact List.map_congr_left fun e he => h e he naming

/-- Concealing keeps the relations that are mentioned. -/
theorem mentionsConcealedCases :
    ExprCases fun e => ∀ naming, (e.concealed naming).mentions = e.mentions where
  column _ _ _ := rfl
  star _ := rfl
  allOf _ _ := rfl
  argument _ _ := rfl
  literal _ _ := rfl
  raw _ _ h _ := Expr.mentionsAll_concealed h
  group _ h naming := h naming.inner
  list _ h _ := Expr.mentionsAll_concealed h
  unary _ _ h naming := h naming.inner
  binary _ left right hLeft hRight naming := by
    rw [Expr.concealed, Expr.mentions, hLeft, hRight, Expr.mentions]
  logical _ _ h _ := Expr.mentionsAll_concealed h
  call _ _ h _ := Expr.mentionsAll_concealed h
  named inner name h naming := by
    rw [Expr.concealed, Expr.mentions, Expr.mentions]
    by_cases hDeclared : naming = .declaration
    · rw [if_pos hDeclared]
      exact h .reference
    · rw [if_neg hDeclared, Expr.mentions]
      exact Expr.mentionsAll_map_allOf inner.mentions
  subquery _ _ _ := rfl

/-- Concealing does not show in the text: below the top, only the name of an alias is written. -/
theorem layoutConcealedCases (auto : Bool) :
    ExprCases fun e =>
      ∀ naming, (e.concealed naming).layout auto naming = e.layout auto naming where
  column _ _ _ := rfl
  star _ := rfl
  allOf _ _ := rfl
  argument _ _ := rfl
  literal _ _ := rfl
  raw _ _ h _ := by
    rw [Expr.concealed, Expr.layout, Expr.layout, Expr.layouts_concealed h]
  group _ h _ := by
    rw [Expr.concealed, Expr.layout, Expr.layout, h]
  list _ h _ := by
    rw [Expr.concealed, Expr.layout, Expr.layout, Expr.layouts_concealed h]
  unary _ operand h naming := by
    rw [Expr.concealed, Expr.layout, Expr.layout, h, Expr.isCompound_concealed,
      Expr.startsWithOperator_concealed]
  binary _ left right hLeft hRight _ := by
    rw [Expr.concealed, Expr.layout, Expr.layout, hLeft, hRight, Expr.isCompound_concealed,
      Expr.isCompound_concealed]
  logical _ _ h _ := by
    rw [Expr.concealed, Expr.layout, Expr.layout, Expr.layouts_concealed h]
  call _ _ h _ := by
    rw [Expr.concealed, Expr.layout, Expr.layout, Expr.layouts_concealed h]
  named inner name h naming := by
    rw [Expr.concealed, Expr.layout, Expr.layout, Layout.named, Layout.named]
    by_cases hDeclared : naming = .declaration
    · rw [if_pos hDeclared, if_pos hDeclared, if_pos hDeclared, h]
    · rw [if_neg hDeclared, if_neg hDeclared]
  subquery _ _ _ := rfl

/-- Concealing what aliases stand for goes unnoticed. -/
theorem Expr.unnoticed_concealed : Expr.Unnoticed Expr.concealed where
  layout auto naming e := (layoutConcealedCases auto).expr e naming
  mentions naming e := mentionsConcealedCases.expr e naming
  isCompound := Expr.isCompound_concealed

/-- Concealing the aliases of a query does not show, wherever the query stands. -/
theorem Select.write_concealed (query : Select) :
    (query.revised Expr.concealed).write = query.write := by
  funext ctx
  have hWrite := (writeCases ctx.initial.inferring).select query ctx.naming
    ctx.options.inferring ctx rfl
  have hConcealed := (writeCases ctx.initial.inferring).select (query.revised Expr.concealed)
    ctx.naming ctx.options.inferring ctx rfl
  rw [Expr.unnoticed_concealed.layout_select] at hConcealed
  rw [hConcealed, hWrite]

-- ---------------------------------------------------------------------------
-- Where aliases are declared
-- ---------------------------------------------------------------------------

/-- Aliases are declared at the top of SELECT and RETURNING lists and nowhere else. Declaration
naming matters only to an expression that has a name: it is written with its expression there,
and by its name alone under every other naming, without an argument slot for anything below it. A
query is written alike under every naming. And what aliases stand for, except at the top of a
SELECT or RETURNING list, changes nothing in a query or a statement beyond the relations that it
mentions. -/
theorem aliases_declared_at_top :
    (∀ e : Expr, e.givenName? = none →
      Writer.within .declaration e.write = Writer.within .reference e.write) ∧
    (∀ (e : Expr) (name : String),
      Writer.within .declaration (Expr.named e name).write =
        (do Writer.within .reference e.write; Writer.text " "; Writer.name name) ∧
      ∀ naming, naming ≠ .declaration → ∀ ctx,
        Writer.within naming (Expr.named e name).write ctx = .ok () (ctx.push (.name name))) ∧
    (∀ (query : Select) (naming : Naming),
      Writer.within naming query.write = Writer.within .reference query.write) ∧
    (∀ query : Select,
      (query.revised Expr.concealed).write = query.write ∧
      (query.revised Expr.concealed).inferred = query.inferred) ∧
    (∀ (statement : Statement) (options : Options),
      (statement.revised Expr.concealed).render options = statement.render options) := by
  refine ⟨fun e hUnnamed => ?_, fun e name => ⟨e.within_write_named name, ?_⟩,
    fun query naming => ?_, fun query => ?_, ?_⟩
  · funext ctx
    rw [Expr.within_write, Expr.within_write, Expr.layout_declaration hUnnamed]
  · intro naming hNaming ctx
    rw [Expr.within_write, Expr.layout, Layout.named, if_neg hNaming, Layout.name,
      Layout.play_of]
    rfl
  · funext ctx
    rw [Select.within_write, Select.within_write]
  · exact ⟨query.write_concealed, Expr.unnoticed_concealed.inferred_select query⟩
  · exact Expr.unnoticed_concealed.render_statement

/-- An alias in a group is a bare name under declaration naming too. The anonymous argument below an
alias is not written with named placeholders, so it is not refused. -/
theorem aliases_declared_at_top_grouped :
    (Expr.group (.named (.argument "a") "n")).givenName? = none ∧ Naming.bare ≠ .declaration ∧
      Writer.within .declaration (Expr.group (.named (.argument "a") "n")).write =
        Writer.within .reference (Expr.group (.named (.argument "a") "n")).write ∧
      Writer.within .bare (Expr.named (.argument "") "n").write (Context.start ⟨.named, true⟩) =
        .ok () ((Context.start ⟨.named, true⟩).push (.name "n")) ∧
      Statement.render
          (.select { items := [.group (.named (.argument "a") "n"), .named (.argument "a") "n"] })
          ⟨.positional, true⟩ = .ok ⟨"SELECT (\"n\"), $1 \"n\"", ["a"], .positional⟩ := by
  have hUnnamed : (Expr.group (.named (.argument "a") "n")).givenName? = none := rfl
  have hBare : Naming.bare ≠ .declaration := by decide
  refine ⟨hUnnamed, hBare, ?_, ?_, by decide +kernel⟩
  · exact aliases_declared_at_top.1 _ hUnnamed
  · exact (aliases_declared_at_top.2.1 _ "n").2 _ hBare _

end QueryText

import QueryText.Render.Query

/-!
# QueryText — the equations of the query writer

The writer collects the relations of a query together with the writers of their declarations.
Here that collection is shown to be the scope of the query, and the writer of a query is
restated through it.

## Main results

* `Expr.entries_eq`, `Select.entries_eq` — an entry is a mentioned relation and its declaration.
* `Select.write_eq` — the text of a query, clause by clause.
-/

namespace QueryText

/-! ## Entries are mentioned relations with their declarations -/

variable {α : Type}

/-- Entries are missing exactly for the relations that gathering them would add to the difference,
if what was seen is what is declared or gathered. -/
theorem Entry.missing_map (declare : Relation → α) (relations : List Relation)
    (gathered declared seen : RelationSet)
    (hSeen : ∀ name, seen.contains name = (declared.contains name || gathered.contains name)) :
    ((gathered.insertAll relations).difference declared).map (fun r => ⟨r, declare r⟩) =
      (gathered.difference declared).map (fun r => (⟨r, declare r⟩ : Entry α)) ++
        Entry.missing seen (relations.map fun r => ⟨r, declare r⟩) := by
  induction relations generalizing gathered seen with
  | nil => simp [RelationSet.insertAll, Entry.missing]
  | cons r rs ih =>
    have hStep : gathered.insertAll (r :: rs) = (gathered.insert r).insertAll rs := rfl
    rw [hStep]
    -- Either the set refuses `r`, and so does the list of entries,
    by_cases hSkip : (r.isPseudo || gathered.contains r.name) = true
    · have hSame : gathered.insert r = gathered := by simp [RelationSet.insert, hSkip]
      have hSeenSkip : (r.isPseudo || seen.contains r.name) = true := by
        rw [hSeen]
        cases hPseudo : r.isPseudo <;> simp_all
      rw [hSame, ih gathered seen hSeen]
      simp [Entry.missing, hSeenSkip]
    -- or it is the first of its name, and stays unless that name is declared.
    · have hPseudo : r.isPseudo = false := by simp_all
      have hNew : gathered.contains r.name = false := by simp_all
      have hGrown : (gathered.insert r).members = gathered.members ++ [r] := by
        simp [RelationSet.insert, hPseudo, hNew]
      cases hDeclared : declared.contains r.name with
      | true =>
        rw [ih (gathered.insert r) seen]
        · simp [RelationSet.difference, hGrown, Entry.missing, hPseudo, hSeen,
            hDeclared]
        · intro name
          rw [RelationSet.contains_insert, hSeen, hPseudo]
          by_cases hName : r.name = name
          · subst hName
            simp [hDeclared]
          · simp [beq_eq_false_iff_ne.mpr hName]
      | false =>
        rw [ih (gathered.insert r) (seen.insert r)]
        · simp [RelationSet.difference, hGrown, Entry.missing, hPseudo, hSeen,
            hDeclared, hNew]
        · intro name
          rw [RelationSet.contains_insert, RelationSet.contains_insert, hSeen, Bool.or_assoc]

/-- Going through the entries once leaves those of the difference of two sets. -/
theorem Entry.missing_eq (declare : Relation → α) (declared : RelationSet)
    (relations : List Relation) :
    Entry.missing declared (relations.map fun r => (⟨r, declare r⟩ : Entry α)) =
      ((RelationSet.ofList relations).difference declared).map (fun r => ⟨r, declare r⟩) := by
  have h := Entry.missing_map declare relations {} declared declared
    (by intro name; simp [RelationSet.contains])
  simpa [RelationSet.ofList, RelationSet.difference] using h.symm

mutual

/-- The entries of an expression are those of the relations that it mentions. -/
theorem Expr.entries_eq : ∀ expr : Expr, expr.entries = expr.mentions.map Relation.entry
  | .column .. => rfl
  | .star => rfl
  | .allOf _ => rfl
  | .argument _ => rfl
  | .literal _ => rfl
  | .raw _ operands => Expr.entriesAll_eq operands
  | .group inner => Expr.entries_eq inner
  | .list items => Expr.entriesAll_eq items
  | .unary _ operand => Expr.entries_eq operand
  | .binary _ left right => by
    simp [Expr.entries, Expr.mentions, Expr.entries_eq left, Expr.entries_eq right]
  | .logical _ operands => Expr.entriesAll_eq operands
  | .call _ operands => Expr.entriesAll_eq operands
  | .named inner _ => Expr.entries_eq inner
  | .subquery _ query => Select.entries_eq query

/-- The entries of a list of expressions are those of the relations that it mentions. -/
theorem Expr.entriesAll_eq : ∀ exprs : List Expr,
    Expr.entriesAll exprs = (Expr.mentionsAll exprs).map Relation.entry
  | [] => rfl
  | expr :: exprs => by
    simp [Expr.entriesAll, Expr.mentionsAll, Expr.entries_eq expr, Expr.entriesAll_eq exprs]

/-- The entries of sort keys are those of the relations that they mention. -/
theorem SortKey.entriesAll_eq : ∀ keys : List SortKey,
    SortKey.entriesAll keys = (SortKey.mentionsAll keys).map Relation.entry
  | [] => rfl
  | ⟨expr, direction⟩ :: keys => by
    simp [SortKey.entriesAll, SortKey.mentionsAll, SortKey.entries, SortKey.mentions,
      Expr.entries_eq expr, SortKey.entriesAll_eq keys]

/-- The entries of a query are those of the relations that it infers. -/
theorem Select.entries_eq : ∀ query : Select, query.entries = query.inferred.map Relation.entry
  | ⟨items, tables, filters, groups, groupFilters, order, _, _⟩ => by
    simp only [Select.entries, Select.inferred, Expr.entriesAll_eq items,
      Expr.entriesAll_eq filters, Expr.entriesAll_eq groups,
      Expr.entriesAll_eq groupFilters, SortKey.entriesAll_eq order, ← List.map_append]
    exact Entry.missing_eq Relation.declare _ _

end

/-! ## The writers as equations -/

/-- The writers of a list of expressions are those of its expressions. -/
theorem Expr.writers_eq_map (exprs : List Expr) : Expr.writers exprs = exprs.map Expr.write := by
  induction exprs with
  | nil => rfl
  | cons expr exprs ih => simp [Expr.writers, ih]

/-- The writers of a list of tables are those of its entries. -/
theorem FromItem.writers_eq_map (items : List FromItem) :
    FromItem.writers items = items.map FromItem.write := by
  induction items with
  | nil => rfl
  | cons item items ih => simp [FromItem.writers, ih]

/-- The writers of sort keys are those of the keys. -/
theorem SortKey.writers_eq_map (keys : List SortKey) :
    SortKey.writers keys = keys.map SortKey.write := by
  induction keys with
  | nil => rfl
  | cons key keys ih => simp [SortKey.writers, ih]

/-- The relations that a query has to add to its FROM list under the given options. -/
def Select.added (query : Select) (options : Options) : List Relation :=
  if options.inferring then query.inferred else []

/-- A query is written clause by clause, with what it infers added to FROM. -/
theorem Select.write_eq (query : Select) :
    query.write = (do
      let missing := (query.added (← get).options).map Relation.entry
      Writer.within .reference do
        Writer.selectClause (query.items.map Expr.write)
        Writer.tableClause "FROM" (query.tables.map FromItem.write) missing
        Writer.conditionClause "WHERE" (query.filters.map Expr.write)
        Writer.listClause "GROUP BY" (query.groups.map Expr.write)
        Writer.conditionClause "HAVING" (query.groupFilters.map Expr.write)
        Writer.listClause "ORDER BY" (query.order.map SortKey.write)
        Writer.countClause "LIMIT" query.limit
        Writer.countClause "OFFSET" query.offset) := by
  obtain ⟨items, tables, filters, groups, groupFilters, order, limit, offset⟩ := query
  have hEntries :=
    Select.entries_eq ⟨items, tables, filters, groups, groupFilters, order, limit, offset⟩
  simp only [Select.entries] at hEntries
  simp only [Select.write, hEntries, Select.added, Expr.writers_eq_map,
    FromItem.writers_eq_map, SortKey.writers_eq_map]
  congr 1
  funext ctx
  split <;> rfl

end QueryText

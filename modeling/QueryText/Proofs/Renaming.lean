import QueryText.Catalog.Model
import QueryText.Proofs.Building
import QueryText.Proofs.Declarations.Layout
import QueryText.Proofs.Excluded
import QueryText.Proofs.Styles

/-!
# QueryText — renaming reaches the table

A relation may be renamed any number of times, but its names never pile up: of a chain of names the
last one is left, and right below it stands the table, the derived table or the excluded row that
the chain began with. The same holds of a model, which hands out its columns under the last name,
so a query of them reads that table once.

## Main results

* `Relation.Built.underlying_of_aliased` — what an alias wraps.
* `Select.render_eq_written`, `Layout.written_between` — the text of a query, put together.
* `Relation.Built.written_rename` — the text of a renamed relation in a FROM list.
* `Relation.render_columns` — a query of columns of a renamed relation.
* `renaming_reaches_table` — chains of names, of relations and of models.
-/

namespace QueryText

open Identifier (quote)

-- ---------------------------------------------------------------------------
-- The table below the names
-- ---------------------------------------------------------------------------

namespace Relation

/-- The relation below all aliases. -/
def underlying : Relation → Relation
  | table schema name => table schema name
  | aliased relation _ => relation.underlying
  | derived query name => derived query name
  | excluded => excluded

/-- A table and the excluded row have no alias to look below. -/
theorem Named.underlying_eq {relation : Relation} (h : relation.Named) :
    relation.underlying = relation := by
  cases relation with
  | table schema name => rfl
  | excluded => rfl
  | aliased inner name => exact h.elim
  | derived query name => exact h.elim

/-- An alias wraps the relation below all aliases, and that is no derived table. -/
theorem Built.underlying_of_aliased {relation inner : Relation} {name : String}
    (h : relation.Built) (hAliased : relation = aliased inner name) :
    inner = relation.underlying ∧ inner.Named := by
  have hNamed := h.named_of_aliased hAliased
  refine ⟨?_, hNamed⟩
  rw [hAliased, underlying, hNamed.underlying_eq]

/-- Renaming keeps the schema. -/
theorem schema_rename (relation : Relation) (name : String) :
    (relation.rename name).schema = relation.schema := by
  cases relation <;> rfl

/-- Renaming neither makes a relation the excluded row nor hides that it is. -/
theorem underlying_rename_eq_excluded_iff (relation : Relation) (name : String) :
    (relation.rename name).underlying = excluded ↔ relation.underlying = excluded := by
  cases relation with
  | table schema old => exact Iff.rfl
  | aliased inner old => exact Iff.rfl
  | derived query old => exact ⟨nofun, nofun⟩
  | excluded => exact Iff.rfl

/-- A relation that needs no declaration is the excluded row. -/
theorem underlying_of_isPseudo {relation : Relation} (h : relation.isPseudo = true) :
    relation.underlying = excluded := by
  cases relation with
  | excluded => rfl
  | table schema name => cases h
  | aliased inner name => cases h
  | derived query name => cases h

/-- A renamed relation needs a declaration, unless it is the excluded row. -/
theorem isPseudo_rename {relation : Relation} (h : relation.underlying ≠ excluded)
    (name : String) : (relation.rename name).isPseudo = false := by
  refine Bool.eq_false_iff.mpr fun hPseudo => h ?_
  exact (relation.underlying_rename_eq_excluded_iff name).mp (underlying_of_isPseudo hPseudo)

end Relation

-- ---------------------------------------------------------------------------
-- Texts that are put together
-- ---------------------------------------------------------------------------

/-- A text between two others. -/
def Rendering.between (before after : String) (rendering : Rendering) : Rendering :=
  { rendering with sql := before ++ rendering.sql ++ after }

/-- A text that is put between others twice is put between them once. -/
theorem Rendering.map_between_map_between (outcome : Except Error Rendering)
    (before after outerBefore outerAfter : String) :
    (outcome.map (between before after)).map (between outerBefore outerAfter) =
      outcome.map (between (outerBefore ++ before) (after ++ outerAfter)) := by
  cases outcome with
  | error e => rfl
  | ok rendering => simp [Except.map, between, String.append_assoc]

/-- A text that ends in a name has no final space to drop. -/
theorem dropFinalSpace_append_quote (s name : String) :
    dropFinalSpace (s ++ quote name) = s ++ quote name := by
  have hChars : (s ++ quote name).toList =
      s.toList ++ Identifier.delimiter :: Identifier.escape name.toList ++
        [Identifier.delimiter] := by
    simp [quote, Identifier.quoteChars, String.toList_append]
  have hLast : (s ++ quote name).toList.getLast? = some Identifier.delimiter := by
    rw [hChars, List.getLast?_concat]
  rw [dropFinalSpace, hLast, if_neg (by decide)]

namespace Layout

variable {style : PlaceholderStyle} {l : Layout}

/-- What a layout on its own is written as, with its last space. -/
def written (l : Layout) (style : PlaceholderStyle) : Except Error Rendering :=
  if ∃ tag ∈ l.tags, style.Refuses tag then .error .anonymousArgument
  else .ok ⟨l.spelling style [], l.tags.foldl Slots.grow [], style⟩

/-- A layout without arguments is always written, with no slot. -/
theorem Untagged.written_eq (h : l.Untagged) :
    l.written style = .ok ⟨l.spelling style [], [], style⟩ := by
  have hTags : l.tags = [] := h
  rw [written, hTags, if_neg (by simp)]
  rfl

theorem Alike.written_eq {m : Layout} (h : l.Alike m) : l.written style = m.written style := by
  rw [written, written, h.tags, h.spelling]

/-- A pass over a layout that ends in a name has no space to drop. -/
theorem outcome_eq_written {s name : String} (h : l.spelling style [] = s ++ quote name) :
    l.outcome none style = l.written style := by
  have hKept : dropFinalSpace (spellAll style (l.fragments [])) = l.spelling style [] := by
    rw [← spelling, h, dropFinalSpace_append_quote]
  rw [outcome, rendering, hKept, written]

/-- A pass drops the space behind a layout. -/
theorem outcome_append_gap (l : Layout) (style : PlaceholderStyle) :
    (l ++ gap).outcome none style = l.written style := by
  have hText : spellAll style ((l ++ gap).fragments []) = l.spelling style [] ++ " " := by
    rw [fragments_append, spellAll_append]
    rfl
  have hTags : (l ++ gap).tags = l.tags := by
    rw [tags_append]
    exact List.append_nil _
  rw [outcome, rendering, hText, dropFinalSpace_append_space, hTags, written]

/-- Without arguments it does not matter which slots are taken. -/
theorem Untagged.spelling_eq (h : l.Untagged) (slots : List String) :
    l.spelling style slots = l.spelling style [] := by
  induction l generalizing slots with
  | nil => rfl
  | cons piece l ih =>
    rw [Untagged, tags_cons, List.append_eq_nil_iff, Option.toList_eq_nil_iff] at h
    have hPiece : piece.atom.fragments slots = piece.atom.fragments [] := by
      obtain ⟨path, atom⟩ := piece
      cases atom <;> first | rfl | cases h.1
    rw [spelling_cons, spelling_cons, hPiece, ih h.2, ih h.2 (piece.atom.slots [])]

theorem Untagged.slotsAfter_eq (h : l.Untagged) (slots : List String) :
    l.slotsAfter slots = slots := by
  have hTags : l.tags = [] := h
  rw [slotsAfter, hTags, List.foldl_nil]

/-- What stands around a layout without arguments of its own is written around its text. -/
theorem written_between (before l after : Layout) (style : PlaceholderStyle)
    (hBefore : before.Untagged) (hAfter : after.Untagged) :
    (before ++ l ++ after).written style =
      (l.written style).map
        (Rendering.between (before.spelling style []) (after.spelling style [])) := by
  have hTags : (before ++ l ++ after).tags = l.tags := by
    have hBefore : before.tags = [] := hBefore
    have hAfter : after.tags = [] := hAfter
    rw [tags_append, tags_append, hBefore, hAfter, List.nil_append, List.append_nil]
  have hSpelling : (before ++ l ++ after).spelling style [] =
      before.spelling style [] ++ l.spelling style [] ++ after.spelling style [] := by
    rw [spelling_append, spelling_append, hBefore.slotsAfter_eq, hAfter.spelling_eq]
  rw [written, hTags, hSpelling, written]
  split <;> rfl

theorem spelling_declaration (name : String) (slots : List String) :
    (declaration name).spelling style slots = quote name :=
  String.empty_append

theorem spelling_name (name : String) (slots : List String) :
    (Layout.name name).spelling style slots = quote name :=
  String.empty_append

/-- Layouts without arguments are spelled one by one, with the separator between their texts. -/
theorem spelling_separated_map {α : Type} {f : α → Layout} {texts : α → String}
    (hUntagged : ∀ x, (f x).Untagged) (hTexts : ∀ x slots, (f x).spelling style slots = texts x)
    (separator : String) (xs : List α) (slots : List String) :
    (separated separator (xs.map f)).spelling style slots =
      separator.intercalate (xs.map texts) := by
  induction xs with
  | nil => rfl
  | cons x xs ih =>
    cases xs with
    | nil =>
      rw [List.map_singleton, List.map_singleton, separated, List.intercalate_singleton,
        String.intercalate_singleton, hTexts]
    | cons y ys =>
      rw [List.map_cons, List.map_cons, separated] at ih
      rw [List.map_cons, List.map_cons, List.map_cons, List.map_cons, separated,
        List.intercalate_cons_cons, String.intercalate_cons_cons, spelling_append,
        spelling_append, hTexts, spelling_text, slotsAfter_append, (hUntagged x).slotsAfter_eq]
      exact congrArg _ ih

end Layout

/-- A query on its own is written as its layout. -/
theorem Select.render_eq_written (query : Select) (options : Options) :
    (Statement.select query).render options =
      (query.layout options.inferring options.inferring).written options.placeholder := by
  have hLayout : (Statement.select query).layout options.inferring =
      Layout.inside (.query query) (query.layout options.inferring options.inferring) ++
        Layout.gap := rfl
  rw [(Statement.select query).render_eq_outcome, hLayout]
  exact (Layout.outcome_append_gap _ _).trans (Layout.Alike.inside _ _).written_eq

-- ---------------------------------------------------------------------------
-- Renamed relations in a FROM list
-- ---------------------------------------------------------------------------

namespace Relation

/-- What stands before the name of a renamed relation in a FROM list: the table below it with its
schema, the query of a derived table, or the excluded row. -/
def tableSql (options : Options) : Relation → Except Error Rendering
  | table none name => .ok ⟨quote name, [], options.placeholder⟩
  | table (some schema) name => .ok ⟨quote schema ++ "." ++ quote name, [], options.placeholder⟩
  | aliased relation _ => relation.tableSql options
  | derived query _ =>
    ((Statement.select query).render options).map (Rendering.between "(" ")")
  | excluded => .ok ⟨excludedName, [], options.placeholder⟩

/-- The entry of a renamed relation is written as its layout, which ends in the name. -/
theorem render_declare_rename (relation : Relation) (name : String) (options : Options) :
    (relation.rename name).declare.render options =
      ((relation.rename name).layout options.inferring).written options.placeholder := by
  have hStops : (relation.rename name).declare.Stops options.place
      ((relation.rename name).layout options.inferring) none :=
    fun ctx hPlace =>
      (writeCases options.inferring).relation _ .reference options.inferring ctx hPlace
  have hEnds : ∃ body, (relation.rename name).layout options.inferring =
      body ++ Layout.declaration name := by
    cases relation with
    | table schema old => exact ⟨_, rfl⟩
    | aliased inner old => exact ⟨_, rfl⟩
    | derived query old => exact ⟨_, rfl⟩
    | excluded => exact ⟨_, rfl⟩
  obtain ⟨body, hBody⟩ := hEnds
  have hText : ((relation.rename name).layout options.inferring).spelling options.placeholder [] =
      body.spelling options.placeholder [] ++ quote name := by
    rw [hBody, Layout.spelling_append, Layout.spelling_declaration]
  rw [hStops.render_eq, Layout.outcome_eq_written hText]

/-- A table, or the excluded row, is written as its own text. -/
theorem Named.written_layout {relation : Relation} (h : relation.Named) (options : Options) :
    (relation.layout options.inferring).written options.placeholder =
      relation.tableSql options := by
  rw [h.untagged.written_eq]
  cases relation with
  | table schema name =>
    cases schema with
    | none => rw [layout, Layout.spelling_declaration, tableSql]
    | some schema =>
      rw [layout, Layout.spelling_append, Layout.spelling_append, Layout.spelling_declaration,
        Layout.spelling_text, Layout.spelling_name, tableSql]
  | excluded => rw [layout, Layout.spelling_text, tableSql]
  | aliased inner name => exact h.elim
  | derived query name => exact h.elim

/-- The entry of a renamed relation is the table below, then the name. -/
theorem Built.written_rename {relation : Relation} (h : relation.Built) (name : String)
    (options : Options) :
    ((relation.rename name).layout options.inferring).written options.placeholder =
      (relation.tableSql options).map (Rendering.between "" (" " ++ quote name)) := by
  have hName : (Layout.text " " ++ Layout.declaration name).spelling options.placeholder [] =
      " " ++ quote name := by
    rw [Layout.spelling_append, Layout.spelling_text, Layout.spelling_declaration]
  have hAliased : ∀ inner : Relation, inner.Named →
      ((aliased inner name).layout options.inferring).written options.placeholder =
        (inner.tableSql options).map (Rendering.between "" (" " ++ quote name)) := by
    intro inner hNamed
    -- below an alias a table is written like a name, which makes no difference to its text
    have hBetween := Layout.written_between [] (inner.layout options.inferring).anonymized
      (Layout.text " " ++ Layout.declaration name) options.placeholder rfl rfl
    rw [List.nil_append, ← List.append_assoc, hName, (Layout.Alike.anonymized _).written_eq,
      hNamed.written_layout] at hBetween
    exact hBetween
  cases relation with
  | table schema old => exact hAliased _ trivial
  | excluded => exact hAliased _ trivial
  | aliased inner old => exact hAliased inner (h.named_of_aliased rfl)
  | derived query old =>
    have hBetween := Layout.written_between (Layout.text "(")
      (Layout.inside (.query query) (query.layout options.inferring options.inferring))
      (Layout.text ") " ++ Layout.declaration name) options.placeholder rfl rfl
    rw [← List.append_assoc, (Layout.Alike.inside _ _).written_eq, ← query.render_eq_written,
      Layout.spelling_append, Layout.spelling_text, Layout.spelling_text,
      Layout.spelling_declaration] at hBetween
    rw [tableSql, Rendering.map_between_map_between, String.empty_append, ← String.append_assoc]
    exact hBetween

end Relation

-- ---------------------------------------------------------------------------
-- Columns
-- ---------------------------------------------------------------------------

/-- An expression is written as a text without arguments, on its own and in every context where
columns have their qualifier. -/
structure Expr.WrittenAs (e : Expr) (sql : String) : Prop where
  alone : ∀ options : Options, e.write.render options = .ok ⟨sql, [], options.placeholder⟩
  inside : ∀ ctx : Context, ctx.naming ≠ .bare →
    ∃ after, e.write ctx = .ok () after ∧ after.text = ctx.text ++ sql

/-- A column with its qualifier. -/
def Relation.columnSql (relation column : String) : String :=
  quote relation ++ "." ++ quote column

namespace Layout

theorem untagged_column (naming : Naming) (relation name : String) :
    (column naming relation name).Untagged :=
  Untagged.composes.column naming rfl name

/-- Except under bare naming, a column is spelled with its relation. -/
theorem spelling_column {naming : Naming} (h : naming ≠ .bare) (relation name : String)
    (style : PlaceholderStyle) (slots : List String) :
    (column naming relation name).spelling style slots = Relation.columnSql relation name := by
  have hQualifier : (qualifier relation).spelling style slots = quote relation :=
    String.empty_append
  rw [column, if_neg h, spelling_append, spelling_append, hQualifier, spelling_text,
    spelling_name, Relation.columnSql]

end Layout

/-- A column is written with the name that its relation has at last, on its own and inside of a
query. -/
theorem Relation.writtenAs_column (relation : Relation) (name : String) :
    (relation.column name).WrittenAs (columnSql relation.name name) where
  alone options := by
    have hText := Layout.spelling_column (show Naming.reference ≠ .bare from nofun) relation.name
      name options.placeholder []
    rw [Expr.render_eq_outcome, Relation.column, Expr.layout, Layout.outcome_eq_written hText,
      (Layout.untagged_column ..).written_eq, hText]
  inside ctx hNaming := by
    have hPlay : (relation.column name).write ctx =
        (Layout.column ctx.naming relation.name name).play ctx :=
      (writeCases ctx.initial.inferring).expr _ ctx.naming ctx.options.inferring ctx rfl
    have hAllowed : ∀ tag ∈ (Layout.column ctx.naming relation.name name).tags,
        ¬ ctx.options.placeholder.Refuses tag := by
      rw [Layout.untagged_column ctx.naming relation.name name]
      exact fun tag hTag => absurd hTag List.not_mem_nil
    obtain ⟨after, hDone, hWrote⟩ := Layout.play_ok hAllowed
    refine ⟨after, hPlay.trans hDone, ?_⟩
    rw [hWrote.text_eq, Layout.spelling_column hNaming]

/-- A query of nothing but columns of one relation infers that relation. -/
theorem Select.inferred_columns {relation : Relation} (h : relation.isPseudo = false)
    {columns : List String} (hColumns : columns ≠ []) :
    Select.inferred { items := columns.map relation.column } = [relation] := by
  have hMentions : Select.mentions { items := columns.map relation.column } =
      columns.map fun _ => relation := by
    simp only [Select.mentions_eq_flatMap_exprs, Select.exprs, List.append_nil, List.map_nil]
    rw [List.flatMap_map, List.map_eq_flatMap]
    rfl
  obtain ⟨first, rest, rfl⟩ := List.exists_cons_of_ne_nil hColumns
  have hMembers : (RelationSet.ofList ((first :: rest).map fun _ => relation)).members =
      [relation] := by
    simp [RelationSet.members_ofList, Relation.listable, Relation.firsts, h,
      List.eraseDupsBy_cons]
  rw [Select.inferred_eq, Select.referenced, hMentions, RelationSet.difference, hMembers]
  rfl

/-- The layout of a query of nothing but items that infers one relation. -/
theorem Select.layout_items {items : List Expr} {relation : Relation} (hItems : items ≠ [])
    (hInferred : Select.inferred { items := items } = [relation]) :
    Select.layout true { items := items } true =
      Layout.text "SELECT " ++ Layout.separated ", " (items.map (·.layout true .declaration)) ++
        Layout.gap ++ Layout.text "FROM " ++ Layout.of (.inference ⟨relation.name, "FROM"⟩) ++
        relation.layout true := by
  have hSelect : Layout.selectClause (items.map (·.layout true .declaration)) =
      Layout.clause "SELECT" (Layout.separated ", " (items.map (·.layout true .declaration))) := by
    rw [Layout.selectClause, List.isEmpty_map, List.isEmpty_eq_false_iff.mpr hItems]
    rfl
  have hFrom : Layout.tableClause "FROM" [] ([relation].map (Relation.draft true)) =
      [Layout.clause "FROM" (Layout.inferred "FROM" (relation.draft true))] := by
    simp [Layout.tableClause, Layout.listClause, Layout.separated]
  have hClauses : Select.clauses true { items := items } true =
      [Layout.clause "SELECT" (Layout.separated ", " (items.map (·.layout true .declaration))),
        Layout.clause "FROM" (Layout.inferred "FROM" (relation.draft true))] := by
    rw [Select.clauses, Select.completion, if_pos rfl, hInferred, hSelect, List.map_nil, hFrom]
    rfl
  rw [Select.layout_eq, hClauses, Layout.spaced, List.intercalate_cons_cons,
    List.intercalate_singleton]
  simp only [Layout.clause, Layout.inferred, Relation.draft, List.append_assoc]
  rfl

/-- The text of a query of nothing but items without arguments that infers one relation. -/
theorem Select.render_items {items : List Expr} {relation : Relation} (hItems : items ≠ [])
    (hInferred : Select.inferred { items := items } = [relation])
    (hUntagged : ∀ e ∈ items, (e.layout true .declaration).Untagged)
    (style : PlaceholderStyle) :
    (Statement.select { items := items }).render ⟨style, true⟩ =
      ((relation.layout true).written style).map (Rendering.between
        ("SELECT " ++
          (Layout.separated ", " (items.map (·.layout true .declaration))).spelling style [] ++
          " FROM ") "") := by
  have h := Layout.Untagged.composes
  have hList : (Layout.separated ", " (items.map (·.layout true .declaration))).Untagged :=
    h.separated (List.forall_mem_map.mpr hUntagged) _
  -- the note of the inferred relation stands between the keyword and the relation, unwritten
  have hNote : (Layout.of (.inference ⟨relation.name, "FROM"⟩)).Untagged := rfl
  have hSelect := h.append _ _ (h.append _ _ (h.text "SELECT ") hList) h.gap
  have hBefore := h.append _ _ (h.append _ _ hSelect (h.text "FROM ")) hNote
  have hBetween := Layout.written_between _ (relation.layout true) [] style hBefore rfl
  rw [List.append_nil, ← Select.layout_items hItems hInferred] at hBetween
  have hGap : ∀ slots, Layout.gap.spelling style slots = " " := fun _ => String.empty_append
  have hSilent : ∀ slots,
      (Layout.of (.inference ⟨relation.name, "FROM"⟩)).spelling style slots = "" := fun _ => rfl
  have hEnd : Layout.spelling style [] [] = "" := rfl
  rw [Select.render_eq_written, hBetween]
  simp only [Layout.spelling_append, Layout.spelling_text, hGap, hSilent, hEnd,
    hList.spelling_eq (Layout.slotsAfter _ _), String.append_empty, String.append_assoc]
  rfl

/-- A query of columns of a renamed relation declares the relation, and nothing else. -/
theorem Relation.render_columns {relation : Relation} (hListed : relation.underlying ≠ .excluded)
    {columns : List String} (hColumns : columns ≠ []) (name : String) (style : PlaceholderStyle) :
    (Statement.select { items := columns.map (relation.rename name).column }).render
        ⟨style, true⟩ =
      ((relation.rename name).declare.render ⟨style, true⟩).map (Rendering.between
        ("SELECT " ++ ", ".intercalate (columns.map (columnSql name)) ++ " FROM ") "") := by
  have hLayout : ∀ column, ((relation.rename name).column column).layout true .declaration =
      Layout.column .declaration name column := by
    intro column
    rw [Relation.column, Expr.layout, name_rename]
  have hUntagged : ∀ e ∈ columns.map (relation.rename name).column,
      (e.layout true .declaration).Untagged := by
    refine List.forall_mem_map.mpr fun column _ => ?_
    rw [hLayout]
    exact Layout.untagged_column ..
  have hList : (Layout.separated ", " ((columns.map (relation.rename name).column).map
      (·.layout true .declaration))).spelling style [] =
        ", ".intercalate (columns.map (columnSql name)) := by
    rw [List.map_map]
    refine Layout.spelling_separated_map (fun column => ?_) (fun column slots => ?_) ", " columns []
    · exact (congrArg Layout.Untagged (hLayout column)).mpr (Layout.untagged_column ..)
    · rw [Function.comp_apply, hLayout, Layout.spelling_column (by decide)]
  rw [Select.render_items (List.map_eq_nil_iff.not.mpr hColumns)
    (Select.inferred_columns (isPseudo_rename hListed name) hColumns) hUntagged, hList,
    render_declare_rename]

-- ---------------------------------------------------------------------------
-- Chains of names
-- ---------------------------------------------------------------------------

/-- An alias wraps neither an alias nor a derived table. -/
def Relation.Flat (relation : Relation) : Prop :=
  ∀ inner name, relation = .aliased inner name → inner.Named

/-- What a relation is after a chain of names. -/
structure Relation.RenamedTo (relation : Relation) (last : String) (renamed : Relation) : Prop where
  /-- The last name alone leads to it. -/
  once : renamed = relation.rename last
  name : renamed.name = last
  schema : renamed.schema = relation.schema
  /-- It is an alias unless the chain began with a derived table. -/
  isAlias : renamed.isAlias = true ↔ relation.underlying.Named
  /-- It needs a declaration, if the chain did not begin with the excluded row. -/
  isPseudo : relation.underlying ≠ .excluded → renamed.isPseudo = false
  flat : renamed.Flat
  /-- An alias wraps what the chain began with. -/
  wraps : ∀ inner name, renamed = .aliased inner name → inner = relation.underlying
  /-- In a FROM list it is the table below, then the last name. -/
  declared : ∀ options : Options, renamed.declare.render options =
    (relation.tableSql options).map (Rendering.between "" (" " ++ quote last))

/-- Renaming a relation that can be built gives it the name, and nothing else changes. -/
theorem Relation.Built.renamedTo {relation : Relation} (h : relation.Built) (last : String) :
    relation.RenamedTo last (relation.rename last) where
  once := rfl
  name := relation.name_rename last
  schema := relation.schema_rename last
  isAlias := by
    cases relation with
    | table schema name => exact ⟨fun _ => trivial, fun _ => rfl⟩
    | excluded => exact ⟨fun _ => trivial, fun _ => rfl⟩
    | derived query name => exact ⟨nofun, False.elim⟩
    | aliased inner name =>
      obtain ⟨hInner, hNamed⟩ := h.underlying_of_aliased rfl
      exact ⟨fun _ => hInner ▸ hNamed, fun _ => rfl⟩
  isPseudo hListed := isPseudo_rename hListed last
  flat _ _ := (h.rename last).named_of_aliased
  wraps inner name hAliased := by
    rw [((h.rename last).underlying_of_aliased hAliased).1]
    cases relation with
    | table schema old => rfl
    | excluded => rfl
    | derived query old => cases hAliased
    | aliased inner old => rfl
  declared options := by rw [render_declare_rename, h.written_rename]

namespace Model

/-- The model after a renaming to each of the names. -/
def renamed (model : Model) (names : List String) : Model :=
  names.foldl rename model

/-- Renaming a model renames its relation and keeps its columns. -/
theorem renamed_eq (model : Model) (names : List String) :
    model.renamed names = ⟨model.relation.renamed names, model.columnNames⟩ := by
  induction names generalizing model with
  | nil => rfl
  | cons name names ih => exact ih (model.rename name)

/-- What a model is after a chain of names. -/
structure RenamedTo (model : Model) (last : String) (renamed : Model) : Prop where
  relation : renamed.relation = model.relation.rename last
  columnNames : renamed.columnNames = model.columnNames
  /-- It has the columns that it had. -/
  accepts : ∀ name,
    (∃ e, renamed.column name = .ok e) ↔ ∃ e, model.column name = .ok e
  /-- Every column is qualified by the last name. -/
  column : ∀ name e, renamed.column name = .ok e → e.WrittenAs (Relation.columnSql last name)
  columns : List.Forall₂ Expr.WrittenAs renamed.columns
    (model.columnNames.map (Relation.columnSql last))
  /-- A query of all columns has one entry in its FROM list. -/
  inferred : Select.inferred { items := renamed.columns } = [model.relation.rename last]
  /-- The entry is the declaration of the relation under the last name. -/
  query : ∀ style : PlaceholderStyle,
    (Statement.select { items := renamed.columns }).render ⟨style, true⟩ =
      ((model.relation.rename last).declare.render ⟨style, true⟩).map (Rendering.between
        ("SELECT " ++ ", ".intercalate (model.columnNames.map (Relation.columnSql last)) ++
          " FROM ") "")

/-- A renamed model hands out its columns under the last name. -/
theorem renamedTo_rename {model : Model} (hColumns : model.columnNames ≠ [])
    (hListed : model.relation.underlying ≠ .excluded) (last : String) :
    model.RenamedTo last (model.rename last) := by
  have hWritten : ∀ name, ((model.relation.rename last).column name).WrittenAs
      (Relation.columnSql last name) := by
    intro name
    have h := (model.relation.rename last).writtenAs_column name
    rwa [Relation.name_rename] at h
  constructor
  case relation => rfl
  case columnNames => rfl
  case accepts =>
    intro name
    unfold column
    have hSame : (model.rename last).hasColumn name = model.hasColumn name := rfl
    rw [hSame]
    cases model.hasColumn name with
    | true => exact ⟨fun _ => ⟨_, rfl⟩, fun _ => ⟨_, rfl⟩⟩
    | false => exact ⟨nofun, nofun⟩
  case column =>
    intro name e hColumn
    unfold column at hColumn
    split at hColumn
    · obtain rfl := Except.ok.inj hColumn
      exact hWritten name
    · cases hColumn
  case columns =>
    show List.Forall₂ _ (model.columnNames.map _) _
    rw [List.forall₂_map_left_iff, List.forall₂_map_right_iff, List.forall₂_same]
    exact fun name _ => hWritten name
  case inferred =>
    exact Select.inferred_columns (Relation.isPseudo_rename hListed last) hColumns
  case query => exact Relation.render_columns hListed hColumns last

end Model

/-- However often a relation is renamed, it is the table that it began with under the last name. A
model that is renamed keeps its columns, hands all of them out under the last name, and a query of
them reads that table once. -/
theorem renaming_reaches_table :
    (∀ relation : Relation, relation.Built →
        relation.Flat ∧ ∀ (names : List String) (last : String),
          relation.RenamedTo last (relation.renamed (names ++ [last]))) ∧
      ∀ model : Model, model.columnNames ≠ [] → model.relation.underlying ≠ .excluded →
        ∀ (names : List String) (last : String),
          model.RenamedTo last (model.renamed (names ++ [last])) := by
  refine ⟨fun relation h => ⟨fun _ _ => h.named_of_aliased, fun names last => ?_⟩,
    fun model hColumns hListed names last => ?_⟩
  · rw [relation.renamed_concat]
    exact h.renamedTo last
  · rw [model.renamed_eq, model.relation.renamed_concat]
    exact Model.renamedTo_rename hColumns hListed last

/-- Three names for a table of a schema that had one already, and two for a derived table. -/
theorem renaming_reaches_table_twice :
    let relation := (Relation.table (some "public") "tb").rename "Yes"
    let model : Model :=
      ⟨.derived { items := [.column (.table none "u") "k", .argument "a"] } "d", ["k", "j"]⟩
    relation.Built ∧ model.columnNames ≠ [] ∧ model.relation.underlying ≠ .excluded ∧
      (relation.renamed ["No", "Yes", "No"]).schema = some "public" ∧
      (relation.renamed ["No", "Yes", "No"]).declare.render ⟨.positional, true⟩ =
        .ok ⟨"\"public\".\"tb\" \"No\"", [], .positional⟩ ∧
      (Statement.select { items := (model.renamed ["x", "y"]).columns }).render
          ⟨.positional, true⟩ =
        .ok ⟨"SELECT \"y\".\"k\", \"y\".\"j\" " ++
          "FROM (SELECT \"u\".\"k\", $1 FROM \"u\") \"y\"", ["a"], .positional⟩ := by
  intro relation model
  have hBuilt : relation.Built := (Relation.Built.table (some "public") "tb").rename "Yes"
  have hColumns : model.columnNames ≠ [] := List.cons_ne_nil _ _
  have hListed : model.relation.underlying ≠ .excluded := nofun
  have hTable := (renaming_reaches_table.1 relation hBuilt).2 ["No", "Yes"] "No"
  have hModel := renaming_reaches_table.2 model hColumns hListed ["x"] "y"
  exact ⟨hBuilt, hColumns, hListed, hTable.schema, hTable.declared _,
    (hModel.query .positional).trans (by decide +kernel)⟩

end QueryText

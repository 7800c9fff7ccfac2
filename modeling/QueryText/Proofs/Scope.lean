import QueryText.Proofs.Layout.Pieces
import QueryText.Proofs.Outcome

/-!
# QueryText — every name is declared

A statement that completes its list of tables leaves no name undeclared. A sub-query expression
keeps its own list as it is, so a name in it travels outward: it is declared by one of the
sub-queries on its way, or it is among the relations that the outermost of them mentions, and
these the statement declares or adds.

## Main results

* `scopedCases` — what is not declared inside an expression is mentioned by it.
* `Layout.Scoped.resolve`, `Layout.Scoped.complete` — what a list of tables does to the names that
  are left over.
* `Statement.qualifiers_declared` — with inference on, every name that qualifies a column or a star
  is declared.
-/

namespace QueryText

-- ---------------------------------------------------------------------------
-- Sealed layouts
-- ---------------------------------------------------------------------------

/-- No name is referred to, except inside of the queries and predicates in the layout. -/
def Layout.Sealed (l : Layout) : Prop :=
  ∀ (between : List Select) (name : String), ⟨between.map .subquery, .qualifier name⟩ ∉ l

namespace Layout.Sealed

/-- An atom that is no qualifier refers to no name. -/
theorem of {atom : Atom} (hAtom : ∀ relation, atom ≠ .qualifier relation) :
    (Layout.of atom).Sealed := by
  intro between name h
  obtain ⟨-, rfl⟩ := Piece.mk.inj (List.mem_singleton.mp h)
  exact hAtom name rfl

/-- Sealed layouts are sealed one after the other. -/
theorem composes : Composes Sealed where
  nil _ _ h := absurd h List.not_mem_nil
  text _ := of (by nofun)
  name _ := of (by nofun)
  gap := of (by nofun)
  append l m hl hm between name h := by
    rcases List.mem_append.mp h with h | h
    · exact hl between name h
    · exact hm between name h

/-- Whatever is referred to inside of a query or a predicate is sealed off by its frame. -/
theorem inside {frame : Frame} (hFrame : ∀ query, frame ≠ .subquery query) (l : Layout) :
    (Layout.inside frame l).Sealed := by
  intro between name h
  obtain ⟨rest, hPath, -⟩ := mem_inside.mp h
  cases between with
  | nil => cases hPath
  | cons query between => exact hFrame query (List.cons.inj hPath).1.symm

/-- A sealed layout stays so if its declarations count as plain names. -/
theorem anonymized {l : Layout} (h : l.Sealed) : l.anonymized.Sealed :=
  fun between name hMem => h between name ((mem_anonymized (Or.inr ⟨name, rfl⟩)).mp hMem)

end Layout.Sealed

/-- No relation refers to a name, except inside of its own query. -/
theorem Relation.sealed_layout (r : Relation) (auto : Bool) : (r.layout auto).Sealed := by
  match r with
  | .table none name => exact Layout.Sealed.of (by nofun)
  | .table (some schema) name =>
    have h := Layout.Sealed.composes
    exact h.append _ _ (h.append _ _ (h.name schema) (h.text ".")) (Layout.Sealed.of (by nofun))
  | .aliased relation name =>
    have h := Layout.Sealed.composes
    have hHidden := (sealed_layout relation auto).anonymized
    exact h.append _ _ (h.append _ _ hHidden (h.text " ")) (Layout.Sealed.of (by nofun))
  | .derived query name =>
    exact Layout.Sealed.composes.derived query (Layout.Sealed.inside (by nofun) _)
      (Layout.Sealed.of (by nofun))
  | .excluded => exact Layout.Sealed.composes.text _

/-- No entry of a list of tables does, except in a derived table or a predicate. -/
theorem FromItem.sealed_layout (f : FromItem) (auto : Bool) : (f.layout auto).Sealed := by
  match f with
  | .relation r => exact r.sealed_layout auto
  | .join kind left right predicate =>
    have hLeft := sealed_layout left auto
    have hRight := sealed_layout right auto
    cases predicate with
    | none => exact Layout.Sealed.composes.join kind hLeft _ hRight fun l hl => nomatch hl
    | some condition =>
      exact Layout.Sealed.composes.join kind hLeft _ hRight
        fun l _ => Layout.Sealed.inside (by nofun) _

-- ---------------------------------------------------------------------------
-- Names that are left over
-- ---------------------------------------------------------------------------

namespace Layout

/-- A name is declared by the list of tables of the statement at a place, or by that of one of the
sub-queries from there inwards. -/
def DeclaredAt (l : Layout) (place : List Frame) (between : List Select) (name : String) :
    Prop :=
  ∃ inner, inner <+: between ∧ ⟨place ++ inner.map .subquery, .declaration name⟩ ∈ l

/-- A name that is declared in a layout is so in every larger one. -/
theorem DeclaredAt.mono {l m : Layout} {place : List Frame} {between : List Select}
    {name : String} (h : l.DeclaredAt place between name) (hSub : l ⊆ m) :
    m.DeclaredAt place between name := by
  obtain ⟨inner, hPrefix, hMem⟩ := h
  exact ⟨inner, hPrefix, hSub hMem⟩

theorem DeclaredAt.inside {l : Layout} {place : List Frame} {between : List Select}
    {name : String} (h : l.DeclaredAt place between name) (frame : Frame) :
    (Layout.inside frame l).DeclaredAt (frame :: place) between name := by
  obtain ⟨inner, hPrefix, hMem⟩ := h
  exact ⟨inner, hPrefix, mem_inside.mpr ⟨_, rfl, hMem⟩⟩

/-- Every name that qualifies something in a layout, derived tables and predicates apart, is
declared in the layout or is the name of one of the relations that are left over. -/
def Scoped (free : List Relation) (l : Layout) : Prop :=
  ∀ (between : List Select) (name : String), ⟨between.map .subquery, .qualifier name⟩ ∈ l →
    name = Relation.excludedName ∨ name ∈ free.map Relation.name ∨
      l.DeclaredAt [] between name

namespace Scoped

variable {free more : List Relation} {l : Layout}

/-- A sealed layout leaves no name over. -/
theorem of_sealed (h : l.Sealed) : l.Scoped free :=
  fun between name hMem => absurd hMem (h between name)

theorem of {atom : Atom} (hAtom : ∀ relation, atom ≠ .qualifier relation) :
    (Layout.of atom).Scoped free :=
  of_sealed (Sealed.of hAtom)

/-- Layouts that leave only given names over do so one after the other: a declaration in one of them
counts in both. -/
theorem composes (free : List Relation) : Composes (Scoped free) where
  nil _ _ h := absurd h List.not_mem_nil
  text _ := of (by nofun)
  name _ := of (by nofun)
  gap := of (by nofun)
  append l m hl hm between name h := by
    rcases List.mem_append.mp h with h | h
    · rcases hl between name h with hName | hFree | hDeclared
      · exact Or.inl hName
      · exact Or.inr (Or.inl hFree)
      · exact Or.inr (Or.inr (hDeclared.mono (List.subset_append_left l m)))
    · rcases hm between name h with hName | hFree | hDeclared
      · exact Or.inl hName
      · exact Or.inr (Or.inl hFree)
      · exact Or.inr (Or.inr (hDeclared.mono (List.subset_append_right l m)))

/-- A qualifier leaves its relation over. -/
theorem qualifier {r : Relation} (h : r ∈ free) : Scoped free (Layout.qualifier r.name) := by
  intro between name hMem
  obtain ⟨-, hAtom⟩ := Piece.mk.inj (List.mem_singleton.mp hMem)
  obtain rfl := Atom.qualifier.inj hAtom
  exact Or.inr (Or.inl (List.mem_map_of_mem h))

/-- What a sub-query leaves over is left over around it. -/
theorem subquery (h : l.Scoped more) (hSub : more ⊆ free) (query : Select) :
    Scoped free (inside (.subquery query) l) := by
  intro between name hMem
  obtain ⟨rest, hPath, hInner⟩ := mem_inside.mp hMem
  cases between with
  | nil => cases hPath
  | cons first between =>
    -- the sub-query is the outermost of those on the way to the name
    obtain ⟨hFirst, rfl⟩ := List.cons.inj hPath
    obtain rfl := Frame.subquery.inj hFirst
    rcases h between name hInner with hName | hFree | ⟨inner, hPrefix, hDeclared⟩
    · exact Or.inl hName
    · exact Or.inr (Or.inl (List.map_subset _ hSub hFree))
    · refine Or.inr (Or.inr ⟨first :: inner, ?_, mem_inside.mpr ⟨_, rfl, hDeclared⟩⟩)
      exact List.prefix_cons_inj first |>.mpr hPrefix

/-- A list of tables takes care of the relations that it declares. -/
theorem resolve (h : l.Scoped free) {declared : List Relation}
    (hDeclared : ∀ d ∈ declared, d.isPseudo = false → ⟨[], .declaration d.name⟩ ∈ l) :
    l.Scoped ((RelationSet.ofList free).difference (RelationSet.ofList declared)) := by
  intro between name hMem
  rcases h between name hMem with hName | hFree | hInside
  · exact Or.inl hName
  · obtain ⟨r, hr, rfl⟩ := List.mem_map.mp hFree
    rcases RelationSet.mention_cases declared hr with
      hPseudo | ⟨d, hd, hNot, hName⟩ | ⟨m, hm, hName⟩
    · exact Or.inl (Relation.name_of_isPseudo hPseudo)
    · refine Or.inr (Or.inr ⟨[], List.nil_prefix, ?_⟩)
      rw [← hName]
      exact hDeclared d hd hNot
    · exact Or.inr (Or.inl (List.mem_map.mpr ⟨m, hm, hName⟩))
  · exact Or.inr (Or.inr hInside)

/-- Nothing is left over once the list of tables is completed. -/
theorem complete (h : l.Scoped free)
    (hAdded : ∀ r ∈ free, ⟨[], .declaration r.name⟩ ∈ l) : l.Scoped [] := by
  intro between name hMem
  rcases h between name hMem with hName | hFree | hInside
  · exact Or.inl hName
  · obtain ⟨r, hr, rfl⟩ := List.mem_map.mp hFree
    exact Or.inr (Or.inr ⟨[], List.nil_prefix, hAdded r hr⟩)
  · exact Or.inr (Or.inr hInside)

end Scoped

end Layout

-- ---------------------------------------------------------------------------
-- Trees
-- ---------------------------------------------------------------------------

/-- What is not declared inside an expression is mentioned by it. -/
def Expr.Leaves (auto : Bool) (e : Expr) : Prop :=
  ∀ (naming : Naming) (free : List Relation), e.mentions ⊆ free →
    (e.layout auto naming).Scoped free

/-- A list of expressions leaves over what it mentions, if each expression does. -/
theorem Expr.leaves_all {auto : Bool} {exprs : List Expr} {free : List Relation}
    {naming : Naming} (h : ∀ e ∈ exprs, e.Leaves auto) (hFree : Expr.mentionsAll exprs ⊆ free) :
    ∀ e ∈ exprs, (e.layout auto naming).Scoped free := by
  intro e he
  refine h e he naming free fun r hr => hFree ?_
  rw [Expr.mentionsAll_eq_flatMap]
  exact List.mem_flatMap.mpr ⟨e, he, hr⟩

/-- Sort keys leave over what they mention, if each key does. -/
theorem SortKey.leaves_all {auto : Bool} {keys : List SortKey} {free : List Relation}
    {naming : Naming} (h : ∀ k ∈ keys, k.expr.Leaves auto)
    (hFree : SortKey.mentionsAll keys ⊆ free) :
    ∀ k ∈ keys, (k.expr.layout auto naming).Scoped free := by
  intro k hk
  refine h k hk naming free fun r hr => hFree ?_
  rw [SortKey.mentionsAll_eq_flatMap]
  exact List.mem_flatMap.mpr ⟨k, hk, by cases k; exact hr⟩

/-- An expression leaves over what it mentions, and a query what it infers. -/
theorem scopedCases (auto : Bool) :
    TreeCases (fun _ => True) (fun e => e.Leaves auto) (fun _ => True)
      (fun q => ∀ infer, (q.layout auto infer).Scoped q.inferred) where
  table _ _ := trivial
  aliased _ _ _ := trivial
  derived _ _ _ := trivial
  excluded := trivial
  column r name _ naming free hFree :=
    (Layout.Scoped.composes free).column naming
      (Layout.Scoped.qualifier (hFree (List.mem_singleton.mpr rfl))) name
  star _ free _ := (Layout.Scoped.composes free).text "*"
  allOf r _ naming free hFree :=
    (Layout.Scoped.composes free).allOf naming
      (Layout.Scoped.qualifier (hFree (List.mem_singleton.mpr rfl)))
  argument tag _ free _ := Layout.Scoped.of (by nofun)
  literal s _ free _ := (Layout.Scoped.composes free).text s
  raw sql operands h naming free hFree :=
    (Layout.Scoped.composes free).raw sql (Layout.Composes.layouts (Expr.leaves_all h hFree))
  group inner h naming free hFree :=
    (Layout.Scoped.composes free).parenthesized (h naming.inner free hFree)
  list items h naming free hFree :=
    (Layout.Scoped.composes free).tuple (Layout.Composes.layouts (Expr.leaves_all h hFree))
  unary op operand h naming free hFree :=
    (Layout.Scoped.composes free).unary op _
      ((Layout.Scoped.composes free).operand _ (h naming.inner free hFree))
  binary op left right hLeft hRight naming free hFree := by
    have h := Layout.Scoped.composes free
    obtain ⟨hLeftFree, hRightFree⟩ := List.append_subset.mp hFree
    exact h.binary op (h.operand _ (hLeft naming.inner free hLeftFree))
      (h.operand _ (hRight naming.inner free hRightFree))
  logical op operands h naming free hFree :=
    (Layout.Scoped.composes free).connected op
      (Layout.Composes.layouts (Expr.leaves_all h hFree))
  call function operands h naming free hFree :=
    (Layout.Scoped.composes free).call function
      (Layout.Composes.layouts (Expr.leaves_all h hFree))
  named inner name h naming free hFree :=
    (Layout.Scoped.composes free).named naming (h .reference free hFree) name
  subquery op q h _ free hFree :=
    (Layout.Scoped.composes free).subquery op q (Layout.Scoped.subquery (h false) hFree q)
  listed _ _ := trivial
  join _ _ _ _ _ _ _ := trivial
  query q hItems _ hFilters hGroups hGroupFilters hOrder _ infer := by
    have hMentioned : (q.layout auto infer).Scoped q.mentions := by
      refine (Layout.Scoped.composes q.mentions).query (fun _ => Layout.Scoped.of (by nofun))
        (Expr.leaves_all hItems ?_) (fun f _ => Layout.Scoped.of_sealed (f.sealed_layout _))
        (Expr.leaves_all hFilters ?_) (Expr.leaves_all hGroups ?_)
        (Expr.leaves_all hGroupFilters ?_) (SortKey.leaves_all hOrder ?_)
        (fun r _ => Layout.Scoped.of_sealed (r.sealed_layout _))
      all_goals
        intro r hr
        simp only [Select.mentions, List.mem_append, hr, or_true, true_or]
    rw [q.inferred_eq]
    refine hMentioned.resolve fun d hd hNot => ?_
    obtain ⟨f, hf, hDeclares⟩ := List.mem_flatMap.mp hd
    exact Select.mem_layout (Or.inl ⟨f, hf, FromItem.declaration_mem_layout hDeclares hNot⟩)

-- ---------------------------------------------------------------------------
-- Statements that complete their tables
-- ---------------------------------------------------------------------------

/-- A query that infers leaves no name over. -/
theorem Select.scoped_layout (query : Select) : (query.layout true true).Scoped [] := by
  refine Layout.Scoped.complete ((scopedCases true).select query true) fun r hr => ?_
  have hNot : r.isPseudo = false := by
    rw [query.inferred_eq] at hr
    exact (RelationSet.mem_difference hr).2
  exact Select.mem_layout (Or.inr ⟨r, hr, Relation.declaration_mem_layout hNot⟩)

/-- Expressions leave over nothing but what they mention. -/
theorem Expr.scoped_mentioned {exprs : List Expr} {free : List Relation} {naming : Naming}
    (hFree : Expr.mentionsAll exprs ⊆ free) :
    ∀ e ∈ exprs, (e.layout true naming).Scoped free :=
  Expr.leaves_all (fun e _ => (scopedCases true).expr e) hFree

/-- A change that writes its target, its tables and the relations that it infers leaves no name
over. -/
theorem Layout.Scoped.completed {l : Layout} {free : List Relation} {target : Relation}
    {tables : List FromItem} (h : l.Scoped free)
    (hWritten : ∀ piece,
      piece ∈ target.layout true ∨ (∃ f ∈ tables, piece ∈ f.layout true) ∨
        (∃ r ∈ (RelationSet.ofList free).difference
          (RelationSet.ofList (target :: tables.flatMap FromItem.declares)),
            piece ∈ r.layout true) → piece ∈ l) : l.Scoped [] := by
  have hDeclared : ∀ d ∈ target :: tables.flatMap FromItem.declares, d.isPseudo = false →
      ⟨[], .declaration d.name⟩ ∈ l := by
    intro d hd hNot
    rcases List.mem_cons.mp hd with rfl | hTables
    · exact hWritten _ (Or.inl (Relation.declaration_mem_layout hNot))
    · obtain ⟨f, hf, hDeclares⟩ := List.mem_flatMap.mp hTables
      have hMem : ⟨[], .declaration d.name⟩ ∈ f.layout true :=
        FromItem.declaration_mem_layout hDeclares hNot
      exact hWritten _ (Or.inr (Or.inl ⟨f, hf, hMem⟩))
  refine (h.resolve hDeclared).complete fun r hr => hWritten _ (Or.inr (Or.inr ⟨r, hr, ?_⟩))
  exact Relation.declaration_mem_layout (RelationSet.mem_difference hr).2

/-- An UPDATE that infers leaves no name over. -/
theorem Update.scoped_clauses (update : Update) :
    (Layout.closed (update.clauses true)).Scoped [] := by
  have hMentioned : (Layout.closed (update.clauses true)).Scoped update.mentions := by
    refine (Layout.Scoped.composes update.mentions).update
      (fun _ => Layout.Scoped.of (by nofun))
      (Layout.Scoped.of_sealed (update.target.sealed_layout _)) (Expr.scoped_mentioned ?_)
      (fun f _ => Layout.Scoped.of_sealed (f.sealed_layout _)) (Expr.scoped_mentioned ?_)
      (Expr.scoped_mentioned ?_) (fun r _ => Layout.Scoped.of_sealed (r.sealed_layout _))
    all_goals
      intro r hr
      simp only [Update.mentions, List.mem_append, hr, or_true, true_or]
  exact hMentioned.completed fun _ hWritten => Update.mem_layout hWritten

/-- A DELETE that infers leaves no name over. -/
theorem Delete.scoped_clauses (delete : Delete) :
    (Layout.closed (delete.clauses true)).Scoped [] := by
  have hMentioned : (Layout.closed (delete.clauses true)).Scoped delete.mentions := by
    refine (Layout.Scoped.composes delete.mentions).delete
      (fun _ => Layout.Scoped.of (by nofun))
      (Layout.Scoped.of_sealed (delete.target.sealed_layout _))
      (fun f _ => Layout.Scoped.of_sealed (f.sealed_layout _)) (Expr.scoped_mentioned ?_)
      (Expr.scoped_mentioned ?_) (fun r _ => Layout.Scoped.of_sealed (r.sealed_layout _))
    all_goals
      intro r hr
      simp only [Delete.mentions, List.mem_append, hr, or_true, true_or]
  exact hMentioned.completed fun _ hWritten => Delete.mem_layout hWritten

-- ---------------------------------------------------------------------------
-- Every level of a layout
-- ---------------------------------------------------------------------------

namespace Layout

/-- Inside of every statement that completes its list of tables, however deep it stands, every
name that qualifies a column or a star is declared: it is the name of the excluded row, or an
entry of the list of that statement, or one of the list of a sub-query between the two. What
stands in a derived table or in an `ON` predicate belongs to other statements. -/
def Resolved (l : Layout) : Prop :=
  ∀ (outer : List Frame) (home : Frame) (between : List Select) (name : String),
    home.completes = true →
    ⟨outer ++ [home] ++ between.map .subquery, .qualifier name⟩ ∈ l →
    name = Relation.excludedName ∨ l.DeclaredAt (outer ++ [home]) between name

namespace Resolved

variable {l : Layout}

/-- A single piece stands in no statement. -/
theorem of (atom : Atom) : (Layout.of atom).Resolved := by
  intro outer home between name _ h
  obtain ⟨hPath, -⟩ := Piece.mk.inj (List.mem_singleton.mp h)
  simp at hPath

/-- Layouts in which every name is declared are so one after the other. -/
theorem composes : Composes Resolved where
  nil _ _ _ _ _ h := absurd h List.not_mem_nil
  text _ := of _
  name _ := of _
  gap := of _
  append l m hl hm outer home between name hHome h := by
    rcases List.mem_append.mp h with h | h
    · exact (hl outer home between name hHome h).imp_right
        fun hDeclared => hDeclared.mono (List.subset_append_left l m)
    · exact (hm outer home between name hHome h).imp_right
        fun hDeclared => hDeclared.mono (List.subset_append_right l m)

/-- The names that qualify something are the same if declarations count as plain names. -/
theorem anonymized (h : l.Resolved) : l.anonymized.Resolved := by
  intro outer home between name hHome hMem
  have hQualifier := (mem_anonymized (Or.inr ⟨name, rfl⟩)).mp hMem
  refine (h outer home between name hHome hQualifier).imp_right ?_
  rintro ⟨inner, hPrefix, hDeclared⟩
  exact ⟨inner, hPrefix, (mem_anonymized (Or.inl (by simp))).mpr hDeclared⟩

/-- What stands deeper than a frame is found deeper than the frame. -/
theorem inside_deeper (h : l.Resolved) {frame home : Frame} {outer : List Frame}
    {between : List Select} {name : String} (hHome : home.completes = true)
    (hMem : ⟨(frame :: outer) ++ [home] ++ between.map .subquery, .qualifier name⟩ ∈
      inside frame l) :
    name = Relation.excludedName ∨
      (inside frame l).DeclaredAt ((frame :: outer) ++ [home]) between name := by
  obtain ⟨rest, hPath, hInner⟩ := mem_inside.mp hMem
  obtain rfl := (List.cons.inj hPath).2
  exact (h outer home between name hHome hInner).imp_right fun hDeclared => hDeclared.inside frame

/-- A frame without a list of tables of its own. -/
theorem inside (h : l.Resolved) {frame : Frame} (hFrame : frame.completes = false) :
    (inside frame l).Resolved := by
  intro outer home between name hHome hMem
  obtain ⟨rest, hPath, -⟩ := mem_inside.mp hMem
  cases outer with
  | nil =>
    obtain rfl := (List.cons.inj hPath).1
    rw [hFrame] at hHome
    cases hHome
  | cons first outer =>
    obtain rfl := (List.cons.inj hPath).1
    exact h.inside_deeper hHome hMem

/-- A frame with a list of tables that leaves no name over. -/
theorem inside_home (h : l.Resolved) (hScoped : l.Scoped []) (frame : Frame) :
    (Layout.inside frame l).Resolved := by
  intro outer home between name hHome hMem
  obtain ⟨rest, hPath, hInner⟩ := mem_inside.mp hMem
  -- either the frame itself is the statement that the name belongs to, or that one is deeper
  cases outer with
  | nil =>
    obtain ⟨rfl, rfl⟩ := List.cons.inj hPath
    rcases hScoped between name hInner with hName | hFree | hDeclared
    · exact Or.inl hName
    · exact absurd hFree List.not_mem_nil
    · exact Or.inr (hDeclared.inside home)
  | cons first outer =>
    obtain rfl := (List.cons.inj hPath).1
    exact h.inside_deeper hHome hMem

/-- In a pass that infers, a query leaves no name over, and a sub-query or a predicate leaves its
names to the query around it. -/
theorem frames : Frames true Resolved where
  toComposes := composes
  argument _ := of _
  declaration _ := of _
  note _ := of _
  qualifier _ := of _
  anonymized _ h := h.anonymized
  subquery _ _ h := h.inside rfl
  predicate _ h := h.inside rfl
  query q h := h.inside_home q.scoped_layout _

end Resolved

end Layout

namespace Statement

/-- In a pass that infers, every name of a statement is declared. -/
theorem resolved_layout (statement : Statement) : (statement.layout true).Resolved :=
  Layout.Resolved.frames.statement
    (fun update h => h.inside_home update.scoped_clauses .change)
    (fun delete h => h.inside_home delete.scoped_clauses .change) statement

/-- With inference on, whatever a pass writes is written from a layout in which every name that
qualifies a column or a star is declared; a pass that ends writes all of it. -/
theorem qualifiers_declared (statement : Statement) (style : PlaceholderStyle) :
    statement.fragments ⟨style, true⟩ <+: (statement.layout true).fragments [] ∧
      (∀ rendering, statement.render ⟨style, true⟩ = .ok rendering →
        statement.fragments ⟨style, true⟩ = (statement.layout true).fragments []) ∧
      (statement.layout true).Resolved :=
  ⟨statement.fragments_prefix ⟨style, true⟩, fun _ h => (of_render_ok h).1,
    statement.resolved_layout⟩

/-- A sub-query that mentions a relation without listing it: the name travels outward, and the
query around it adds the relation. -/
theorem qualifiers_declared_correlated :
    ∃ outer inner : Select,
      (Statement.select outer).render ⟨.positional, true⟩ =
        .ok ⟨"SELECT 1 FROM \"a\" WHERE EXISTS (SELECT * FROM \"b\" WHERE \"a\".\"x\" < \"b\".\"y\")",
          [], .positional⟩ ∧
      ⟨[.query outer, .subquery inner], .qualifier "a"⟩ ∈ (Statement.select outer).layout true ∧
      ("a" = Relation.excludedName ∨
        ((Statement.select outer).layout true).DeclaredAt [.query outer] [inner] "a") := by
  refine ⟨
    { items := [.literal "1"]
      filters := [.subquery .exists
        { items := [.star]
          tables := [.relation (.table none "b")]
          filters := [.binary .less (.column (.table none "a") "x")
            (.column (.table none "b") "y")] }] },
    { items := [.star]
      tables := [.relation (.table none "b")]
      filters := [.binary .less (.column (.table none "a") "x")
        (.column (.table none "b") "y")] }, ?_, ?_⟩
  · decide +kernel
  · refine (fun hMem => ⟨hMem, ?_⟩) (List.mem_of_getElem? (i := 16) rfl)
    exact (qualifiers_declared _ .positional).2.2 [] _ [_] "a" rfl hMem

end Statement

end QueryText

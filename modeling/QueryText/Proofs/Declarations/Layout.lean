import QueryText.Proofs.Declarations.Basic
import QueryText.Proofs.Reference

/-!
# QueryText — layouts that declare relations

A layout declares relations one after the other: each at a piece with which the layout of the
relation begins, and a relation that was added to a list right behind a note of that. What is
written for a tree declares exactly the declarations of the tree, in their order.

## Main results

* `Layout.Declares.inside`, ..., `Layout.DeclaresAll.tableClause` — one statement for each phrase.
* `declaresCases` — the layout of every tree declares what the tree declares.
* `Statement.declares_pieces` — so does that of a statement.
-/

namespace QueryText

-- ---------------------------------------------------------------------------
-- Layouts that declare relations
-- ---------------------------------------------------------------------------

/-- What a pass notes about a declaration: where it was added, if it was. -/
def Declaration.note? (d : Declaration) : Option Inference :=
  d.addedTo.map fun keyword => ⟨d.relation.name, keyword⟩

/-- An atom that is written as some text. -/
structure Atom.Solid (atom : Atom) : Prop where
  note : atom.note? = none
  text : ∀ style slots, spellAll style (atom.fragments slots) ≠ ""

theorem Atom.solid_text {s : String} (h : s ≠ "") : (Atom.text s).Solid := by
  refine ⟨rfl, fun style slots => ?_⟩
  have hSpelled : spellAll style ((Atom.text s).fragments slots) = s := String.empty_append
  rwa [hSpelled]

/-- A name is: even an empty one has its quotes. -/
theorem Atom.solid_name (name : String) : (Atom.name name).Solid := by
  refine ⟨rfl, fun style slots hEmpty => ?_⟩
  have hSpelled : spellAll style ((Atom.name name).fragments slots) = Identifier.quote name :=
    String.empty_append
  rw [hSpelled] at hEmpty
  exact absurd (congrArg String.toList hEmpty) (by simp [Identifier.quote, Identifier.quoteChars])

/-- A declared name is written like any other. -/
theorem Atom.solid_declaration (name : String) : (Atom.declaration name).Solid :=
  ⟨rfl, (Atom.solid_name name).text⟩

namespace Layout

namespace Alike

variable {l m n : Layout}

theorem trans (h : l.Alike m) (h' : m.Alike n) : l.Alike n :=
  ⟨h.tags.trans h'.tags,
    fun style slots => (h.spelling style slots).trans (h'.spelling style slots)⟩

/-- A layout without its declarations reads like the layout itself. -/
theorem anonymized (l : Layout) : (Layout.anonymized l).Alike l := by
  refine ⟨tags_anonymized l, fun style slots => ?_⟩
  rw [Layout.spelling, Layout.spelling, fragments_anonymized]

end Alike

/-- What begins with some text does so when its declarations count as plain names. -/
theorem exists_anonymized_cons (piece : Piece) (l : Layout) :
    ∃ first, anonymized (piece :: l) = first :: anonymized l ∧
      (piece.atom.Solid → first.atom.Solid) := by
  refine ⟨_, rfl, fun hSolid => ?_⟩
  dsimp only
  split
  · exact Atom.solid_name _
  · exact hSolid

/-- A layout that begins with what a relation is declared as. -/
def Begins (auto : Bool) (l : Layout) (r : Relation) : Prop :=
  ∃ own rest, l = own ++ rest ∧ own.Alike (r.layout auto)

/-- A layout declares relations, each at a piece of its own. -/
inductive Declares (auto : Bool) : Layout → List Declaration → Prop where
  | nil : Declares auto [] []
  | skip {piece : Piece} {l : Layout} {ds : List Declaration} (hNote : piece.atom.note? = none)
    (h : Declares auto l ds) : Declares auto (piece :: l) ds
  | listed {piece : Piece} {l : Layout} {r : Relation} {ds : List Declaration}
    (hSolid : piece.atom.Solid) (hText : Begins auto (piece :: l) r)
    (h : Declares auto l ds) : Declares auto (piece :: l) (⟨r, none⟩ :: ds)
  | added {note piece : Piece} {l : Layout} {r : Relation} {keyword : String}
    {ds : List Declaration} (hNote : note.atom.note? = some ⟨r.name, keyword⟩)
    (hSolid : piece.atom.Solid) (hText : Begins auto (piece :: l) r)
    (h : Declares auto l ds) :
    Declares auto (note :: piece :: l) (⟨r, some keyword⟩ :: ds)

namespace Declares

variable {auto : Bool} {l m : Layout} {ds es : List Declaration}

/-- A layout without notes can be taken to declare nothing. -/
theorem plain (h : l.notes = []) : Declares auto l [] := by
  induction l with
  | nil => exact .nil
  | cons piece l ih =>
    rw [notes_cons, List.append_eq_nil_iff] at h
    exact .skip (Option.toList_eq_nil_iff.mp h.1) (ih h.2)

theorem text (s : String) : Declares auto (Layout.text s) [] :=
  plain rfl

theorem name (s : String) : Declares auto (Layout.name s) [] :=
  plain rfl

theorem declaration (s : String) : Declares auto (Layout.declaration s) [] :=
  plain rfl

theorem gap : Declares auto Layout.gap [] :=
  plain rfl

/-- What two layouts declare, they declare one after the other. The second one cannot change how a
relation of the first begins. -/
theorem append (h : Declares auto l ds) (h' : Declares auto m es) :
    Declares auto (l ++ m) (ds ++ es) := by
  have hBegins : ∀ {l : Layout} {r : Relation}, Begins auto l r → Begins auto (l ++ m) r := by
    rintro l r ⟨own, rest, rfl, hAlike⟩
    exact ⟨own, rest ++ m, List.append_assoc .., hAlike⟩
  induction h with
  | nil => exact h'
  | skip hNote _ ih => exact .skip hNote ih
  | listed hSolid hText _ ih => exact .listed hSolid (hBegins hText) ih
  | added hNote hSolid hText _ ih => exact .added hNote hSolid (hBegins hText) ih

theorem append_plain (h : Declares auto l ds) (h' : Declares auto m []) :
    Declares auto (l ++ m) ds := by
  rw [← List.append_nil ds]
  exact h.append h'

theorem plain_append (h : Declares auto l []) (h' : Declares auto m ds) :
    Declares auto (l ++ m) ds :=
  h.append h'

/-- A change of single pieces that keeps what they are written as. -/
theorem map {f : Piece → Piece} (hNote : ∀ piece, (f piece).atom.note? = piece.atom.note?)
    (hSolid : ∀ piece, piece.atom.Solid → (f piece).atom.Solid)
    (hAlike : ∀ l : Layout, Alike (l.map f) l) (h : Declares auto l ds) :
    Declares auto (l.map f) ds := by
  have hBegins : ∀ {l : Layout} {r : Relation}, Begins auto l r → Begins auto (l.map f) r := by
    rintro l r ⟨own, rest, rfl, hOwn⟩
    exact ⟨own.map f, rest.map f, List.map_append, (hAlike own).trans hOwn⟩
  induction h with
  | nil => exact .nil
  | skip hPlain _ ih => exact .skip ((hNote _).trans hPlain) ih
  | listed hFirst hText _ ih => exact .listed (hSolid _ hFirst) (hBegins hText) ih
  | added hNoted hFirst hText _ ih =>
    exact .added ((hNote _).trans hNoted) (hSolid _ hFirst) (hBegins hText) ih

/-- A frame does not change what is declared. -/
theorem inside (h : Declares auto l ds) (frame : Frame) :
    Declares auto (Layout.inside frame l) ds :=
  h.map (fun _ => rfl) (fun _ hSolid => hSolid) (Alike.inside frame)

/-- A declared name that counts as a plain one declares the same: a declaration is told by its text.
-/
theorem anonymized (h : Declares auto l ds) : Declares auto (Layout.anonymized l) ds := by
  refine h.map (fun piece => ?_) (fun piece hSolid => ?_) Alike.anonymized
  · split <;> rfl
  · split
    · exact Atom.solid_name _
    · exact hSolid

end Declares

/-- Layouts one after the other declare relations. -/
inductive DeclaresAll (auto : Bool) : List Layout → List Declaration → Prop where
  | nil : DeclaresAll auto [] []
  | cons {l : Layout} {ls : List Layout} {ds es : List Declaration} (hFirst : Declares auto l ds)
    (hRest : DeclaresAll auto ls es) : DeclaresAll auto (l :: ls) (ds ++ es)

namespace DeclaresAll

variable {auto : Bool} {l : Layout} {ls ms : List Layout} {ds es : List Declaration}

theorem singleton (h : Declares auto l ds) : DeclaresAll auto [l] ds := by
  rw [← List.append_nil ds]
  exact .cons h .nil

/-- Two lists of layouts declare what the first and then what the second declares. -/
theorem append (h : DeclaresAll auto ls ds) (h' : DeclaresAll auto ms es) :
    DeclaresAll auto (ls ++ ms) (ds ++ es) := by
  induction h with
  | nil => exact h'
  | cons hFirst _ ih =>
    rw [List.append_assoc]
    exact .cons hFirst ih

/-- Layouts that are made from values declare what is declared for each value. -/
theorem map {α : Type} {f : α → Layout} {g : α → List Declaration} {xs : List α}
    (h : ∀ x ∈ xs, Declares auto (f x) (g x)) : DeclaresAll auto (xs.map f) (xs.flatMap g) := by
  induction xs with
  | nil => exact .nil
  | cons x xs ih =>
    exact .cons (h x (List.mem_cons_self ..)) (ih fun y hy => h y (List.mem_cons_of_mem _ hy))

/-- Layouts put together declare what they declare one by one, if the separator declares nothing. -/
theorem intercalate (h : DeclaresAll auto ls ds) {separator : Layout}
    (hSeparator : Declares auto separator []) : Declares auto (separator.intercalate ls) ds := by
  induction h with
  | nil => exact .nil
  | cons hFirst hRest ih =>
    cases hRest with
    | nil =>
      rw [List.intercalate_singleton, List.append_nil]
      exact hFirst
    | cons hSecond hMore =>
      rw [List.intercalate_cons_cons]
      exact (hFirst.append_plain hSeparator).append ih

end DeclaresAll

-- ---------------------------------------------------------------------------
-- Phrases
-- ---------------------------------------------------------------------------

section Phrases

variable {auto : Bool} {l m : Layout} {ls ms : List Layout} {ds es : List Declaration}

theorem Declares.parenthesized (h : Declares auto l ds) :
    Declares auto (Layout.parenthesized l) ds :=
  ((Declares.text "(").plain_append h).append_plain (.text ")")

/-- An operand declares the same with parentheses and without. -/
theorem Declares.operand (h : Declares auto l ds) (compound : Bool) :
    Declares auto (Layout.operand compound l) ds := by
  cases compound with
  | true => exact h.parenthesized
  | false => exact h

/-- Text between layouts declares nothing. -/
theorem DeclaresAll.separated (h : DeclaresAll auto ls ds) (separator : String) :
    Declares auto (Layout.separated separator ls) ds :=
  h.intercalate (.text separator)

theorem DeclaresAll.tuple (h : DeclaresAll auto ls ds) : Declares auto (Layout.tuple ls) ds :=
  (h.separated ", ").parenthesized

theorem DeclaresAll.call (h : DeclaresAll auto ls ds) (function : String) :
    Declares auto (Layout.call function ls) ds :=
  (Declares.text function).plain_append h.tuple

/-- Layouts in parentheses declare what they declare without. -/
theorem DeclaresAll.map_parenthesized (h : DeclaresAll auto ls ds) :
    DeclaresAll auto (ls.map Layout.parenthesized) ds := by
  induction h with
  | nil => exact .nil
  | cons hFirst _ ih => exact .cons hFirst.parenthesized ih

theorem DeclaresAll.connected (h : DeclaresAll auto ls ds) (op : LogicalOp) :
    Declares auto (Layout.connected op ls) ds :=
  h.map_parenthesized.separated _

/-- A column declares nothing, whatever its qualifier. -/
theorem Declares.column (naming : Naming) (relation name : String) :
    Declares auto (Layout.column naming relation name) [] := by
  unfold Layout.column
  split <;> exact .plain rfl

theorem Declares.allOf (naming : Naming) (relation : String) :
    Declares auto (Layout.allOf naming relation) [] := by
  unfold Layout.allOf
  split <;> exact .plain rfl

/-- A named expression declares what the expression does, but only where it is shown. -/
theorem Declares.named (h : Declares auto l ds) (naming : Naming) (name : String) :
    Declares auto (Layout.named naming l name) (if naming = .declaration then ds else []) := by
  unfold Layout.named
  split
  · exact (h.append_plain (.text " ")).append_plain (.name name)
  · exact .name name

theorem Declares.spaceIf (wanted : Bool) :
    Declares auto (if wanted then Layout.text " " else []) [] := by
  cases wanted <;> exact .plain rfl

/-- A prefix or postfix operator declares nothing itself. -/
theorem Declares.unary (h : Declares auto l ds) (op : UnaryOp) (touching : Bool) :
    Declares auto (Layout.unary op touching l) ds := by
  unfold Layout.unary
  split
  · exact ((Declares.text op.token).append (.spaceIf _)).plain_append h
  · exact (h.append_plain (.spaceIf op.spaced)).append_plain (.text op.token)

/-- A binary operator declares what its left and then what its right side declares. -/
theorem Declares.binary (h : Declares auto l ds) (op : BinaryOp) (h' : Declares auto m es) :
    Declares auto (Layout.binary op l m) (ds ++ es) :=
  (h.append_plain (.text _)).append h'

/-- An operand without a hole is not written. -/
theorem DeclaresAll.filled (first : List Char) (pieces : List (List Char))
    (h : DeclaresAll auto (ls.take pieces.length) ds) :
    Declares auto (Layout.filled first pieces ls) ds := by
  induction pieces generalizing first ls ds with
  | nil =>
    cases h
    exact .text _
  | cons piece pieces ih =>
    cases ls with
    | nil =>
      cases h
      have hNone : DeclaresAll auto (List.take pieces.length []) [] := by
        rw [List.take_nil]
        exact .nil
      exact ((Declares.text _).append (.text "?")).plain_append (ih piece hNone)
    | cons l ls =>
      cases h with
      | cons hFirst hRest => exact ((Declares.text _).plain_append hFirst).append (ih piece hRest)

/-- A sub-query declares what its query declares. -/
theorem Declares.subquery (h : Declares auto l ds) (op : SubqueryOp) (query : Select) :
    Declares auto (Layout.subquery op query l) ds :=
  ((Declares.text _).plain_append (h.inside _)).append_plain (.text ")")

/-- The predicate of a join declares what is in it. -/
theorem Declares.onPredicate (h : Declares auto l ds) :
    Declares auto (Layout.onPredicate (some l)) ds :=
  (Declares.text " ON ").plain_append (h.parenthesized.inside _)

/-- A join declares what its sides and then what its predicate declares, with parentheses on the
right or without. -/
theorem Declares.join (h : Declares auto l ds) (kind : JoinKind) (grouped : Bool)
    (h' : Declares auto m es) {predicate : Option Layout} {fs : List Declaration}
    (hOn : Declares auto (Layout.onPredicate predicate) fs) :
    Declares auto (Layout.join kind l grouped m predicate) (ds ++ es ++ fs) :=
  ((h.append_plain (.text _)).append (h'.operand grouped)).append hOn

theorem Declares.clause (h : Declares auto l ds) (keyword : String) :
    Declares auto (Layout.clause keyword l) ds :=
  (Declares.text _).plain_append h

/-- A clause of a list declares what the items declare, also if there are none. -/
theorem DeclaresAll.listClause (h : DeclaresAll auto ls ds) (keyword : String) :
    DeclaresAll auto (Layout.listClause keyword ls) ds := by
  unfold Layout.listClause
  cases h with
  | nil => exact .nil
  | cons hFirst hRest => exact .singleton (((DeclaresAll.cons hFirst hRest).separated _).clause _)

/-- One predicate or several declare what is in them. -/
theorem DeclaresAll.condition (h : DeclaresAll auto ls ds) :
    Declares auto (Layout.condition ls) ds := by
  unfold Layout.condition
  split
  · cases h with
    | cons hFirst hRest =>
      cases hRest
      rw [List.append_nil]
      exact hFirst
  · exact h.connected _

/-- A clause of predicates declares what is in them. -/
theorem DeclaresAll.conditionClause (h : DeclaresAll auto ls ds) (keyword : String) :
    DeclaresAll auto (Layout.conditionClause keyword ls) ds := by
  unfold Layout.conditionClause
  cases h with
  | nil => exact .nil
  | cons hFirst hRest => exact .singleton ((DeclaresAll.cons hFirst hRest).condition.clause _)

/-- The SELECT clause declares what its items declare. -/
theorem DeclaresAll.selectClause (h : DeclaresAll auto ls ds) :
    Declares auto (Layout.selectClause ls) ds := by
  unfold Layout.selectClause
  cases h with
  | nil => exact .text _
  | cons hFirst hRest => exact ((DeclaresAll.cons hFirst hRest).separated _).clause _

/-- A limit or an offset declares nothing. -/
theorem DeclaresAll.countClause (keyword : String) (count : Option Nat) :
    DeclaresAll auto (Layout.countClause keyword count) [] := by
  cases count with
  | none => exact .nil
  | some count => exact .singleton ((Declares.text _).clause keyword)

theorem DeclaresAll.append_plain (h : DeclaresAll auto ls ds) (h' : DeclaresAll auto ms []) :
    DeclaresAll auto (ls ++ ms) ds := by
  rw [← List.append_nil ds]
  exact h.append h'

/-- Clauses with spaces between them declare what they declare one by one. -/
theorem DeclaresAll.spaced (h : DeclaresAll auto ls ds) : Declares auto (Layout.spaced ls) ds :=
  h.intercalate .gap

end Phrases

end Layout

-- ---------------------------------------------------------------------------
-- Trees
-- ---------------------------------------------------------------------------

section Trees

variable {auto : Bool}

/-- The layout of a relation begins with some text, and behind its first piece it declares what lies
inside the relation. -/
def Relation.Opens (auto : Bool) (r : Relation) : Prop :=
  ∃ piece rest, r.layout auto = piece :: rest ∧ piece.atom.Solid ∧
    Layout.Declares auto rest (r.contents auto)

namespace Relation.Opens

variable {r : Relation}

/-- A relation in a list is declared there. -/
theorem listed (h : r.Opens auto) :
    Layout.Declares auto (r.layout auto) (r.declarations auto none) := by
  obtain ⟨piece, rest, hLayout, hSolid, hInside⟩ := h
  have hText : Layout.Begins auto (r.layout auto) r :=
    ⟨r.layout auto, [], (List.append_nil _).symm, .refl _⟩
  rw [hLayout] at hText ⊢
  exact .listed hSolid hText hInside

/-- A relation that was added to a list is declared behind the note of that. -/
theorem added (h : r.Opens auto) (keyword : String) :
    Layout.Declares auto (Layout.inferred keyword (r.draft auto))
      (r.declarations auto (some keyword)) := by
  obtain ⟨piece, rest, hLayout, hSolid, hInside⟩ := h
  have hText : Layout.Begins auto (r.layout auto) r :=
    ⟨r.layout auto, [], (List.append_nil _).symm, .refl _⟩
  have hDraft : (r.draft auto).declare = piece :: rest := hLayout
  rw [Layout.inferred, hDraft]
  rw [hLayout] at hText
  exact .added rfl hSolid hText hInside

end Relation.Opens

/-- A list of tables declares the listed ones and then, each behind its note, the added ones. -/
theorem Layout.DeclaresAll.tableClause {tables : List FromItem} {added : List Relation}
    (hListed : ∀ f ∈ tables, Declares auto (f.layout auto) (f.declarations auto))
    (hAdded : ∀ r ∈ added, r.Opens auto) (keyword : String) :
    DeclaresAll auto
      (Layout.tableClause keyword (tables.map (·.layout auto)) (added.map (Relation.draft auto)))
      (tableDeclarations auto keyword tables added) := by
  refine .listClause (.append (.map hListed) ?_) keyword
  rw [List.map_map]
  exact .map fun r hr => (hAdded r hr).added keyword

/-- A list of expressions declares what they declare, if it is so for each of them. -/
theorem Layout.DeclaresAll.layouts {exprs : List Expr} {naming : Naming}
    (h : ∀ e ∈ exprs, Declares auto (e.layout auto naming) (e.declarations auto naming)) :
    DeclaresAll auto (Expr.layouts auto exprs naming)
      (Expr.declarationLists auto exprs naming).flatten := by
  rw [Expr.layouts_eq_map, Expr.flatten_declarationLists]
  exact .map h

/-- The layout of every tree declares what the tree declares. -/
theorem declaresCases (auto : Bool) :
    TreeCases (fun r => r.Opens auto)
      (fun e => ∀ naming, Layout.Declares auto (e.layout auto naming) (e.declarations auto naming))
      (fun f => Layout.Declares auto (f.layout auto) (f.declarations auto))
      (fun q => ∀ infer, Layout.Declares auto (q.layout auto infer) (q.declarations auto infer))
      where
  table schema name := by
    cases schema with
    | none => exact ⟨_, _, rfl, Atom.solid_declaration name, .plain rfl⟩
    | some schema => exact ⟨_, _, rfl, Atom.solid_name schema, .plain rfl⟩
  aliased r name h := by
    obtain ⟨piece, rest, hLayout, hSolid, hInside⟩ := h
    obtain ⟨first, hFirst, hSolidFirst⟩ := Layout.exists_anonymized_cons piece rest
    refine ⟨first, Layout.anonymized rest ++ Layout.text " " ++ Layout.declaration name, ?_,
      hSolidFirst hSolid, ?_⟩
    · rw [Relation.layout, hLayout, hFirst]
      rfl
    · exact (hInside.anonymized.append_plain (.text " ")).append_plain (.declaration name)
  derived query name h := by
    have hBody := ((h auto).inside (.query query)).append_plain (.text ") ")
    exact ⟨_, _, rfl, Atom.solid_text (by decide), hBody.append_plain (.declaration name)⟩
  excluded := ⟨_, _, rfl, Atom.solid_text (by decide), .plain rfl⟩
  column r name _ naming := .column naming r.name name
  star _ := .text "*"
  allOf r _ naming := .allOf naming r.name
  argument tag _ := .plain rfl
  literal s _ := .text s
  raw sql operands h naming := by
    apply Layout.DeclaresAll.filled
    rw [Expr.declarations_raw, Expr.layouts_eq_map, ← List.map_take]
    exact .map fun e he => h e (List.mem_of_mem_take he) naming.inner
  group inner h naming := (h naming.inner).parenthesized
  list items h naming := (Layout.DeclaresAll.layouts fun e he => h e he naming.inner).tuple
  unary op operand h naming := ((h naming.inner).operand _).unary op _
  binary op left right hLeft hRight naming :=
    ((hLeft naming.inner).operand _).binary op ((hRight naming.inner).operand _)
  logical op operands h naming :=
    (Layout.DeclaresAll.layouts fun e he => h e he naming.inner).connected op
  call function operands h naming :=
    (Layout.DeclaresAll.layouts fun e he => h e he naming.inner).call function
  named inner name h naming := (h .reference).named naming name
  subquery op query h naming := (h false).subquery op query
  listed r h := h.listed
  join kind left right predicate hLeft hRight hOn := by
    cases predicate with
    | none => exact hLeft.join kind _ hRight .nil
    | some condition => exact hLeft.join kind _ hRight (hOn condition rfl .reference).onPredicate
  query q hItems hTables hFilters hGroups hGroupFilters hOrder hInferred infer := by
    have hList := Layout.DeclaresAll.tableClause hTables
      (fun r hr => hInferred r (q.completion_subset infer hr)) "FROM"
    have hKeys : ∀ k ∈ q.order, Layout.Declares auto (k.layout auto) (k.declarations auto) := by
      rintro ⟨expr, direction⟩ hk
      exact ((hOrder _ hk .reference).operand _).append_plain (.text _)
    rw [Select.layout_eq, Select.declarations_eq]
    apply Layout.DeclaresAll.spaced
    refine .append_plain (.append_plain ?_ (.countClause _ _)) (.countClause _ _)
    refine .append (.append (.append (.append (.append ?_ hList) ?_) ?_) ?_) ?_
    · exact .singleton (Layout.DeclaresAll.map fun e he => hItems e he _).selectClause
    · exact .conditionClause (.map fun e he => hFilters e he _) _
    · exact .listClause (.map fun e he => hGroups e he _) _
    · exact .conditionClause (.map fun e he => hGroupFilters e he _) _
    · exact .listClause (.map hKeys) _

end Trees

-- ---------------------------------------------------------------------------
-- Statements
-- ---------------------------------------------------------------------------

section Statements

variable (auto : Bool)

/-- Every list of expressions declares what its expressions declare. -/
theorem Expr.declaresAll (exprs : List Expr) (naming : Naming) :
    Layout.DeclaresAll auto (exprs.map (·.layout auto naming))
      (exprs.flatMap (·.declarations auto naming)) :=
  .map fun e _ => (declaresCases auto).expr e naming

/-- Assignments declare what their values declare. -/
theorem Assignments.declaresAll (assignments : Assignments) :
    Layout.DeclaresAll auto (assignments.layouts auto)
      (assignments.values.flatMap (·.declarations auto .reference)) := by
  rw [Assignments.values, List.flatMap_map]
  exact .map fun entry _ =>
    ((Layout.Declares.name _).append_plain (.text _)).plain_append
      ((declaresCases auto).expr entry.2 .reference)

/-- Every list of tables, completed or not, declares what it lists and what was added. -/
theorem FromItem.declaresAll (keyword : String) (tables : List FromItem)
    (added : List Relation) :
    Layout.DeclaresAll auto
      (Layout.tableClause keyword (tables.map (·.layout auto)) (added.map (Relation.draft auto)))
      (tableDeclarations auto keyword tables added) :=
  .tableClause (fun f _ => (declaresCases auto).fromItem f)
    (fun r _ => (declaresCases auto).relation r) keyword

/-- The clauses of an UPDATE that assigns something declare what the statement declares. -/
theorem Update.declaresAll_clauses {update : Update}
    (h : ¬ update.assignments.isEmpty = true) :
    Layout.DeclaresAll auto (update.clauses auto) (update.declarations auto) := by
  rw [Update.declarations, if_neg h]
  refine .append (.append (.append (.append ?_ ?_) ?_) ?_) ?_
  · exact .singleton (((declaresCases auto).relation update.target).listed.clause _)
  · exact (update.assignments.declaresAll auto).listClause _
  · exact FromItem.declaresAll auto "FROM" update.tables _
  · exact (Expr.declaresAll auto update.filters _).conditionClause _
  · exact (Expr.declaresAll auto update.returning _).listClause _

/-- The clauses of a DELETE declare what the statement declares. -/
theorem Delete.declaresAll_clauses (delete : Delete) :
    Layout.DeclaresAll auto (delete.clauses auto) (delete.declarations auto) := by
  refine .append (.append (.append ?_ ?_) ?_) ?_
  · exact .singleton (((declaresCases auto).relation delete.target).listed.clause _)
  · exact FromItem.declaresAll auto "USING" delete.tables _
  · exact (Expr.declaresAll auto delete.filters _).conditionClause _
  · exact (Expr.declaresAll auto delete.returning _).listClause _

namespace Insert

/-- The target of an INSERT is declared by itself, not by the name behind AS. -/
theorem declares_targetLayout (target : Relation) :
    Layout.Declares auto (targetLayout auto target) (targetDeclarations auto target) := by
  have hListed := fun r => ((declaresCases auto).relation r).listed
  cases target with
  | aliased r name =>
    exact ((hListed r).anonymized.append_plain (.text _)).append_plain (.declaration name)
  | table schema name => exact hListed _
  | derived query name => exact hListed _
  | excluded => exact hListed _

/-- Before the rows, nothing but the target is declared. -/
theorem declaresAll_head (insert : Insert) :
    Layout.DeclaresAll auto (insert.head auto) (targetDeclarations auto insert.target) := by
  have hNames : Layout.DeclaresAll auto (insert.columns.map Layout.name) [] := by
    have h : Layout.DeclaresAll auto (insert.columns.map Layout.name)
        (insert.columns.flatMap fun _ => []) := .map fun column _ => .name column
    rwa [List.flatMap_eq_nil_iff.mpr fun _ _ => rfl] at h
  have hColumns : Layout.DeclaresAll auto (columnsClause insert.columns) [] := by
    unfold columnsClause
    split
    · exact .nil
    · exact .singleton (hNames.separated _).parenthesized
  exact .append_plain (.singleton ((declares_targetLayout auto insert.target).clause _)) hColumns

/-- Rows declare what is in their values or in their query. -/
theorem declares_rowsLayout (rows : Rows) :
    Layout.Declares auto (rowsLayout auto rows) (rowsDeclarations auto rows) := by
  cases rows with
  | values rows =>
    refine .clause (Layout.DeclaresAll.separated (.map fun row _ => ?_) _) _
    exact ((Expr.declaresAll auto row .reference).separated _).parenthesized
  | query query => exact ((declaresCases auto).select query auto).inside _
  | defaults => exact .text _

/-- The targets of a conflict declare what their expressions do under bare naming. -/
theorem declaresAll_targetsClause (targets : List Expr) :
    Layout.DeclaresAll auto (targetsClause auto targets)
      (targets.flatMap (·.declarations auto .bare)) := by
  unfold targetsClause
  cases targets with
  | nil => exact .nil
  | cons target targets =>
    exact .singleton ((Expr.declaresAll auto (target :: targets) .bare).separated _).parenthesized

/-- An update of an existing row declares what its values and filters declare. -/
theorem declaresAll_actionClauses (action : ConflictAction) :
    Layout.DeclaresAll auto (actionClauses auto action) (actionDeclarations auto action) := by
  cases action with
  | nothing => exact .singleton (.text _)
  | update upsert =>
    refine .append (.append (.singleton (.text "DO UPDATE")) ?_) ?_
    · exact (upsert.assignments.declaresAll auto).listClause _
    · exact (Expr.declaresAll auto upsert.filters _).conditionClause _

/-- A conflict clause declares what its targets and then what its action declares. -/
theorem declaresAll_conflictClauses (conflict : Option Conflict) :
    Layout.DeclaresAll auto (conflictClauses auto conflict)
      (conflictDeclarations auto conflict) := by
  cases conflict with
  | none => exact .nil
  | some conflict =>
    refine .append (.append (.singleton (.text "ON CONFLICT")) ?_) ?_
    · exact declaresAll_targetsClause auto conflict.targets
    · exact declaresAll_actionClauses auto conflict.action

/-- The clauses of an INSERT declare what the statement declares. -/
theorem declaresAll_clauses (insert : Insert) :
    Layout.DeclaresAll auto (insert.clauses auto) (insert.declarations auto) := by
  unfold clauses declarations
  cases insert.misuse with
  | some cause => exact .nil
  | none =>
    cases insert.rows with
    | none => exact insert.declaresAll_head auto
    | some rows =>
      refine .append (.append (.append (insert.declaresAll_head auto) ?_) ?_) ?_
      · exact .singleton (declares_rowsLayout auto rows)
      · exact declaresAll_conflictClauses auto _
      · exact (Expr.declaresAll auto insert.returning _).listClause _

end Insert

/-- A statement declares what its clauses declare, one after the other. -/
theorem Statement.declares_pieces (statement : Statement) :
    Layout.Declares auto (statement.pieces auto) (statement.declarations auto) := by
  cases statement with
  | select query =>
    have hQuery := (declaresCases auto).select query auto
    rw [Select.layout_eq] at hQuery
    exact hQuery
  | insert statement => exact (statement.declaresAll_clauses auto).spaced
  | update statement =>
    by_cases hEmpty : statement.assignments.isEmpty = true
    · rw [pieces, clauses, if_pos hEmpty, declarations, Update.declarations, if_pos hEmpty]
      exact .nil
    · rw [pieces, clauses, if_neg hEmpty]
      exact (Update.declaresAll_clauses auto hEmpty).spaced
  | delete statement => exact (statement.declaresAll_clauses auto).spaced

end Statements

end QueryText

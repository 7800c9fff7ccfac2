import QueryText.Proofs.Outcome
import QueryText.Proofs.Quoting.Lexer

/-!
# QueryText — layouts whose names can be read back

A layout is readable if no text in it has a double quote and no two names in it touch. Then a lexer
that starts outside of all names finds exactly the names of the layout.

Readable layouts cannot simply be put one after the other: where one ends in a name and the other
begins with one, the two names would touch. So every phrase is shown to put some text between its
parts.

## Main results

* `Layout.Readable.found` — reading a readable layout finds its names.
* `Layout.Readable.tuple`, ..., `Layout.Readable.closed` — one statement for each phrase.
-/

namespace QueryText

open Identifier (QuoteFree Lexer)

def Fragment.name? : Fragment → Option String
  | name s => some s
  | text _ | placeholder _ _ | gap => none

/-- The names of a text, in order. -/
def writtenNames (fragments : List Fragment) : List String :=
  fragments.filterMap Fragment.name?

theorem writtenNames_append (left right : List Fragment) :
    writtenNames (left ++ right) = writtenNames left ++ writtenNames right :=
  List.filterMap_append

-- ---------------------------------------------------------------------------
-- Following a layout
-- ---------------------------------------------------------------------------

/-- Whether a name ends right behind an atom, given whether one ends right before it. Nothing
follows where a name would touch the one before it, or a text has a quote. -/
def Atom.follow (ended : Bool) : Atom → Option Bool
  | text s => if QuoteFree s then some (ended && s.isEmpty) else none
  | name _ | qualifier _ | declaration _ => if ended then none else some true
  | argument tag => if QuoteFree tag then some false else none
  | gap => some false
  | inference _ => some ended

theorem Identifier.quoteFree_ofList {cs : List Char} (h : Identifier.delimiter ∉ cs) :
    QuoteFree (String.ofList cs) := by
  rw [QuoteFree, String.toList_ofList]
  exact h

/-- The pieces of raw SQL are made of its characters. -/
theorem Raw.mem_of_mem_pieces {scan : Raw.Scan} {cs : List Char} {c : Char}
    (h : c ∈ (Raw.pieces scan cs).1 ∨ ∃ piece ∈ (Raw.pieces scan cs).2, c ∈ piece) : c ∈ cs := by
  induction cs generalizing scan with
  | nil =>
    rcases h with hFirst | ⟨piece, hPiece, -⟩
    · exact hFirst
    · exact absurd hPiece List.not_mem_nil
  | cons first cs ih =>
    rw [Raw.pieces] at h
    dsimp only at h
    split at h
    · rcases h with hNone | ⟨piece, hPiece, hMem⟩
      · exact absurd hNone List.not_mem_nil
      · rcases List.mem_cons.mp hPiece with rfl | hRest
        · exact List.mem_cons_of_mem _ (ih (Or.inl hMem))
        · exact List.mem_cons_of_mem _ (ih (Or.inr ⟨piece, hRest, hMem⟩))
    · rcases h with hFirst | hRest
      · rcases List.mem_cons.mp hFirst with rfl | hMem
        · exact List.mem_cons_self ..
        · exact List.mem_cons_of_mem _ (ih (Or.inl hMem))
      · exact List.mem_cons_of_mem _ (ih (Or.inr hRest))

theorem spellAll_singleton (style : PlaceholderStyle) (fragment : Fragment) :
    spellAll style [fragment] = fragment.spell style :=
  String.empty_append

/-- A placeholder has no quotes and is not empty. -/
theorem Fragment.spell_placeholder {tag : String} (h : QuoteFree tag) (style : PlaceholderStyle)
    (number : Nat) : QuoteFree ((Fragment.placeholder tag number).spell style) ∧
      ((Fragment.placeholder tag number).spell style).isEmpty = false := by
  have hSome : ∀ s t : String, s ≠ "" → (s ++ t).isEmpty = false := by
    intro s t hs
    rw [Bool.eq_false_iff]
    exact fun hEmpty => hs (String.append_eq_empty_iff.mp (String.isEmpty_iff.mp hEmpty)).1
  cases style with
  | positional =>
    have hFree : QuoteFree "$" := by decide
    exact ⟨hFree.append (Identifier.quoteFree_toString number), hSome _ _ (by decide)⟩
  | named =>
    have hFree : QuoteFree ":" := by decide
    exact ⟨hFree.append h, hSome _ _ (by decide)⟩

namespace Identifier.Lexer.Found

variable {names : List String} {ended : Bool} {lexer : Lexer} {style : PlaceholderStyle}

/-- Reading a fragment that is no name. -/
theorem other (h : lexer.Found names ended) {fragment : Fragment} (hName : fragment.name? = none)
    (hFree : QuoteFree (fragment.spell style)) :
    Lexer.Found (names ++ writtenNames [fragment]) (ended && (fragment.spell style).isEmpty)
      (lexer.read (spellAll style [fragment])) := by
  have hNone : writtenNames [fragment] = [] := List.filterMap_cons_none hName
  rw [hNone, List.append_nil, spellAll_singleton]
  exact h.text hFree

/-- Reading a name that does not touch another one. -/
theorem named (h : lexer.Found names false) (s : String) :
    Lexer.Found (names ++ writtenNames [.name s]) true
      (lexer.read (spellAll style [.name s])) := by
  rw [spellAll_singleton]
  exact h.name s

end Identifier.Lexer.Found

/-- Reading what an atom is written as. -/
theorem Atom.found {atom : Atom} {ended after : Bool} (h : atom.follow ended = some after)
    {names : List String} {lexer : Lexer} (hFound : lexer.Found names ended) (slots : List String)
    (style : PlaceholderStyle) :
    Lexer.Found (names ++ writtenNames (atom.fragments slots)) after
      (lexer.read (spellAll style (atom.fragments slots))) := by
  have hNamed : ∀ s, (if ended then none else some true) = some after →
      Lexer.Found (names ++ writtenNames [.name s]) after
        (lexer.read (spellAll style [.name s])) := by
    intro s hAfter
    cases ended with
    | true => cases hAfter
    | false =>
      cases hAfter
      exact hFound.named s
  cases atom with
  | text s =>
    have hFree : QuoteFree s := by
      by_contra hNot
      rw [follow, if_neg hNot] at h
      cases h
    rw [follow, if_pos hFree] at h
    cases h
    exact hFound.other rfl hFree
  | name s => exact hNamed s h
  | qualifier s => exact hNamed s h
  | declaration s => exact hNamed s h
  | argument tag =>
    have hFree : QuoteFree tag := by
      by_contra hNot
      rw [follow, if_neg hNot] at h
      cases h
    rw [follow, if_pos hFree] at h
    cases h
    obtain ⟨hSpelled, hSome⟩ := Fragment.spell_placeholder hFree style (Slots.number slots tag)
    have hOther := hFound.other rfl hSpelled
    rw [hSome, Bool.and_false] at hOther
    exact hOther
  | gap =>
    cases h
    have hSpace : QuoteFree " " := by decide
    have hOther : Lexer.Found (names ++ writtenNames [.gap]) (ended && " ".isEmpty)
        (lexer.read (spellAll style [.gap])) := hFound.other rfl hSpace
    have hSome : " ".isEmpty = false := rfl
    rw [hSome, Bool.and_false] at hOther
    exact hOther
  | inference note =>
    cases h
    show Lexer.Found (names ++ []) ended lexer
    rw [List.append_nil]
    exact hFound

namespace Layout

/-- Whether a name ends right behind a layout. -/
def follow (ended : Bool) : Layout → Option Bool
  | [] => some ended
  | piece :: l => (piece.atom.follow ended).bind fun after => follow after l

/-- What can follow two layouts is what can follow the second, where the first ended. -/
theorem follow_append (ended : Bool) (l m : Layout) :
    follow ended (l ++ m) = (l.follow ended).bind fun after => m.follow after := by
  induction l generalizing ended with
  | nil => rfl
  | cons piece l ih =>
    rw [List.cons_append, follow, follow, Option.bind_assoc]
    exact congrArg _ (funext ih)

/-- A frame does not change where names end. -/
theorem follow_inside (ended : Bool) (frame : Frame) (l : Layout) :
    (inside frame l).follow ended = l.follow ended := by
  induction l generalizing ended with
  | nil => rfl
  | cons piece l ih =>
    rw [follow, ← funext ih]
    rfl

theorem follow_anonymized (ended : Bool) (l : Layout) :
    l.anonymized.follow ended = l.follow ended := by
  induction l generalizing ended with
  | nil => rfl
  | cons piece l ih =>
    rw [anonymized, List.map_cons, follow, follow]
    split <;> exact congrArg _ (funext ih)

/-- Reading a layout adds its names to those that were found before it. -/
theorem found_of_follow {l : Layout} {ended after : Bool} (h : l.follow ended = some after)
    {names : List String} {lexer : Lexer} (hFound : lexer.Found names ended) (slots : List String)
    (style : PlaceholderStyle) :
    Lexer.Found (names ++ writtenNames (l.fragments slots)) after
      (lexer.read (l.spelling style slots)) := by
  induction l generalizing ended names lexer slots with
  | nil =>
    obtain rfl : ended = after := Option.some.inj h
    show Lexer.Found (names ++ []) ended lexer
    rw [List.append_nil]
    exact hFound
  | cons piece l ih =>
    rw [follow, Option.bind_eq_some_iff] at h
    obtain ⟨middle, hFirst, hRest⟩ := h
    have hPiece := piece.atom.found hFirst hFound slots style
    have hLayout := ih hRest hPiece (piece.atom.slots slots)
    rw [List.append_assoc, ← writtenNames_append, ← Lexer.read_append, spelling,
      ← spellAll_append] at hLayout
    exact hLayout

/-- Behind a text no name ends, unless the text is empty. -/
theorem follow_text {s : String} (hs : QuoteFree s) (ended : Bool) :
    (text s).follow ended = some (ended && s.isEmpty) := by
  show ((if QuoteFree s then some (ended && s.isEmpty) else none).bind some) = _
  rw [if_pos hs]
  rfl

/-- A layout that keeps what stands behind it from touching a name before it. -/
def Parts (l : Layout) : Prop :=
  ∀ ended, l.follow ended = some false

/-- A text with a character and no quote keeps two names apart. -/
theorem parts_text {s : String} (hs : QuoteFree s) (hSome : s.isEmpty = false) :
    (text s).Parts := by
  intro ended
  rw [follow_text hs, hSome, Bool.and_false]

theorem parts_space : (text " ").Parts :=
  parts_text (by decide) rfl

theorem parts_comma : (text ", ").Parts :=
  parts_text (by decide) rfl

theorem parts_gap : gap.Parts :=
  fun _ => rfl

/-- A layout whose names can be read back. -/
def Readable (l : Layout) : Prop :=
  ∃ after, l.follow false = some after

namespace Readable

variable {l m : Layout} {ls : List Layout}

/-- Reading a readable layout finds its names. -/
theorem found (h : l.Readable) (slots : List String) (style : PlaceholderStyle) :
    ∃ ended, Lexer.Found (writtenNames (l.fragments slots)) ended
      (Lexer.read {} (l.spelling style slots)) := by
  obtain ⟨after, hFollow⟩ := h
  exact ⟨after, found_of_follow hFollow .start slots style⟩

-- ---------------------------------------------------------------------------
-- Single pieces and sequences
-- ---------------------------------------------------------------------------

theorem nil : Readable [] :=
  ⟨false, rfl⟩

theorem name (s : String) : (Layout.name s).Readable :=
  ⟨true, rfl⟩

theorem qualifier (s : String) : (Layout.qualifier s).Readable :=
  ⟨true, rfl⟩

theorem declaration (s : String) : (Layout.declaration s).Readable :=
  ⟨true, rfl⟩

theorem text {s : String} (hs : QuoteFree s) : (Layout.text s).Readable :=
  ⟨_, follow_text hs false⟩

/-- A placeholder is readable if its tag has no quotes. -/
theorem argument {tag : String} (h : QuoteFree tag) : (Layout.argument tag).Readable := by
  refine ⟨false, ?_⟩
  show ((if QuoteFree tag then some false else none).bind some) = _
  rw [if_pos h]
  rfl

theorem inside (h : l.Readable) (frame : Frame) : (Layout.inside frame l).Readable := by
  obtain ⟨after, hFollow⟩ := h
  exact ⟨after, (follow_inside ..).trans hFollow⟩

theorem anonymized (h : l.Readable) : l.anonymized.Readable := by
  obtain ⟨after, hFollow⟩ := h
  exact ⟨after, (follow_anonymized ..).trans hFollow⟩

/-- A note in front of a layout is not written. -/
theorem noted (h : l.Readable) (note : Inference) :
    Readable (Layout.of (.inference note) ++ l) :=
  h

/-- Some text in front of a layout. -/
theorem after (h : l.Readable) {s : String} (hs : QuoteFree s) :
    Readable (Layout.text s ++ l) := by
  obtain ⟨ended, hFollow⟩ := h
  refine ⟨ended, ?_⟩
  rw [follow_append, follow_text hs]
  exact hFollow

/-- Some text behind a layout. -/
theorem before (h : l.Readable) {s : String} (hs : QuoteFree s) :
    Readable (l ++ Layout.text s) := by
  obtain ⟨ended, hFollow⟩ := h
  refine ⟨ended && s.isEmpty, ?_⟩
  rw [follow_append, hFollow]
  exact follow_text hs ended

/-- Layouts with something between them that parts names. -/
theorem apart {separator : Layout} (h : l.Readable) (hParts : separator.Parts)
    (hm : m.Readable) : Readable (l ++ separator ++ m) := by
  obtain ⟨ended, hFollow⟩ := h
  obtain ⟨after, hAfter⟩ := hm
  refine ⟨after, ?_⟩
  rw [follow_append, follow_append, hFollow, Option.bind_some, hParts]
  exact hAfter

/-- Readable layouts can be put together if the separator keeps names apart. -/
theorem intercalate {separator : Layout} (hParts : separator.Parts)
    (hAll : ∀ l ∈ ls, Readable l) : Readable (separator.intercalate ls) := by
  induction ls with
  | nil => exact nil
  | cons first rest ih =>
    have hFirst := hAll first (List.mem_cons_self ..)
    have hRest := ih fun l hl => hAll l (List.mem_cons_of_mem _ hl)
    cases rest with
    | nil =>
      rw [List.intercalate_singleton]
      exact hFirst
    | cons next rest =>
      rw [List.intercalate_cons_cons]
      exact hFirst.apart hParts hRest

/-- Parentheses keep names apart from what is around them. -/
theorem parenthesized (h : l.Readable) : (Layout.parenthesized l).Readable :=
  (h.after (by decide)).before (by decide)

/-- A text without quotes separates readable layouts. -/
theorem separated (hAll : ∀ l ∈ ls, Readable l) {separator : String}
    (hParts : (Layout.text separator).Parts) : (Layout.separated separator ls).Readable :=
  intercalate hParts hAll

-- ---------------------------------------------------------------------------
-- Expressions
-- ---------------------------------------------------------------------------

/-- A column is readable: a dot stands between its two names. -/
theorem column (naming : Naming) (relation column : String) :
    (Layout.column naming relation column).Readable := by
  unfold Layout.column
  split
  · exact name column
  · exact (qualifier relation).apart (parts_text (by decide) rfl) (name column)

/-- All columns of a relation are readable. -/
theorem allOf (naming : Naming) (relation : String) :
    (Layout.allOf naming relation).Readable := by
  unfold Layout.allOf
  split
  · exact text (by decide)
  · exact (qualifier relation).before (by decide)

/-- A named expression is readable: where the expression is shown, a space stands before the name.
-/
theorem named (naming : Naming) (h : l.Readable) (given : String) :
    (Layout.named naming l given).Readable := by
  unfold Layout.named
  split
  · exact h.apart parts_space (name given)
  · exact name given

theorem tuple (hAll : ∀ l ∈ ls, Readable l) : (Layout.tuple ls).Readable :=
  (separated hAll parts_comma).parenthesized

/-- A function is readable if its name has no quotes and its operands are readable. -/
theorem call {function : String} (hFunction : QuoteFree function) (hAll : ∀ l ∈ ls, Readable l) :
    (Layout.call function ls).Readable :=
  (tuple hAll).after hFunction

/-- A readable operand is so with parentheses and without. -/
theorem operand (compound : Bool) (h : l.Readable) : (Layout.operand compound l).Readable := by
  unfold Layout.operand
  split
  · exact h.parenthesized
  · exact h

/-- The token of a prefix or postfix operator has no quotes. -/
theorem unary (op : UnaryOp) (touching : Bool) (h : l.Readable) :
    (Layout.unary op touching l).Readable := by
  have hToken : QuoteFree op.token := by cases op <;> decide
  have hSpace : QuoteFree " " := by decide
  unfold Layout.unary
  split
  · rw [List.append_assoc]
    split
    · exact (h.after hSpace).after hToken
    · exact h.after hToken
  · split
    · exact (h.before hSpace).before hToken
    · rw [List.append_nil]
      exact h.before hToken

/-- The token of a binary operator has none, and spaces around it. -/
theorem binary (op : BinaryOp) (hl : l.Readable) (hm : m.Readable) :
    (Layout.binary op l m).Readable :=
  hl.apart (parts_text (by cases op <;> decide) (by cases op <;> rfl)) hm

theorem connected (op : LogicalOp) (hAll : ∀ l ∈ ls, Readable l) :
    (Layout.connected op ls).Readable := by
  refine separated ?_ (parts_text (by cases op <;> decide) (by cases op <;> rfl))
  intro l hl
  obtain ⟨inner, hInner, rfl⟩ := List.mem_map.mp hl
  exact (hAll inner hInner).parenthesized

/-- Raw SQL without operands is readable if there are no quotes between its holes. -/
theorem filled {first : List Char} {pieces : List (List Char)}
    (hFirst : Identifier.delimiter ∉ first)
    (hPieces : ∀ piece ∈ pieces, Identifier.delimiter ∉ piece) :
    (Layout.filled first pieces []).Readable := by
  induction pieces generalizing first with
  | nil => exact text (Identifier.quoteFree_ofList hFirst)
  | cons piece pieces ih =>
    obtain ⟨hPiece, hRest⟩ := List.forall_mem_cons.mp hPieces
    have hFilled := ((ih hPiece hRest).after (by decide : QuoteFree "?")).after
      (Identifier.quoteFree_ofList hFirst)
    rwa [← List.append_assoc] at hFilled

/-- Raw SQL without operands is written with its own characters. -/
theorem raw {sql : String} (h : QuoteFree sql) : (Layout.raw sql []).Readable := by
  refine filled (fun hMem => h ?_) fun piece hPiece hMem => h ?_
  · exact Raw.mem_of_mem_pieces (Or.inl hMem)
  · exact Raw.mem_of_mem_pieces (Or.inr ⟨piece, hPiece, hMem⟩)

-- ---------------------------------------------------------------------------
-- Queries inside queries, and joins
-- ---------------------------------------------------------------------------

theorem subquery (op : SubqueryOp) (query : Select) (h : l.Readable) :
    (Layout.subquery op query l).Readable :=
  ((h.inside _).after (by cases op <;> decide)).before (by decide)

/-- A readable query is so as a derived table, with its name behind a parenthesis and a space. -/
theorem derived (query : Select) (h : l.Readable) (given : String) :
    (Layout.derived query l given).Readable :=
  ((h.inside _).after (by decide)).apart (parts_text (by decide) rfl) (declaration given)

/-- A join of readable sides with a readable predicate is readable. -/
theorem join (kind : JoinKind) (hl : l.Readable) (grouped : Bool) (hm : m.Readable)
    {predicate : Option Layout} (hOn : ∀ l ∈ predicate, Readable l) :
    (Layout.join kind l grouped m predicate).Readable := by
  have hKeyword : (Layout.text (" " ++ kind.keyword ++ " ")).Parts :=
    parts_text (by cases kind <;> decide) (by cases kind <;> rfl)
  have hPair := hl.apart hKeyword (hm.operand grouped)
  cases predicate with
  | none =>
    show Readable (_ ++ [])
    rw [List.append_nil]
    exact hPair
  | some condition =>
    have hCondition := (hOn condition rfl).parenthesized.inside .predicate
    have hJoined := hPair.apart (parts_text (by decide : QuoteFree " ON ") rfl) hCondition
    rwa [List.append_assoc] at hJoined

-- ---------------------------------------------------------------------------
-- Clauses
-- ---------------------------------------------------------------------------

theorem clause {keyword : String} (hKeyword : QuoteFree keyword) (h : l.Readable) :
    (Layout.clause keyword l).Readable :=
  h.after (hKeyword.append (by decide))

/-- A clause of a list is readable if its items are. -/
theorem listClause {keyword : String} (hKeyword : QuoteFree keyword)
    (hAll : ∀ l ∈ ls, Readable l) : ∀ l ∈ Layout.listClause keyword ls, Readable l := by
  unfold Layout.listClause
  split
  · exact fun l hl => absurd hl List.not_mem_nil
  · exact List.forall_mem_singleton.mpr (clause hKeyword (separated hAll parts_comma))

/-- A condition is readable if its predicates are. -/
theorem condition (hAll : ∀ l ∈ ls, Readable l) : (Layout.condition ls).Readable := by
  unfold Layout.condition
  split
  · exact hAll _ (List.mem_cons_self ..)
  · exact connected _ hAll

/-- A clause of predicates is readable if they are. -/
theorem conditionClause {keyword : String} (hKeyword : QuoteFree keyword)
    (hAll : ∀ l ∈ ls, Readable l) : ∀ l ∈ Layout.conditionClause keyword ls, Readable l := by
  unfold Layout.conditionClause
  split
  · exact fun l hl => absurd hl List.not_mem_nil
  · exact List.forall_mem_singleton.mpr (clause hKeyword (condition hAll))

/-- The SELECT clause is readable if its items are. -/
theorem selectClause (hAll : ∀ l ∈ ls, Readable l) : (Layout.selectClause ls).Readable := by
  unfold Layout.selectClause
  split
  · exact text (by decide)
  · exact clause (by decide) (separated hAll parts_comma)

/-- A limit or an offset is readable: a number has no quotes. -/
theorem countClause {keyword : String} (hKeyword : QuoteFree keyword) (count : Option Nat) :
    ∀ l ∈ Layout.countClause keyword count, Readable l := by
  cases count with
  | none => exact fun l hl => absurd hl List.not_mem_nil
  | some count =>
    have hCount := text (Identifier.quoteFree_toString count)
    exact List.forall_mem_singleton.mpr (clause hKeyword hCount)

/-- A list of tables is readable if the listed and the inferred ones are. -/
theorem tableClause {keyword : String} (hKeyword : QuoteFree keyword)
    (hAll : ∀ l ∈ ls, Readable l) {missing : List (Entry Layout)}
    (hMissing : ∀ entry ∈ missing, Readable entry.declare) :
    ∀ l ∈ Layout.tableClause keyword ls missing, Readable l := by
  refine listClause hKeyword ?_
  intro l hl
  rcases List.mem_append.mp hl with hListed | hAdded
  · exact hAll l hListed
  · obtain ⟨entry, hEntry, rfl⟩ := List.mem_map.mp hAdded
    exact (hMissing entry hEntry).noted _

/-- Readable clauses are readable together, with spaces between them. -/
theorem spaced (hAll : ∀ l ∈ ls, Readable l) : (Layout.spaced ls).Readable :=
  intercalate parts_gap hAll

/-- Clauses that are closed by spaces, in front of a layout. -/
theorem closed_append (hAll : ∀ l ∈ ls, Readable l) (h : m.Readable) :
    Readable (Layout.closed ls ++ m) := by
  induction ls with
  | nil => exact h
  | cons first rest ih =>
    have hFirst := hAll first (List.mem_cons_self ..)
    have hRest := ih fun l hl => hAll l (List.mem_cons_of_mem _ hl)
    have hClosed := hFirst.apart parts_gap hRest
    rwa [← List.append_assoc] at hClosed

theorem closed (hAll : ∀ l ∈ ls, Readable l) : (Layout.closed ls).Readable := by
  have h := closed_append hAll nil
  rwa [List.append_nil] at h

end Readable

end Layout

end QueryText

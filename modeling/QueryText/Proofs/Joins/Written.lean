import QueryText.Proofs.Joins.Reader
import QueryText.Proofs.Reference

/-!
# QueryText — trees of joins survive writing

A from item that is built from relations by joining is written as the tokens of its tree, so it is
read back as it was built: each keyword with its two sides, and each predicate at its own join.
Only relations and predicates that are written alike cannot be told apart. Their texts depend on
the argument slots that are taken where they are written, so the slots are handed through the tree
in the order of the text.

## Main results

* `FromItem.Built.predicated` — every join has a predicate exactly if it is not a natural one.
* `FromItem.spelling_layout` — a from item is spelled as the tokens of its tree.
* `joins_read_back` — the tokens of a written from item have one reading, its tree.
-/

namespace QueryText

-- ---------------------------------------------------------------------------
-- From items that can be built
-- ---------------------------------------------------------------------------

namespace FromItem

/-- The from items that the steps of joining build from relations. -/
inductive Built : FromItem → Prop where
  | relation (r : Relation) : Built (.relation r)
  | joined {kind : JoinKind} {left right item : FromItem} {predicate : Option Expr}
    (hLeft : left.Built) (hRight : right.Built)
    (h : FromItem.joined kind left right predicate = .ok item) : Built item
  | innerJoin {left right : FromItem} (hLeft : left.Built) (hRight : right.Built)
    (predicate : Expr) : Built (left.innerJoin right predicate)
  | leftJoin {left right : FromItem} (hLeft : left.Built) (hRight : right.Built)
    (predicate : Expr) : Built (left.leftJoin right predicate)
  | rightJoin {left right : FromItem} (hLeft : left.Built) (hRight : right.Built)
    (predicate : Expr) : Built (left.rightJoin right predicate)
  | fullJoin {left right : FromItem} (hLeft : left.Built) (hRight : right.Built)
    (predicate : Expr) : Built (left.fullJoin right predicate)
  | naturalJoin {left right : FromItem} (hLeft : left.Built) (hRight : right.Built) :
    Built (left.naturalJoin right)

/-- Every join, at any depth, has a predicate exactly if it is not a natural one. -/
def Predicated : FromItem → Prop
  | .relation _ => True
  | .join kind left right predicate =>
    (predicate.isSome ↔ kind ≠ .natural) ∧ left.Predicated ∧ right.Predicated

/-- The checked step builds a join, and only with a predicate that fits. -/
theorem eq_join_of_joined {kind : JoinKind} {left right item : FromItem}
    {predicate : Option Expr} (h : FromItem.joined kind left right predicate = .ok item) :
    item = .join kind left right predicate ∧ predicate.isSome = kind.needsPredicate := by
  unfold FromItem.joined at h
  cases hNeeds : kind.needsPredicate <;> cases predicate <;> simp only [hNeeds] at h <;> cases h
  · exact ⟨rfl, rfl⟩
  · exact ⟨rfl, rfl⟩

/-- A join that can be built has a predicate exactly if its kind needs one. -/
theorem Built.predicated {item : FromItem} (h : item.Built) : item.Predicated := by
  induction h with
  | relation r => trivial
  | @joined kind left right item predicate _ _ hJoined ihLeft ihRight =>
    obtain ⟨rfl, hPredicate⟩ := eq_join_of_joined hJoined
    refine ⟨?_, ihLeft, ihRight⟩
    rw [hPredicate]
    cases kind <;> decide
  | innerJoin _ _ predicate ihLeft ihRight => exact ⟨by simp, ihLeft, ihRight⟩
  | leftJoin _ _ predicate ihLeft ihRight => exact ⟨by simp, ihLeft, ihRight⟩
  | rightJoin _ _ predicate ihLeft ihRight => exact ⟨by simp, ihLeft, ihRight⟩
  | fullJoin _ _ predicate ihLeft ihRight => exact ⟨by simp, ihLeft, ihRight⟩
  | naturalJoin _ _ ihLeft ihRight => exact ⟨by simp, ihLeft, ihRight⟩

end FromItem

-- ---------------------------------------------------------------------------
-- The tree of a from item
-- ---------------------------------------------------------------------------

section Trees

variable (auto : Bool) (style : PlaceholderStyle)

/-- The tree of a from item that is written where the given slots are taken. -/
def FromItem.tree : FromItem → List String → JoinTree
  | .relation r, slots => .leaf ((r.layout auto).spelling style slots)
  | .join kind left right predicate, slots =>
    let middle := (left.layout auto).slotsAfter slots
    .join kind (left.tree slots) (right.tree middle)
      (predicate.map fun e =>
        (e.layout auto .reference).spelling style ((right.layout auto).slotsAfter middle))

variable {auto style}

/-- An entry is a join exactly if its tree is one. -/
theorem FromItem.isJoin_tree (item : FromItem) (slots : List String) :
    (item.tree auto style slots).isJoin = item.isJoin := by
  cases item <;> rfl

/-- The tree of such an entry is sound. -/
theorem FromItem.Predicated.sound {item : FromItem} (h : item.Predicated) (slots : List String) :
    (item.tree auto style slots).Sound := by
  match item with
  | .relation r => exact .leaf _
  | .join kind left right predicate =>
    obtain ⟨hPredicate, hLeft, hRight⟩ := h
    refine .join (hLeft.sound slots) (hRight.sound _) ?_
    rw [Option.isSome_map]
    cases kind <;> simp_all [JoinKind.needsPredicate]

end Trees

/-- A predicate is spelled with its `ON` and its parentheses. -/
theorem Layout.spelling_onPredicate {style : PlaceholderStyle} {slots : List String}
    (predicate : Option Layout) :
    (onPredicate predicate).spelling style slots =
      JoinToken.spell ((predicate.map fun l => l.spelling style slots).map .on).toList := by
  cases predicate with
  | none => rfl
  | some l =>
    have hToken : JoinToken.spell [.on (l.spelling style slots)] =
        " ON (" ++ l.spelling style slots ++ ")" := by
      simp [JoinToken.spell, JoinToken.text]
    have hFrame := (Alike.inside .predicate (parenthesized l)).spelling style slots
    rw [Option.map_some, Option.map_some, Option.toList_some, hToken, onPredicate,
      spelling_append, spelling_text]
    show " ON " ++ spelling style slots (inside .predicate (parenthesized l)) = _
    rw [hFrame, spelling_parenthesized, ← String.append_assoc, ← String.append_assoc]
    rfl

/-- A side of a join has the tokens of parentheses if it is grouped. -/
theorem Layout.spelling_operand {style : PlaceholderStyle} {slots : List String} {l : Layout}
    {tokens : List JoinToken} (h : l.spelling style slots = JoinToken.spell tokens)
    (grouped : Bool) :
    (operand grouped l).spelling style slots =
      JoinToken.spell (JoinToken.operand grouped tokens) := by
  cases grouped with
  | false => exact h
  | true =>
    rw [operand, if_pos rfl, spelling_parenthesized, h, JoinToken.operand, if_pos rfl,
      JoinToken.spell_append, JoinToken.spell_append]
    rfl

/-- A join is laid out from the layouts of its sides, with parentheses around a join on the right.
-/
theorem FromItem.layout_join (auto : Bool) (kind : JoinKind) (left right : FromItem)
    (predicate : Option Expr) :
    (FromItem.join kind left right predicate).layout auto =
      Layout.join kind (left.layout auto) right.isJoin (right.layout auto)
        (predicate.map (·.layout auto .reference)) := by
  cases predicate <;> rfl

/-- A from item is spelled as the tokens of its tree. By recursion on the item: the right side
starts with the slots that the left one leaves. -/
theorem FromItem.spelling_layout {auto : Bool} {style : PlaceholderStyle} (item : FromItem)
    (slots : List String) :
    (item.layout auto).spelling style slots =
      JoinToken.spell (item.tree auto style slots).tokens := by
  match item with
  | .relation r => simp [FromItem.layout, tree, JoinTree.tokens, JoinToken.spell, JoinToken.text]
  | .join kind left right predicate =>
    have hLeft : (left.layout auto).spelling style slots = _ := spelling_layout left slots
    have hRight : (right.layout auto).spelling style ((left.layout auto).slotsAfter slots) = _ :=
      spelling_layout right _
    have hToken : JoinToken.spell [.keyword kind.keyword] = " " ++ kind.keyword ++ " " := by
      simp [JoinToken.spell, JoinToken.text]
    have hMiddle : (left.layout auto ++ Layout.text (" " ++ kind.keyword ++ " ")).slotsAfter slots =
        (left.layout auto).slotsAfter slots := Layout.slotsAfter_append
    have hSlots : (left.layout auto ++ Layout.text (" " ++ kind.keyword ++ " ") ++
        Layout.operand right.isJoin (right.layout auto)).slotsAfter slots =
        (right.layout auto).slotsAfter ((left.layout auto).slotsAfter slots) := by
      rw [Layout.slotsAfter_append, hMiddle, Layout.slotsAfter_operand]
    have hSides : (left.layout auto ++ Layout.text (" " ++ kind.keyword ++ " ")).spelling style
        slots = JoinToken.spell (left.tree auto style slots).tokens ++
          JoinToken.spell [.keyword kind.keyword] := by
      rw [Layout.spelling_append, hLeft, Layout.spelling_text, hToken]
    rw [layout_join, Layout.join, Layout.spelling_append, hSlots, Layout.spelling_append, hMiddle,
      hSides, Layout.spelling_operand hRight, Layout.spelling_onPredicate, tree, JoinTree.tokens,
      isJoin_tree, JoinToken.spell_append, JoinToken.spell_append, JoinToken.spell_append]
    cases predicate <;> rfl

-- ---------------------------------------------------------------------------
-- What the writer writes
-- ---------------------------------------------------------------------------

namespace Context

/-- The tree of a from item that is written in a context. -/
def joinTree (ctx : Context) (item : FromItem) : JoinTree :=
  item.tree ctx.initial.inferring ctx.options.placeholder ctx.arguments.toList

/-- The tokens of a from item that is written in a context. -/
def joinTokens (ctx : Context) (item : FromItem) : List JoinToken :=
  (ctx.joinTree item).tokens

end Context

/-- In reference naming, writing an entry is playing its layout. -/
theorem FromItem.write_eq_play (item : FromItem) {ctx : Context}
    (hNaming : ctx.naming = .reference) :
    item.write ctx = (item.layout ctx.initial.inferring).play ctx := by
  have hPlace : ctx.place = ⟨.reference, ctx.options.inferring, ctx.initial.inferring⟩ := by
    rw [Context.place, hNaming]
  exact (writeCases ctx.initial.inferring).fromItem item ctx.options.inferring ctx hPlace

/-- The text that a from item adds to a context. -/
theorem FromItem.text_of_ok {item : FromItem} {ctx after : Context}
    (hNaming : ctx.naming = .reference) (h : item.write ctx = .ok () after) :
    after.text = ctx.text ++ JoinToken.spell (ctx.joinTokens item) := by
  rw [item.write_eq_play hNaming] at h
  rw [(Layout.wrote_of_ok h).text_eq, item.spelling_layout]
  rfl

/-- Trees of joins survive writing. A from item that is built from relations by joining has a
predicate at exactly the joins that are not natural. It is written as the tokens of its tree, which
are read from the left, a join on the right from its own parentheses, as that tree. So any from item
with the same tokens, wherever it is written, has the same joins in the same places, down to
relations and predicates with the same texts. -/
theorem joins_read_back {item : FromItem} (hBuilt : item.Built) {ctx : Context}
    (hNaming : ctx.naming = .reference) :
    item.Predicated ∧
      (∀ after, item.write ctx = .ok () after →
        after.text = ctx.text ++ JoinToken.spell (ctx.joinTokens item)) ∧
      JoinToken.read (ctx.joinTokens item) = some (ctx.joinTree item) ∧
      ∀ (twin : FromItem) (other : Context), twin.Built →
        ctx.joinTokens item = other.joinTokens twin → ctx.joinTree item = other.joinTree twin := by
  refine ⟨hBuilt.predicated, fun after hWrite => item.text_of_ok hNaming hWrite, ?_, ?_⟩
  · exact (hBuilt.predicated.sound _).read_tokens
  · intro twin other hTwin hTokens
    exact (hBuilt.predicated.sound _).eq_of_tokens (hTwin.predicated.sound _) hTokens

/-- A natural join on the right of a join that stands on the left of another, with an argument in
two predicates. -/
theorem joins_read_back_mixed :
    let sides : FromItem :=
      (FromItem.relation (.table none "b")).naturalJoin (.relation (.table none "c"))
    let item : FromItem :=
      ((FromItem.relation (.table none "a")).leftJoin sides
        (.binary .equal (.argument "x") (.argument "y"))).innerJoin
        (.relation (.table none "d")) (.argument "y")
    item.Built ∧ item.Predicated ∧
      (∃ after, item.write (Context.start ⟨.positional, true⟩) = .ok () after ∧
        after.text = "\"a\" LEFT OUTER JOIN (\"b\" NATURAL JOIN \"c\") ON ($1 = $2) " ++
          "INNER JOIN \"d\" ON ($2)") ∧
      JoinToken.read ((Context.start ⟨.positional, true⟩).joinTokens item) =
        some (.join .inner
          (.join .leftOuter (.leaf "\"a\"")
            (.join .natural (.leaf "\"b\"") (.leaf "\"c\"") none) (some "$1 = $2"))
          (.leaf "\"d\"") (some "$2")) := by
  intro sides item
  have hSides : sides.Built := .naturalJoin (.relation _) (.relation _)
  have hBuilt : item.Built := .innerJoin (.leftJoin (.relation _) hSides _) (.relation _) _
  have hStart : (Context.start ⟨.positional, true⟩).naming = .reference := rfl
  have hStyle : (Context.start ⟨.positional, true⟩).options.placeholder = .positional := rfl
  obtain ⟨hPredicated, hText, hRead, -⟩ := joins_read_back hBuilt hStart
  obtain ⟨after, hPlay⟩ := (item.layout true).play_positional hStyle
  have hWrite := (item.write_eq_play hStart).trans hPlay
  refine ⟨hBuilt, hPredicated, ⟨after, hWrite, ?_⟩, hRead.trans ?_⟩
  · rw [hText after hWrite]
    decide +kernel
  · decide +kernel

end QueryText

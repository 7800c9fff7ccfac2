import QueryText.RelationSet

/-!
# QueryText — the scope of a query

Which relations a tree mentions, which ones its FROM list declares, and which ones are left to
be inferred. A sub-query passes on to the query around it exactly what it would have to infer
itself. What a derived table mentions stays inside it, and so does what an `ON` predicate
mentions.
-/

namespace QueryText

/-- The relations that a from item declares, from left to right. -/
def FromItem.declares : FromItem → List Relation
  | .relation r => [r]
  | .join _ left right _ => left.declares ++ right.declares

/-- What the entries of a FROM or USING list declare. -/
def declaredBy (tables : List FromItem) : RelationSet :=
  .ofList (tables.flatMap FromItem.declares)

mutual

/-- The relations that an expression mentions, in the order of the text. -/
def Expr.mentions : Expr → List Relation
  | .column relation _ => [relation]
  | .star => []
  | .allOf relation => [relation]
  | .argument _ => []
  | .literal _ => []
  | .raw _ operands => Expr.mentionsAll operands
  | .group inner => inner.mentions
  | .list items => Expr.mentionsAll items
  | .unary _ operand => operand.mentions
  | .binary _ left right => left.mentions ++ right.mentions
  | .logical _ operands => Expr.mentionsAll operands
  | .call _ operands => Expr.mentionsAll operands
  | .named inner _ => inner.mentions
  | .subquery _ query => query.inferred

def Expr.mentionsAll : List Expr → List Relation
  | [] => []
  | expr :: exprs => expr.mentions ++ Expr.mentionsAll exprs

def SortKey.mentions : SortKey → List Relation
  | ⟨expr, _⟩ => expr.mentions

def SortKey.mentionsAll : List SortKey → List Relation
  | [] => []
  | key :: keys => key.mentions ++ SortKey.mentionsAll keys

/-- The relations that a query mentions but does not declare, in the order of first mention. -/
def Select.inferred : Select → List Relation
  | ⟨items, tables, filters, groups, groupFilters, order, _, _⟩ =>
    (RelationSet.ofList
      (Expr.mentionsAll items ++ Expr.mentionsAll filters ++ Expr.mentionsAll groups ++
        Expr.mentionsAll groupFilters ++ SortKey.mentionsAll order)).difference
      (declaredBy tables)

end

/-- The set of the relations that an expression mentions. -/
def Expr.referenced (expr : Expr) : RelationSet :=
  .ofList expr.mentions

namespace Select

/-- The relations that the clauses of a query mention, FROM apart. -/
def mentions (query : Select) : List Relation :=
  Expr.mentionsAll query.items ++ Expr.mentionsAll query.filters ++
    Expr.mentionsAll query.groups ++ Expr.mentionsAll query.groupFilters ++
    SortKey.mentionsAll query.order

/-- The set of the relations that a query mentions. -/
def referenced (query : Select) : RelationSet :=
  .ofList query.mentions

/-- The set of the relations in FROM. -/
def declared (query : Select) : RelationSet :=
  declaredBy query.tables

/-- A query infers what it mentions and does not declare. -/
theorem inferred_eq (query : Select) :
    query.inferred = query.referenced.difference query.declared := by
  cases query
  rfl

end Select

/-- A list mentions what its expressions mention, in order. -/
theorem Expr.mentionsAll_eq_flatMap (exprs : List Expr) :
    Expr.mentionsAll exprs = exprs.flatMap Expr.mentions := by
  induction exprs with
  | nil => rfl
  | cons expr exprs ih => simp [Expr.mentionsAll, ih]

/-- Sort keys mention what each of them mentions, in order. -/
theorem SortKey.mentionsAll_eq_flatMap (keys : List SortKey) :
    SortKey.mentionsAll keys = keys.flatMap SortKey.mentions := by
  induction keys with
  | nil => rfl
  | cons key keys ih => simp [SortKey.mentionsAll, ih]

end QueryText

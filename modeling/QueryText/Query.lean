import QueryText.Operator

/-!
# QueryText — the trees of a query

Expressions, relations, from items, sort keys and SELECT queries refer to one another, so they
are one family of types: a relation may be a query, a query holds expressions, an expression
may be a sub-query, and a column knows the relation that qualifies it. All are plain values, so
a copy shares everything and later changes to one never show through the other.
-/

namespace QueryText

mutual

/-- What a column can be qualified by. -/
inductive Relation where
  | table (schema : Option String) (name : String)
  /-- Another name for a relation. `Relation.rename` never nests two of them. -/
  | aliased (relation : Relation) (name : String)
  /-- A query used as a table, under a name of its own. -/
  | derived (query : Select) (name : String)
  /-- The row that an INSERT proposed and that met a conflict. -/
  | excluded

/-- A value expression. -/
inductive Expr where
  | column (relation : Relation) (name : String)
  /-- An unqualified `*`. -/
  | star
  /-- Every column of one relation. -/
  | allOf (relation : Relation)
  /-- A placeholder; the empty tag is an anonymous one. -/
  | argument (tag : String)
  /-- Text of a literal, already in its SQL form. -/
  | literal (text : String)
  /-- SQL text whose holes take the given operands in order. -/
  | raw (sql : String) (operands : List Expr)
  /-- Explicit parentheses. -/
  | group (inner : Expr)
  | list (items : List Expr)
  | unary (op : UnaryOp) (operand : Expr)
  | binary (op : BinaryOp) (left right : Expr)
  | logical (op : LogicalOp) (operands : List Expr)
  | call (function : String) (operands : List Expr)
  /-- A named expression. -/
  | named (inner : Expr) (name : String)
  | subquery (op : SubqueryOp) (query : Select)

/-- An entry of a FROM or USING list: a relation or a join of two entries. -/
inductive FromItem where
  | relation (relation : Relation)
  | join (kind : JoinKind) (left right : FromItem) (predicate : Option Expr)

/-- An entry of an ORDER BY list. -/
structure SortKey where
  expr : Expr
  direction : Direction

/-- A SELECT query. A clause that is absent is an empty list. -/
structure Select where
  items : List Expr := []
  tables : List FromItem := []
  filters : List Expr := []
  groups : List Expr := []
  groupFilters : List Expr := []
  order : List SortKey := []
  limit : Option Nat := none
  offset : Option Nat := none

end

instance : Inhabited Relation := ⟨.excluded⟩
instance : Inhabited Expr := ⟨.star⟩
instance : Inhabited FromItem := ⟨.relation .excluded⟩
instance : Inhabited Select := ⟨{}⟩

end QueryText

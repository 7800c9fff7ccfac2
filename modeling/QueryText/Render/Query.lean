import QueryText.Expr
import QueryText.FromItem
import QueryText.Render.Phrase
import QueryText.Scope

/-!
# QueryText — writing queries

The writer of each tree of the query family. A relation that a query mentions but does not
declare is written into its FROM list, although it is no part of that list's tree; so the
relations that an expression mentions are collected together with the writers of their
declarations (`Entry`), which keeps the whole recursion on the data.
-/

namespace QueryText

/-- A relation with its declaration, in the form in which declarations are put together. -/
structure Entry (α : Type) where
  relation : Relation
  declare : α

/-- The first entry of each name that is not declared yet. -/
def Entry.missing {α : Type} (declared : RelationSet) : List (Entry α) → List (Entry α)
  | [] => []
  | entry :: entries =>
    if entry.relation.isPseudo || declared.contains entry.relation.name then
      missing declared entries
    else entry :: missing (declared.insert entry.relation) entries

namespace Writer

/-- Writes the entry of a table that no list declares. -/
def inferred (keyword : String) (entry : Entry Writer) : Writer := do
  update fun ctx => ctx.recordInference entry.relation.name keyword
  entry.declare

/-- Writes a FROM or USING list: the listed tables, then the inferred ones. -/
def tableClause (keyword : String) (listed : List Writer) (missing : List (Entry Writer)) :
    Writer :=
  listClause keyword (listed ++ missing.map (inferred keyword))

end Writer

open Writer (text)

mutual

/-- Writes a relation as an entry of a FROM list. -/
def Relation.declare : Relation → Writer
  | .table none name => Writer.name name
  | .table (some schema) name => do
    Writer.name schema
    text "."
    Writer.name name
  | .aliased relation name => do
    relation.declare
    text " "
    Writer.name name
  | .derived query name => Writer.derived query.write name
  | .excluded => text Relation.excludedName

def Expr.write : Expr → Writer
  | .column relation name => Writer.column relation.name name
  | .star => text "*"
  | .allOf relation => Writer.allOf relation.name
  | .argument tag => Writer.argument tag
  | .literal s => text s
  | .raw sql operands => Writer.raw sql (Expr.writers operands)
  | .group inner => Writer.parenthesized (Writer.part inner.write)
  | .list items => Writer.tuple (Expr.writers items)
  | .unary op operand =>
    Writer.unary op operand.startsWithOperator (Writer.operand operand.isCompound operand.write)
  | .binary op left right =>
    Writer.binary op (Writer.operand left.isCompound left.write)
      (Writer.operand right.isCompound right.write)
  | .logical op operands => Writer.connected op (Expr.writers operands)
  | .call function operands => Writer.call function (Expr.writers operands)
  | .named inner name => Writer.named inner.write name
  | .subquery op query => Writer.subquery op query.write

def Expr.writers : List Expr → List Writer
  | [] => []
  | expr :: exprs => expr.write :: Expr.writers exprs

/-- The relations that an expression mentions, with their declarations. -/
def Expr.entries : Expr → List (Entry Writer)
  | .column relation _ => [⟨relation, relation.declare⟩]
  | .star => []
  | .allOf relation => [⟨relation, relation.declare⟩]
  | .argument _ => []
  | .literal _ => []
  | .raw _ operands => Expr.entriesAll operands
  | .group inner => inner.entries
  | .list items => Expr.entriesAll items
  | .unary _ operand => operand.entries
  | .binary _ left right => left.entries ++ right.entries
  | .logical _ operands => Expr.entriesAll operands
  | .call _ operands => Expr.entriesAll operands
  | .named inner _ => inner.entries
  | .subquery _ query => query.entries

/-- The relations that the expressions of a list mention, with their declarations. -/
def Expr.entriesAll : List Expr → List (Entry Writer)
  | [] => []
  | expr :: exprs => expr.entries ++ Expr.entriesAll exprs

def FromItem.write : FromItem → Writer
  | .relation r => r.declare
  | .join kind left right predicate =>
    Writer.join kind left.write right.isJoin right.write
      (match predicate with
      | none => Writer.nothing
      | some condition => do
        text " ON "
        Writer.parenthesized condition.write)

def FromItem.writers : List FromItem → List Writer
  | [] => []
  | item :: items => item.write :: FromItem.writers items

def SortKey.write : SortKey → Writer
  | ⟨expr, direction⟩ => do
    Writer.operand expr.isCompound expr.write
    text (" " ++ direction.keyword)

def SortKey.writers : List SortKey → List Writer
  | [] => []
  | key :: keys => key.write :: SortKey.writers keys

/-- The relations that a sort key mentions, with their declarations. -/
def SortKey.entries : SortKey → List (Entry Writer)
  | ⟨expr, _⟩ => expr.entries

/-- The relations that the sort keys of a list mention, with their declarations. -/
def SortKey.entriesAll : List SortKey → List (Entry Writer)
  | [] => []
  | key :: keys => key.entries ++ SortKey.entriesAll keys

/-- The relations that a query mentions but does not declare, with their declarations. -/
def Select.entries : Select → List (Entry Writer)
  | ⟨items, tables, filters, groups, groupFilters, order, _, _⟩ =>
    Entry.missing (declaredBy tables)
      (Expr.entriesAll items ++ Expr.entriesAll filters ++ Expr.entriesAll groups ++
        Expr.entriesAll groupFilters ++ SortKey.entriesAll order)

/-- Writes a query. Its clauses stand in a fixed order and each ends in one space; a SELECT
without items is written too. -/
def Select.write : Select → Writer
  | ⟨items, tables, filters, groups, groupFilters, order, limit, offset⟩ => do
    let missing : List (Entry Writer) :=
      if (← get).options.inferring then
        Entry.missing (declaredBy tables)
          (Expr.entriesAll items ++ Expr.entriesAll filters ++ Expr.entriesAll groups ++
            Expr.entriesAll groupFilters ++ SortKey.entriesAll order)
      else []
    Writer.within .reference do
      Writer.selectClause (Expr.writers items)
      Writer.tableClause "FROM" (FromItem.writers tables) missing
      Writer.conditionClause "WHERE" (Expr.writers filters)
      Writer.listClause "GROUP BY" (Expr.writers groups)
      Writer.conditionClause "HAVING" (Expr.writers groupFilters)
      Writer.listClause "ORDER BY" (SortKey.writers order)
      Writer.countClause "LIMIT" limit
      Writer.countClause "OFFSET" offset

end

def Relation.entry (relation : Relation) : Entry Writer :=
  ⟨relation, relation.declare⟩

end QueryText

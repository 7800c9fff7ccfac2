import QueryText.Query

/-!
# QueryText — building SELECT

Steps that each extend one clause of a query. Repeated lists are appended, repeated predicates
all have to hold, and the last limit and the last offset count.
-/

namespace QueryText.Select

def withItems (query : Select) (items : List Expr) : Select :=
  { query with items := query.items ++ items }

def withTables (query : Select) (tables : List FromItem) : Select :=
  { query with tables := query.tables ++ tables }

/-- Adds a predicate that rows have to satisfy. -/
def withFilter (query : Select) (predicate : Expr) : Select :=
  { query with filters := query.filters ++ [predicate] }

def withGroups (query : Select) (groups : List Expr) : Select :=
  { query with groups := query.groups ++ groups }

/-- Adds a predicate that groups have to satisfy. -/
def withGroupFilter (query : Select) (predicate : Expr) : Select :=
  { query with groupFilters := query.groupFilters ++ [predicate] }

def withOrder (query : Select) (keys : List SortKey) : Select :=
  { query with order := query.order ++ keys }

def withLimit (query : Select) (count : Nat) : Select :=
  { query with limit := some count }

/-- Skips rows at the start. -/
def withOffset (query : Select) (count : Nat) : Select :=
  { query with offset := some count }

end QueryText.Select

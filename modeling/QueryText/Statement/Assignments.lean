import QueryText.Render.Query

/-!
# QueryText — assignments

The SET list of an UPDATE or an upsert: a map from column names to values in the order of first
assignment. Assigning a column again replaces its value where it stands.
-/

namespace QueryText

/-- Values of columns, in the order in which the columns were first assigned. -/
structure Assignments where
  entries : List (String × Expr) := []

namespace Assignments

/-- Puts a value under a name: in place if the name is there, at the end if not. -/
def put (column : String) (value : Expr) : List (String × Expr) → List (String × Expr)
  | [] => [(column, value)]
  | (name, old) :: entries =>
    if name = column then (name, value) :: entries else (name, old) :: put column value entries

def set (assignments : Assignments) (column : String) (value : Expr) : Assignments :=
  ⟨put column value assignments.entries⟩

/-- Assigning keeps the order of the columns and adds a new one at the end. -/
theorem map_fst_put (column : String) (value : Expr) (entries : List (String × Expr)) :
    (put column value entries).map Prod.fst =
      if column ∈ entries.map Prod.fst then entries.map Prod.fst
      else entries.map Prod.fst ++ [column] := by
  induction entries with
  | nil => simp [put]
  | cons entry entries ih =>
    obtain ⟨name, old⟩ := entry
    by_cases h : name = column
    · simp [put, h]
    · have h' : column ≠ name := fun e => h e.symm
      by_cases hMem : column ∈ entries.map Prod.fst <;> simp_all [put]

def isEmpty (assignments : Assignments) : Bool :=
  assignments.entries.isEmpty

def columns (assignments : Assignments) : List String :=
  assignments.entries.map Prod.fst

def values (assignments : Assignments) : List Expr :=
  assignments.entries.map Prod.snd

def writeEntry (entry : String × Expr) : Writer := do
  Writer.name entry.1
  Writer.text " = "
  entry.2.write

/-- Writes the SET clause, unless nothing is assigned. -/
def write (assignments : Assignments) : Writer :=
  Writer.listClause "SET" (assignments.entries.map writeEntry)

end Assignments

end QueryText

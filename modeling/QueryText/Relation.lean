import QueryText.Query

/-!
# QueryText — relations

A relation is known by its name, which is what qualifies its columns. Renaming always reaches
the underlying table, so no alias ever wraps another one.
-/

namespace QueryText.Relation

/-- The name of the row proposed for insertion. -/
def excludedName : String := "excluded"

/-- The name that qualifies columns. -/
def name : Relation → String
  | table _ name => name
  | aliased _ name => name
  | derived _ name => name
  | excluded => excludedName

/-- The schema of the underlying table, if it is given. -/
def schema : Relation → Option String
  | table schema _ => schema
  | aliased relation _ => relation.schema
  | derived .. => none
  | excluded => none

/-- Whether the relation is another name for one. -/
def isAlias : Relation → Bool
  | aliased .. => true
  | _ => false

/-- Whether the relation exists without being listed in FROM. -/
def isPseudo : Relation → Bool
  | excluded => true
  | _ => false

/-- The same relation under another name: an alias and a derived table change their name, any
other relation is wrapped once. -/
def rename (relation : Relation) (newName : String) : Relation :=
  match relation with
  | aliased inner _ => aliased inner newName
  | derived query _ => derived query newName
  | table .. => aliased relation newName
  | excluded => aliased relation newName

/-- A renamed relation has the new name, whatever it was. -/
theorem name_rename (relation : Relation) (newName : String) :
    (relation.rename newName).name = newName := by
  cases relation <;> rfl

/-- Renaming twice is renaming once: no alias wraps another one. -/
theorem rename_rename (relation : Relation) (first second : String) :
    (relation.rename first).rename second = relation.rename second := by
  cases relation <;> rfl

def column (relation : Relation) (name : String) : Expr :=
  .column relation name

end QueryText.Relation

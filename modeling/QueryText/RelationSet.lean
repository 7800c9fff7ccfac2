import QueryText.Relation

/-!
# QueryText — sets of relations

A set of relations told apart by name, in the order in which they came. The first relation of a
name stays, and a relation that needs no FROM entry is never a member.
-/

namespace QueryText

/-- Relations with pairwise distinct names, in the order of their first insertion. -/
structure RelationSet where
  members : List Relation := []

namespace RelationSet

def names (set : RelationSet) : List String :=
  set.members.map Relation.name

/-- Whether a relation of this name is a member. -/
def contains (set : RelationSet) (name : String) : Bool :=
  set.members.any fun relation => relation.name == name

/-- Adds a relation, unless it is a pseudo relation or its name is taken. -/
def insert (set : RelationSet) (relation : Relation) : RelationSet :=
  if relation.isPseudo || set.contains relation.name then set
  else ⟨set.members ++ [relation]⟩

/-- Adds relations one after the other. -/
def insertAll (set : RelationSet) (relations : List Relation) : RelationSet :=
  relations.foldl insert set

def ofList (relations : List Relation) : RelationSet :=
  insertAll {} relations

/-- The members whose names are not in the other set. -/
def difference (set other : RelationSet) : List Relation :=
  set.members.filter fun relation => !other.contains relation.name

def size (set : RelationSet) : Nat :=
  set.members.length

def isEmpty (set : RelationSet) : Bool :=
  set.members.isEmpty

/-! ## Membership -/

theorem contains_iff {set : RelationSet} {name : String} :
    set.contains name = true ↔ name ∈ set.names := by
  simp [contains, names, List.any_eq_true]

/-- Inserting a relation adds its name, unless it is pseudo. -/
theorem contains_insert (set : RelationSet) (relation : Relation) (name : String) :
    (set.insert relation).contains name =
      (set.contains name || (!relation.isPseudo && relation.name == name)) := by
  unfold insert
  by_cases hPseudo : relation.isPseudo = true
  · simp [hPseudo]
  · by_cases hTaken : set.contains relation.name = true
    · by_cases hName : relation.name = name
      · subst hName
        simp [hTaken]
      · simp [hTaken, hName]
    · simp [hPseudo, hTaken]
      simp [contains]

/-! ## Names are distinct -/

/-- No name comes twice after an insertion if none did before. -/
theorem nodup_names_insert {set : RelationSet} (h : set.names.Nodup) (relation : Relation) :
    (set.insert relation).names.Nodup := by
  unfold insert
  split
  · exact h
  · rename_i hNew
    have hNotMem : relation.name ∉ set.names := fun hMem =>
      hNew (by simp [contains_iff.mpr hMem])
    simp only [names, List.map_append, List.map_cons, List.map_nil]
    refine List.nodup_append.mpr ⟨h, by simp, ?_⟩
    intro a hA b hB hEq
    obtain rfl : b = relation.name := by simpa using hB
    exact hNotMem (hEq ▸ hA)

theorem nodup_names_insertAll {set : RelationSet} (h : set.names.Nodup)
    (relations : List Relation) : (set.insertAll relations).names.Nodup := by
  induction relations generalizing set with
  | nil => exact h
  | cons r rs ih => exact ih (nodup_names_insert h r)

/-- The names of a set are pairwise distinct. -/
theorem nodup_names_ofList (relations : List Relation) : (ofList relations).names.Nodup :=
  nodup_names_insertAll (by simp [names]) relations

end RelationSet

end QueryText

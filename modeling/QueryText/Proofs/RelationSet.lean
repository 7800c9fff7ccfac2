import QueryText.RelationSet

/-!
# QueryText — what is left of a list of relations

A list of tables is completed by the relations that are mentioned and not declared. These are
mentioned, they need a declaration, and together with the declared ones they cover every name.

## Main results

* `RelationSet.mem_difference` — what is left over is mentioned and needs a declaration.
* `RelationSet.mention_cases` — every relation that is mentioned is taken care of.
-/

namespace QueryText

/-- A pseudo relation has the name of the excluded row. -/
theorem Relation.name_of_isPseudo {r : Relation} (h : r.isPseudo = true) :
    r.name = Relation.excludedName := by
  cases r with
  | excluded => rfl
  | table schema name => cases h
  | aliased relation name => cases h
  | derived query name => cases h

namespace RelationSet

-- ---------------------------------------------------------------------------
-- Members come from the list
-- ---------------------------------------------------------------------------

/-- What is in a set after an insertion was there or was inserted. -/
theorem mem_insert {set : RelationSet} {added r : Relation}
    (h : r ∈ (set.insert added).members) :
    r ∈ set.members ∨ r = added ∧ r.isPseudo = false := by
  unfold insert at h
  split at h
  · exact Or.inl h
  · rename_i hNew
    rcases List.mem_append.mp h with hOld | hAdded
    · exact Or.inl hOld
    · obtain rfl := List.mem_singleton.mp hAdded
      simp only [Bool.or_eq_true, not_or, Bool.not_eq_true] at hNew
      exact Or.inr ⟨rfl, hNew.1⟩

theorem mem_insertAll {set : RelationSet} {relations : List Relation} {r : Relation}
    (h : r ∈ (set.insertAll relations).members) :
    r ∈ set.members ∨ r ∈ relations ∧ r.isPseudo = false := by
  induction relations generalizing set with
  | nil => exact Or.inl h
  | cons first rest ih =>
    rcases ih h with hFirst | ⟨hRest, hNot⟩
    · rcases mem_insert hFirst with hOld | ⟨rfl, hNot⟩
      · exact Or.inl hOld
      · exact Or.inr ⟨List.mem_cons_self .., hNot⟩
    · exact Or.inr ⟨List.mem_cons_of_mem _ hRest, hNot⟩

/-- What is left over is mentioned, and it needs a declaration. -/
theorem mem_difference {relations : List Relation} {other : RelationSet} {r : Relation}
    (h : r ∈ (ofList relations).difference other) : r ∈ relations ∧ r.isPseudo = false :=
  (mem_insertAll (List.mem_filter.mp h).1).resolve_left List.not_mem_nil

-- ---------------------------------------------------------------------------
-- Names that are taken
-- ---------------------------------------------------------------------------

/-- A name is in the set if it was there or a relation of that name, other than a pseudo one, was
inserted. -/
theorem contains_insertAll (set : RelationSet) (relations : List Relation) (name : String) :
    (set.insertAll relations).contains name = true ↔
      set.contains name = true ∨ ∃ r ∈ relations, r.isPseudo = false ∧ r.name = name := by
  induction relations generalizing set with
  | nil => simp [insertAll]
  | cons first rest ih =>
    show ((set.insert first).insertAll rest).contains name = true ↔ _
    rw [ih, contains_insert]
    simp [or_assoc]

/-- A name is in the set of a list if a relation of the list has it that is not pseudo. -/
theorem contains_ofList (relations : List Relation) (name : String) :
    (ofList relations).contains name = true ↔
      ∃ r ∈ relations, r.isPseudo = false ∧ r.name = name := by
  rw [ofList, contains_insertAll]
  simp [contains]

/-- A relation that is mentioned needs no declaration, or has one, or is left over. -/
theorem mention_cases {relations : List Relation} (declared : List Relation) {r : Relation}
    (h : r ∈ relations) :
    r.isPseudo = true ∨ (∃ d ∈ declared, d.isPseudo = false ∧ d.name = r.name) ∨
      ∃ m ∈ (ofList relations).difference (ofList declared), m.name = r.name := by
  by_cases hPseudo : r.isPseudo = true
  · exact Or.inl hPseudo
  · right
    by_cases hDeclared : (ofList declared).contains r.name = true
    · exact Or.inl ((contains_ofList declared r.name).mp hDeclared)
    · have hMember : (ofList relations).contains r.name = true :=
        (contains_ofList relations r.name).mpr ⟨r, h, by simpa using hPseudo, rfl⟩
      obtain ⟨m, hm, hName⟩ := List.mem_map.mp (contains_iff.mp hMember)
      refine Or.inr ⟨m, List.mem_filter.mpr ⟨hm, ?_⟩, hName⟩
      rw [hName]
      simpa using hDeclared

end RelationSet

end QueryText

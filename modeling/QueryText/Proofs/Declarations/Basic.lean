import QueryText.Proofs.Layout.Statement

/-!
# QueryText — the declarations that a tree writes

The relations that are declared where a tree is written, at any depth and in the order in which
their declarations start: the entries of each list of tables, the relations that a statement adds
to its list, and behind a derived table what its own query declares. What is not written declares
nothing: an operand without a hole, or the expression behind the name of an alias.

As in the layouts, what lies inside the relations that an expression mentions is collected with
them, to keep the recursion on the data.

## Main results

* `Select.declarations_eq` — what a query declares, clause by clause.
* `Statement.declarations` — what a statement declares.
-/

namespace QueryText

/-- A relation at the place where it is declared. -/
structure Declaration where
  relation : Relation
  /-- The keyword of the list that the relation was added to; none if it stands there itself. -/
  addedTo : Option String

mutual

/-- What is declared inside the declaration of a relation. -/
def Relation.contents (auto : Bool) : Relation → List Declaration
  | .table .. => []
  | .aliased relation _ => relation.contents auto
  | .derived query _ => query.declarations auto auto
  | .excluded => []

/-- What an expression declares under a naming. -/
def Expr.declarations (auto : Bool) : Expr → Naming → List Declaration
  | .column .., _ => []
  | .star, _ => []
  | .allOf _, _ => []
  | .argument _, _ => []
  | .literal _, _ => []
  | .raw sql operands, naming =>
    ((Expr.declarationLists auto operands naming.inner).take
      (Raw.pieces {} sql.toList).2.length).flatten
  | .group inner, naming => inner.declarations auto naming.inner
  | .list items, naming => (Expr.declarationLists auto items naming.inner).flatten
  | .unary _ operand, naming => operand.declarations auto naming.inner
  | .binary _ left right, naming =>
    left.declarations auto naming.inner ++ right.declarations auto naming.inner
  | .logical _ operands, naming => (Expr.declarationLists auto operands naming.inner).flatten
  | .call _ operands, naming => (Expr.declarationLists auto operands naming.inner).flatten
  | .named inner _, naming =>
    if naming = .declaration then inner.declarations auto .reference else []
  | .subquery _ query, _ => query.declarations auto false

def Expr.declarationLists (auto : Bool) : List Expr → Naming → List (List Declaration)
  | [], _ => []
  | expr :: exprs, naming =>
    expr.declarations auto naming :: Expr.declarationLists auto exprs naming

/-- The relations that an expression mentions, with what is declared inside them. -/
def Expr.candidates (auto : Bool) : Expr → List (Entry (List Declaration))
  | .column relation _ => [⟨relation, relation.contents auto⟩]
  | .star => []
  | .allOf relation => [⟨relation, relation.contents auto⟩]
  | .argument _ => []
  | .literal _ => []
  | .raw _ operands => Expr.candidatesAll auto operands
  | .group inner => inner.candidates auto
  | .list items => Expr.candidatesAll auto items
  | .unary _ operand => operand.candidates auto
  | .binary _ left right => left.candidates auto ++ right.candidates auto
  | .logical _ operands => Expr.candidatesAll auto operands
  | .call _ operands => Expr.candidatesAll auto operands
  | .named inner _ => inner.candidates auto
  | .subquery _ query => query.candidates auto

def Expr.candidatesAll (auto : Bool) : List Expr → List (Entry (List Declaration))
  | [] => []
  | expr :: exprs => expr.candidates auto ++ Expr.candidatesAll auto exprs

/-- What an entry of a FROM list declares. -/
def FromItem.declarations (auto : Bool) : FromItem → List Declaration
  | .relation r => ⟨r, none⟩ :: r.contents auto
  | .join _ left right predicate =>
    left.declarations auto ++ right.declarations auto ++
      match predicate with
      | none => []
      | some condition => condition.declarations auto .reference

def FromItem.declarationsAll (auto : Bool) : List FromItem → List Declaration
  | [] => []
  | item :: items => item.declarations auto ++ FromItem.declarationsAll auto items

def SortKey.declarations (auto : Bool) : SortKey → List Declaration
  | ⟨expr, _⟩ => expr.declarations auto .reference

def SortKey.declarationsAll (auto : Bool) : List SortKey → List Declaration
  | [] => []
  | key :: keys => key.declarations auto ++ SortKey.declarationsAll auto keys

def SortKey.candidates (auto : Bool) : SortKey → List (Entry (List Declaration))
  | ⟨expr, _⟩ => expr.candidates auto

def SortKey.candidatesAll (auto : Bool) : List SortKey → List (Entry (List Declaration))
  | [] => []
  | key :: keys => key.candidates auto ++ SortKey.candidatesAll auto keys

/-- The relations that a query infers, with what is declared inside them. -/
def Select.candidates (auto : Bool) : Select → List (Entry (List Declaration))
  | ⟨items, tables, filters, groups, groupFilters, order, _, _⟩ =>
    Entry.missing (declaredBy tables)
      (Expr.candidatesAll auto items ++ Expr.candidatesAll auto filters ++
        Expr.candidatesAll auto groups ++ Expr.candidatesAll auto groupFilters ++
        SortKey.candidatesAll auto order)

/-- What a query declares, with or without the relations that it infers. -/
def Select.declarations (auto : Bool) : Select → Bool → List Declaration
  | ⟨items, tables, filters, groups, groupFilters, order, _, _⟩, infer =>
    let missing : List (Entry (List Declaration)) :=
      if infer then
        Entry.missing (declaredBy tables)
          (Expr.candidatesAll auto items ++ Expr.candidatesAll auto filters ++
            Expr.candidatesAll auto groups ++ Expr.candidatesAll auto groupFilters ++
            SortKey.candidatesAll auto order)
      else []
    (Expr.declarationLists auto items .declaration).flatten ++
      (FromItem.declarationsAll auto tables ++
        missing.flatMap fun entry => ⟨entry.relation, some "FROM"⟩ :: entry.declare) ++
      (Expr.declarationLists auto filters .reference).flatten ++
      (Expr.declarationLists auto groups .reference).flatten ++
      (Expr.declarationLists auto groupFilters .reference).flatten ++
      SortKey.declarationsAll auto order

end

/-- A relation that stands in a list or was added to one, and what is declared inside it. -/
def Relation.declarations (auto : Bool) (addedTo : Option String) (relation : Relation) :
    List Declaration :=
  ⟨relation, addedTo⟩ :: relation.contents auto

/-- A relation with what is declared inside it. -/
def Relation.candidate (auto : Bool) (relation : Relation) : Entry (List Declaration) :=
  ⟨relation, relation.contents auto⟩

/-- What a completed list of tables declares. -/
def tableDeclarations (auto : Bool) (keyword : String) (listed : List FromItem)
    (added : List Relation) : List Declaration :=
  listed.flatMap (·.declarations auto) ++
    added.flatMap fun r => r.declarations auto (some keyword)

-- ---------------------------------------------------------------------------
-- The declarations of a query as an equation
-- ---------------------------------------------------------------------------

section Equations

variable (auto : Bool)

/-- The expressions of a list have their declarations one by one. -/
theorem Expr.declarationLists_eq_map (exprs : List Expr) (naming : Naming) :
    Expr.declarationLists auto exprs naming = exprs.map (·.declarations auto naming) := by
  induction exprs with
  | nil => rfl
  | cons expr exprs ih => simp [Expr.declarationLists, ih]

/-- The declarations of a list of expressions come one expression after the other. -/
theorem Expr.flatten_declarationLists (exprs : List Expr) (naming : Naming) :
    (Expr.declarationLists auto exprs naming).flatten =
      exprs.flatMap (·.declarations auto naming) := by
  rw [Expr.declarationLists_eq_map, List.flatMap_def]

/-- Raw SQL declares what the operands in its holes declare. -/
theorem Expr.declarations_raw (sql : String) (operands : List Expr) (naming : Naming) :
    (Expr.raw sql operands).declarations auto naming =
      (operands.take (Raw.pieces {} sql.toList).2.length).flatMap
        (·.declarations auto naming.inner) := by
  rw [Expr.declarations, Expr.declarationLists_eq_map, ← List.map_take, ← List.flatMap_def]

/-- A list of tables declares what its entries declare one after the other. -/
theorem FromItem.declarationsAll_eq_flatMap (items : List FromItem) :
    FromItem.declarationsAll auto items = items.flatMap (·.declarations auto) := by
  induction items with
  | nil => rfl
  | cons item items ih => simp [FromItem.declarationsAll, ih]

/-- Sort keys declare what they declare one after the other. -/
theorem SortKey.declarationsAll_eq_flatMap (keys : List SortKey) :
    SortKey.declarationsAll auto keys = keys.flatMap (·.declarations auto) := by
  induction keys with
  | nil => rfl
  | cons key keys ih => simp [SortKey.declarationsAll, ih]

mutual

/-- The candidates of an expression are the relations that it mentions. -/
theorem Expr.candidates_eq :
    ∀ expr : Expr, expr.candidates auto = expr.mentions.map (Relation.candidate auto)
  | .column .. => rfl
  | .star => rfl
  | .allOf _ => rfl
  | .argument _ => rfl
  | .literal _ => rfl
  | .raw _ operands => Expr.candidatesAll_eq operands
  | .group inner => Expr.candidates_eq inner
  | .list items => Expr.candidatesAll_eq items
  | .unary _ operand => Expr.candidates_eq operand
  | .binary _ left right => by
    rw [Expr.candidates, Expr.mentions, Expr.candidates_eq left, Expr.candidates_eq right,
      List.map_append]
  | .logical _ operands => Expr.candidatesAll_eq operands
  | .call _ operands => Expr.candidatesAll_eq operands
  | .named inner _ => Expr.candidates_eq inner
  | .subquery _ query => Select.candidates_eq query

/-- The candidates of a list are the relations that it mentions. -/
theorem Expr.candidatesAll_eq : ∀ exprs : List Expr,
    Expr.candidatesAll auto exprs = (Expr.mentionsAll exprs).map (Relation.candidate auto)
  | [] => rfl
  | expr :: exprs => by
    rw [Expr.candidatesAll, Expr.mentionsAll, Expr.candidates_eq expr,
      Expr.candidatesAll_eq exprs, List.map_append]

/-- The candidates of sort keys are the relations that they mention. -/
theorem SortKey.candidatesAll_eq : ∀ keys : List SortKey,
    SortKey.candidatesAll auto keys = (SortKey.mentionsAll keys).map (Relation.candidate auto)
  | [] => rfl
  | ⟨expr, direction⟩ :: keys => by
    rw [SortKey.candidatesAll, SortKey.mentionsAll, SortKey.candidates, SortKey.mentions,
      Expr.candidates_eq expr, SortKey.candidatesAll_eq keys, List.map_append]

/-- The candidates of a query are the relations that it infers. -/
theorem Select.candidates_eq :
    ∀ query : Select, query.candidates auto = query.inferred.map (Relation.candidate auto)
  | ⟨items, tables, filters, groups, groupFilters, order, _, _⟩ => by
    simp only [Select.candidates, Select.inferred, Expr.candidatesAll_eq items,
      Expr.candidatesAll_eq filters, Expr.candidatesAll_eq groups,
      Expr.candidatesAll_eq groupFilters, SortKey.candidatesAll_eq order, ← List.map_append]
    exact Entry.missing_eq (Relation.contents auto) _ _

end

/-- What a query declares, clause by clause. -/
theorem Select.declarations_eq (query : Select) (infer : Bool) :
    query.declarations auto infer =
      query.items.flatMap (·.declarations auto .declaration) ++
        tableDeclarations auto "FROM" query.tables (query.completion infer) ++
        query.filters.flatMap (·.declarations auto .reference) ++
        query.groups.flatMap (·.declarations auto .reference) ++
        query.groupFilters.flatMap (·.declarations auto .reference) ++
        query.order.flatMap (·.declarations auto) := by
  obtain ⟨items, tables, filters, groups, groupFilters, order, limit, offset⟩ := query
  have hCandidates := Select.candidates_eq auto
    ⟨items, tables, filters, groups, groupFilters, order, limit, offset⟩
  rw [Select.candidates] at hCandidates
  rw [Select.declarations, hCandidates]
  simp only [Expr.flatten_declarationLists, FromItem.declarationsAll_eq_flatMap,
    SortKey.declarationsAll_eq_flatMap, tableDeclarations, Select.completion]
  cases infer with
  | false => rfl
  | true =>
    rw [if_pos rfl, if_pos rfl, List.flatMap_map]
    rfl

end Equations

-- ---------------------------------------------------------------------------
-- Statements
-- ---------------------------------------------------------------------------

section Statements

variable (auto : Bool)

def Update.declarations (update : Update) : List Declaration :=
  if update.assignments.isEmpty then []
  else
    update.target.declarations auto none ++
      update.assignments.values.flatMap (·.declarations auto .reference) ++
      tableDeclarations auto "FROM" update.tables (update.completion auto) ++
      update.filters.flatMap (·.declarations auto .reference) ++
      update.returning.flatMap (·.declarations auto .declaration)

def Delete.declarations (delete : Delete) : List Declaration :=
  delete.target.declarations auto none ++
    tableDeclarations auto "USING" delete.tables (delete.completion auto) ++
    delete.filters.flatMap (·.declarations auto .reference) ++
    delete.returning.flatMap (·.declarations auto .declaration)

namespace Insert

/-- What the target of an INSERT declares. Its alias stands behind `AS`, so what is declared as in a
list of tables is the relation below it. -/
def targetDeclarations : Relation → List Declaration
  | .aliased relation _ => relation.declarations auto none
  | relation => relation.declarations auto none

def rowsDeclarations : Rows → List Declaration
  | .values rows => rows.flatMap fun row => row.flatMap (·.declarations auto .reference)
  | .query query => query.declarations auto auto
  | .defaults => []

def actionDeclarations : ConflictAction → List Declaration
  | .nothing => []
  | .update upsert =>
    upsert.assignments.values.flatMap (·.declarations auto .reference) ++
      upsert.filters.flatMap (·.declarations auto .reference)

def conflictDeclarations : Option Conflict → List Declaration
  | none => []
  | some conflict =>
    conflict.targets.flatMap (·.declarations auto .bare) ++ actionDeclarations auto conflict.action

def declarations (insert : Insert) : List Declaration :=
  match insert.misuse, insert.rows with
  | some _, _ => []
  | none, none => targetDeclarations auto insert.target
  | none, some rows =>
    targetDeclarations auto insert.target ++ rowsDeclarations auto rows ++
      conflictDeclarations auto insert.conflict ++
      insert.returning.flatMap (·.declarations auto .declaration)

end Insert

/-- What a statement declares, as far as it can be written. -/
def Statement.declarations : Statement → List Declaration
  | .select query => query.declarations auto auto
  | .insert statement => statement.declarations auto
  | .update statement => statement.declarations auto
  | .delete statement => statement.declarations auto

end Statements

end QueryText

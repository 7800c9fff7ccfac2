import QueryText.Error
import QueryText.Query

/-!
# QueryText — joins

Joins of relations and of joins. Every kind of join except the natural one has a predicate, and
the natural one has none.
-/

namespace QueryText.FromItem

def isJoin : FromItem → Bool
  | .relation _ => false
  | .join .. => true

/-- Joins two from items, if the predicate is there exactly when the kind needs one. -/
def joined (kind : JoinKind) (left right : FromItem) (predicate : Option Expr) :
    Except Error FromItem :=
  match kind.needsPredicate, predicate with
  | true, none => .error (.missingJoinPredicate kind)
  | false, some _ => .error (.unexpectedJoinPredicate kind)
  | _, _ => .ok (.join kind left right predicate)

def innerJoin (left right : FromItem) (predicate : Expr) : FromItem :=
  .join .inner left right (some predicate)

def leftJoin (left right : FromItem) (predicate : Expr) : FromItem :=
  .join .leftOuter left right (some predicate)

def rightJoin (left right : FromItem) (predicate : Expr) : FromItem :=
  .join .rightOuter left right (some predicate)

def fullJoin (left right : FromItem) (predicate : Expr) : FromItem :=
  .join .fullOuter left right (some predicate)

def naturalJoin (left right : FromItem) : FromItem :=
  .join .natural left right none

end QueryText.FromItem

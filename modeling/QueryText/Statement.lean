import QueryText.Statement.Delete
import QueryText.Statement.Insert
import QueryText.Statement.Select
import QueryText.Statement.Update

/-!
# QueryText — statements

A statement of any kind, and what one rendering pass over it yields: the finished text or an
error, and the events that tell what the pass did.
-/

namespace QueryText

inductive Statement where
  | select (query : Select)
  | insert (insert : Insert)
  | update (update : Update)
  | delete (delete : Delete)

inductive StatementKind where
  | select
  | insert
  | update
  | delete
  deriving DecidableEq, Repr

/-- What a rendering pass tells about itself. -/
inductive Event where
  /-- A table that no list declares is about to be written. -/
  | inferredTable (inference : Inference)
  /-- The pass is over. -/
  | renderedStatement (kind : StatementKind) (rendering : Rendering)
  deriving DecidableEq, Repr

/-- The outcome of a rendering pass and its events, in order. -/
structure Report where
  outcome : Except Error Rendering
  events : List Event

/-- Runs a writer as a pass of its own. -/
def Writer.render (w : Writer) (options : Options) : Except Error Rendering :=
  match w (Context.start options) with
  | .ok _ ctx => .ok ctx.finish
  | .error e _ => .error e

/-- Runs the writer of a statement as a pass of its own and tells how. -/
def Writer.report (w : Writer) (kind : StatementKind) (options : Options) : Report :=
  match w (Context.start options) with
  | .ok _ ctx =>
    ⟨.ok ctx.finish,
      ctx.inferences.toList.map .inferredTable ++ [.renderedStatement kind ctx.finish]⟩
  | .error e ctx => ⟨.error e, ctx.inferences.toList.map .inferredTable⟩

/-- The text of an expression on its own. -/
def Expr.toSql (expr : Expr) (options : Options) : Except Error String :=
  (expr.write.render options).map Rendering.sql

namespace Statement

def kind : Statement → StatementKind
  | .select _ => .select
  | .insert _ => .insert
  | .update _ => .update
  | .delete _ => .delete

/-- The first building step that did not fit; only an INSERT keeps one. -/
def misuse? : Statement → Option Misuse
  | .insert statement => statement.misuse
  | _ => none

/-- Writes a statement. Each of its clauses ends in one space. -/
def write : Statement → Writer
  | .select statement => statement.write
  | .insert statement => statement.write
  | .update statement => statement.write
  | .delete statement => statement.write

/-- Renders a statement and tells how. -/
def report (statement : Statement) (options : Options) : Report :=
  statement.write.report statement.kind options

def render (statement : Statement) (options : Options) : Except Error Rendering :=
  (statement.report options).outcome

/-- The text of a statement. -/
def toSql (statement : Statement) (options : Options) : Except Error String :=
  (statement.render options).map Rendering.sql

theorem render_eq (statement : Statement) (options : Options) :
    statement.render options = statement.write.render options := by
  unfold render report Writer.report Writer.render
  split <;> rfl

end Statement

end QueryText

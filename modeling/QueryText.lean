import QueryText.Bindings
import QueryText.Builder
import QueryText.Calendar
import QueryText.Catalog.Model
import QueryText.Catalog.Query
import QueryText.Catalog.Table
import QueryText.Datum
import QueryText.Error
import QueryText.Expr
import QueryText.FromItem
import QueryText.Identifier
import QueryText.Json.Literal
import QueryText.Json.Token
import QueryText.Json.Tree
import QueryText.Json.Value
import QueryText.Number.Binary
import QueryText.Number.Decimal
import QueryText.Number.Power
import QueryText.Number.Rounding
import QueryText.Number.Shortest
import QueryText.Operator
import QueryText.Proofs.Binding
import QueryText.Proofs.Builders
import QueryText.Proofs.Building
import QueryText.Proofs.Correlation
import QueryText.Proofs.Explicit
import QueryText.Proofs.Layout.Basic
import QueryText.Proofs.Layout.Composition
import QueryText.Proofs.Layout.Phrase
import QueryText.Proofs.Layout.Pieces
import QueryText.Proofs.Layout.Play
import QueryText.Proofs.Layout.Simulation
import QueryText.Proofs.Layout.Statement
import QueryText.Proofs.Layout.Tree
import QueryText.Proofs.Layout.Writes
import QueryText.Proofs.Numbering
import QueryText.Proofs.Operators.Reader
import QueryText.Proofs.Operators.Written
import QueryText.Proofs.Outcome
import QueryText.Proofs.RelationSet
import QueryText.Proofs.Scope
import QueryText.Proofs.SharedContext
import QueryText.Proofs.Styles
import QueryText.Proofs.TreeInduction
import QueryText.Query
import QueryText.Raw
import QueryText.Relation
import QueryText.RelationSet
import QueryText.Render.ArgumentSlots
import QueryText.Render.Context
import QueryText.Render.Equations
import QueryText.Render.Fragment
import QueryText.Render.Options
import QueryText.Render.OptionsJson
import QueryText.Render.Phrase
import QueryText.Render.Query
import QueryText.Render.Writer
import QueryText.Scope
import QueryText.Statement
import QueryText.Statement.Assignments
import QueryText.Statement.Delete
import QueryText.Statement.Insert
import QueryText.Statement.Select
import QueryText.Statement.Update
import QueryText.Text.Alphanumeric
import QueryText.Text.Blank
import QueryText.Text.CamelCase
import QueryText.Text.LetterCase
import QueryText.Proofs.InsertSteps
import QueryText.Proofs.Reference
import QueryText.Proofs.Quoting.Lexer
import QueryText.Proofs.Quoting.Readable
import QueryText.Proofs.Quoting.Names
import QueryText.Proofs.Hereditary
import QueryText.Proofs.Joins.Reader
import QueryText.Proofs.Joins.Written
import QueryText.Proofs.Declarations.Basic
import QueryText.Proofs.Declarations.Layout
import QueryText.Proofs.Declarations.Text
import QueryText.Proofs.DerivedTables
import QueryText.Proofs.Events
import QueryText.Proofs.ClauseSteps
import QueryText.Proofs.Raw.Filling
import QueryText.Proofs.Raw.Doubling
import QueryText.Proofs.Raw.Backslashes
import QueryText.Proofs.Arrays.Quotes
import QueryText.Proofs.Arrays.Reader
import QueryText.Proofs.Arrays.ReadBack
import QueryText.Proofs.Naming.Revision
import QueryText.Proofs.Naming.Aliases
import QueryText.Proofs.Naming.ConflictTargets
import QueryText.Proofs.Operators.Spacing
import QueryText.Proofs.Excluded
import QueryText.Proofs.Tags
import QueryText.Proofs.Targets
import QueryText.Proofs.Renaming
import QueryText.Proofs.Assignments
import QueryText.Proofs.Quoting.RoundTrip
import QueryText.Proofs.CatalogGroups
import QueryText.Proofs.Arrays.JsonLiterals
import QueryText.Proofs.InsertGrammar

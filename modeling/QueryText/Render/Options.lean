/-!
# QueryText — rendering options

How placeholders are written and whether relations missing from FROM are added to it.
-/

namespace QueryText

/-- How the placeholder of an argument is written. -/
inductive PlaceholderStyle where
  /-- `$1`, `$2`, ... in the order of first use. -/
  | positional
  /-- `:tag`. -/
  | named
  deriving DecidableEq, Repr, Inhabited

/-- The choices of one rendering pass. -/
structure Options where
  placeholder : PlaceholderStyle := .positional
  /-- Whether relations that are mentioned but not declared are added to FROM or USING. -/
  inferring : Bool := true
  deriving DecidableEq, Repr, Inhabited

end QueryText

import StructuredText.Invocation.Options

/-!
# Invocations

What one use of a directive amounts to once its block has been taken apart: its name and the
arguments, options and content it was given, together with where it stood and how it was written.
-/

namespace StructuredText

/-- One use of a directive. -/
structure Invocation where
  /-- The name as written. -/
  name : Text
  /-- The positional arguments. -/
  arguments : List Text
  /-- The options in source order. -/
  options : Options
  /-- The content lines, out of their margin and without blank lines around them. -/
  content : List Text
  /-- The line of the marker, counted from one. -/
  line : Nat
  /-- The index of the first content line, counted from zero. -/
  contentOffset : Nat
  /-- The text of the whole block. -/
  blockText : Text
  deriving DecidableEq, Repr

end StructuredText

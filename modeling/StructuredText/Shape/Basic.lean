import StructuredText.Shape.OptionSpec

/-!
# Shapes

The shape of a directive says how many arguments it takes, whether the last of them may hold white
space, whether it has content, and which options it accepts. It decides how the block of an
invocation is taken apart and carries no behaviour of its own.

A shape can be opened to any option; all else is kept, so that a block still ends where it did.
-/

namespace StructuredText

/-- How the block of a directive is divided into arguments, options and content. -/
structure Shape where
  /-- Number of arguments that have to be there. -/
  required : Nat := 0
  /-- Number of further arguments that may be there. -/
  optional : Nat := 0
  /-- Whether the last argument may contain white space. -/
  finalWhitespace : Bool := false
  /-- Whether content is allowed. -/
  content : Bool := false
  /-- Which options are accepted. -/
  options : OptionSpec := .none
  deriving DecidableEq, Repr

namespace Shape

/-- The largest number of arguments. -/
def maxArguments (s : Shape) : Nat := s.required + s.optional

/-- Whether any argument is accepted. -/
def takesArguments (s : Shape) : Bool := decide (0 < s.maxArguments)

/-- The same shape with any option accepted and its value kept as written. -/
def withAnyOption (s : Shape) : Shape := { s with options := .any }

end Shape

end StructuredText

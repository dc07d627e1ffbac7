import StructuredText.Text.Escape

/-!
# Explicit titles

A cross-reference may give its title and its target apart, as `title <target>`. The target begins
after the first `<` that is neither at the very start nor escaped, and the text ends with `>`. White
space before the target does not belong to the title; if there is nothing else, the title is the
first character.
-/

namespace StructuredText

/-- What stands before the first opening bracket that is neither first nor escaped, and after it;
`previous` is the character just before, if any. -/
def openBracket? (previous : Option Char) : Text → Option (Text × Text)
  | [] => none
  | c :: t =>
    if c = '<' ∧ previous ≠ none ∧ previous ≠ some escapeMarker then some ([], t)
    else (openBracket? (some c) t).map fun p => (c :: p.1, p.2)

/-- The title in the text before a target. -/
def titleOf (head : Text) : Text :=
  if Text.isBlank head then head.take 1 else Text.trimEnd head

/-- The title and the target of a text that gives both. -/
def explicitTitle? (text : Text) : Option (Text × Text) :=
  match Text.before? ['>'] text with
  | none => none
  | some inner => (openBracket? none inner).map fun p => (titleOf p.1, p.2)

end StructuredText

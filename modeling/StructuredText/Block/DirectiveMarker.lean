import StructuredText.Text.Letters
import StructuredText.Text.Basic

/-!
# Directive markers

Explicit markup begins with two dots, followed by a space or the end of the line. It is a directive
if a name and two colons follow, and a comment otherwise. A name is made of runs of word characters
other than the underscore, with a single separator between two runs. One space may stand before the
colons; after them the line ends, or spaces and the text of the directive follow.
-/

namespace StructuredText

/-- Whether a line begins explicit markup. -/
def isExplicit : Text → Bool
  | ['.', '.'] => true
  | '.' :: '.' :: ' ' :: _ => true
  | _ => false

/-- Whether a character may stand in a run of a directive name. -/
def isNameChar (c : Char) : Bool := isWordChar c && c ≠ '_'

/-- Whether a character may stand between two runs of a directive name. -/
def isNameSeparator (c : Char) : Bool :=
  c == '-' || c == '.' || c == '_' || c == '+' || c == ':'

/-- The text without leading spaces. -/
def dropSpaces (t : Text) : Text := t.dropWhile (· == ' ')

/-- What follows the two colons, if the line ends there or a space follows. -/
def afterColons? : Text → Option Text
  | [] => some []
  | c :: t => if c = ' ' then some (dropSpaces t) else none

/-- What follows a directive name, if it is two colons with at most one space before them. -/
def terminator? : Text → Option Text
  | ' ' :: ':' :: ':' :: t => afterColons? t
  | ':' :: ':' :: t => afterColons? t
  | _ => none

/-- The directive name at the start of a text and what follows the colons after it; `inRun` says
whether the text continues a run of the name. -/
def directiveName? (inRun : Bool) : Text → Option (Text × Text)
  | [] => none
  | c :: t =>
    if isNameChar c then (directiveName? true t).map fun p => (c :: p.1, p.2)
    else if inRun then
      (if isNameSeparator c then (directiveName? false t).map fun p => (c :: p.1, p.2)
        else none).or
        ((terminator? (c :: t)).map fun rest => ([], rest))
    else none

/-- The name of the directive that a line begins, and the text after its marker. -/
def directiveMarker? : Text → Option (Text × Text)
  | '.' :: '.' :: ' ' :: t => directiveName? false (dropSpaces t)
  | _ => none

end StructuredText

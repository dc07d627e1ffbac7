import StructuredText.Text.Basic

/-!
# Field markers

An option is written as a field: a colon, the name, a colon, and then either nothing or a space and
the value. The name ends at the first colon that is followed by a space or by the end of the line;
it is not empty and has no space at either end.
-/

namespace StructuredText

/-- The text before the first colon that a space or the end follows, and what follows that colon. -/
def fieldName? : Text → Option (Text × Text)
  | [] => none
  | c :: t =>
    if c = ':' ∧ (t = [] ∨ t.head? = some ' ') then some ([], t)
    else (fieldName? t).map fun p => (c :: p.1, p.2)

/-- The name and the value of a line that is a field. -/
def fieldMarker? : Text → Option (Text × Text)
  | ':' :: body =>
    match fieldName? body with
    | some (name, tail) =>
      if name = [] ∨ name.head? = some ' ' ∨ name.getLast? = some ' ' then none
      else some (name, Text.trimStart tail)
    | none => none
  | _ => none

/-- Whether a line is a field. -/
def isField (line : Text) : Bool := (fieldMarker? line).isSome

end StructuredText

import StructuredText.Invocation.Basic

/-!
# Writing an invocation

The written form of an invocation: the marker with the arguments, one line for each option indented
by three, and after a blank line the content indented by three. A line break inside an argument or
a value goes to a line of its own, indented by three or by six.
-/

namespace StructuredText

/-- The line moved to the right by `n`; an empty line stays empty. -/
def indentBy (n : Nat) (line : Text) : Text :=
  if line = [] then [] else List.replicate n ' ' ++ line

/-- The lines of `head` followed by the lines of `text`: the first one after a space on the line of
`head`, unless it is empty, and the others on lines of their own, indented by `n`. -/
def hangingLines (head : Text) (n : Nat) (text : Text) : List Text :=
  match Text.cutAt '\n' text with
  | [] => [head]
  | first :: others =>
    (if first = [] then head else head ++ ' ' :: first) :: others.map (indentBy n)

namespace Invocation

/-- The line of the marker and the lines of the arguments. -/
def markerLines (inv : Invocation) : List Text :=
  hangingLines (".. " ++ inv.name ++ "::") 3 (Text.join [' '] inv.arguments)

/-- The lines of one option. -/
def optionLines (option : Text × Option Text) : List Text :=
  hangingLines ("   :" ++ option.1 ++ ":") 6 (option.2.getD [])

/-- The lines of the content, after a blank line. -/
def contentLines (inv : Invocation) : List Text :=
  if inv.content = [] then [] else [] :: inv.content.map (indentBy 3)

/-- The written form of an invocation. -/
def render (inv : Invocation) : Text :=
  Text.ofLines
    (inv.markerLines ++ inv.options.entries.flatMap optionLines ++ inv.contentLines)

end Invocation

end StructuredText

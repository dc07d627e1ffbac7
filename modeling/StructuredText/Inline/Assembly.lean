import StructuredText.Inline.Cut
import StructuredText.Registry

/-!
# Inline nodes

The segments of a paragraph become inline nodes one after the other. Interpreted text is handed to
its role, which is looked up by name; the first unknown role or the first role that refuses its text
ends the paragraph with an error. Plain text is joined to a text node that stands right before it.
-/

namespace StructuredText

/-- The role of interpreted text that names none. -/
def defaultRole : Text := "title-reference"

namespace RolePlace

/-- The name of the role, whether given or not. -/
def name : RolePlace → Text
  | absent => defaultRole
  | before name => name
  | after name => name

end RolePlace

/-- Adds plain text behind the nodes. -/
def appendText (nodes : List Inline) (s : Text) : List Inline :=
  if s = [] then nodes
  else match nodes.getLast? with
    | some (.text p) => nodes.dropLast ++ [.text (p ++ s)]
    | _ => nodes ++ [.text s]

/-- What a role makes of interpreted text. -/
def interpret (registry : Registry) (i : Interpreted) : Except ParseError (List Inline) :=
  match registry.role? i.name with
  | none => .error (.unknownRole i.name i.line)
  | some role => (role.run i).mapError (.role i.name i.line)

namespace Segment

/-- Adds the nodes of a segment, which begins on `line`, behind the nodes that stand before it. -/
def assemble (registry : Registry) (line : Nat) (nodes : List Inline) (segment : Segment) :
    Except ParseError (List Inline) :=
  match segment with
  | text s => .ok (appendText nodes (Text.unescape s))
  | emphasis c => .ok (nodes ++ [.emphasis (Text.unescape c)])
  | strong c => .ok (nodes ++ [.strong (Text.unescape c)])
  | literal c => .ok (nodes ++ [.literal (Text.restore c)])
  | phrase c _ =>
    .ok (nodes ++ [.element "reference" (Text.unescape c) (Text.restore segment.raw)])
  | interpreted place c =>
    (interpret registry
      { name := place.name, rawtext := Text.restore segment.raw, text := c, line }).map
      (nodes ++ ·)

/-- The number of line breaks in a segment. -/
def lineBreaks (segment : Segment) : Nat := segment.raw.count '\n'

end Segment

/-- Adds the nodes of the segments, the first of which begins on `line`. -/
def assembleFrom (registry : Registry) (line : Nat) (nodes : List Inline) :
    List Segment → Except ParseError (List Inline)
  | [] => .ok nodes
  | s :: ss =>
    match s.assemble registry line nodes with
    | .error e => .error e
    | .ok nodes => assembleFrom registry (line + s.lineBreaks) nodes ss

/-- The inline nodes of a text that begins on `line`. -/
def inlineNodes (registry : Registry) (text : Text) (line : Nat) :
    Except ParseError (List Inline) :=
  assembleFrom registry line [] (segments (Text.escape text))

end StructuredText

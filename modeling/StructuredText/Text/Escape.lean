import StructuredText.Text.Basic

/-!
# Escapes

A backslash takes the special meaning from the character after it. Before inline markup is looked
for, each such backslash is replaced by a marker that no markup rule mentions; the character after
it stays. A marked text can be read back in two ways: `restore` gives the text as it was written,
and `unescape` gives the text that was meant, in which an escaped space or newline is nothing.
-/

namespace StructuredText

/-- The character that stands for the backslash of an escape. -/
def escapeMarker : Char := '\x00'

namespace Text

/-- Replaces every escaping backslash by the marker. -/
def escape : Text → Text
  | [] => []
  | c :: t =>
    if c = '\\' then
      match t with
      | [] => [escapeMarker]
      | d :: t => escapeMarker :: d :: escape t
    else c :: escape t

/-- Turns the markers back into backslashes. -/
def restore (t : Text) : Text := t.map fun c => if c = escapeMarker then '\\' else c

/-- Drops the markers, each together with a space or newline right after it. -/
def unescape : Text → Text
  | [] => []
  | c :: t =>
    if c = escapeMarker then
      match t with
      | [] => []
      | d :: t => if d = ' ' ∨ d = '\n' then unescape t else unescape (d :: t)
    else c :: unescape t

end Text

end StructuredText

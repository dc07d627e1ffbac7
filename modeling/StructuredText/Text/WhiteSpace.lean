import StructuredText.Text.CodePoints

/-!
# White space

The characters that separate words and that trimming removes: those with the Unicode property
`White_Space`. A blank line is one that holds nothing else.
-/

namespace StructuredText

/-- The code points with the property `White_Space`. -/
def whiteSpace : CodePoints := ⟨
  [9, 14, 32, 33, 133, 134, 160, 161, 5760, 5761, 8192, 8203, 8232, 8234, 8239, 8240, 8287, 8288,
   12288, 12289]⟩

/-- Whether a character is white space. -/
def isWhite (c : Char) : Bool := whiteSpace.has c

theorem isWhite_space : isWhite ' ' = true := by decide

theorem isWhite_newline : isWhite '\n' = true := by decide

/-- The escape marker is not white space. -/
theorem isWhite_nul : isWhite '\x00' = false := by decide

theorem isWhite_colon : isWhite ':' = false := by decide

end StructuredText

import StructuredText.Role.Basic

/-!
# The roles of the grammar
-/

namespace StructuredText

namespace Role

/-- The role that makes an element of its text. -/
def ofText (tag : Text) : Role := element tag .text

/-- The role that refers to a target. -/
def target : Role := element "pending_xref" .crossReference

end Role

/-- The roles of the grammar. -/
def grammarRoles : List (Text × Role) :=
  [("abbreviation", .ofText "abbreviation"),
   ("acronym", .ofText "acronym"),
   ("code", .ofText "literal"),
   ("emphasis", .ofText "emphasis"),
   ("literal", .ofText "literal"),
   ("math", .ofText "math"),
   ("pep-reference", .element "reference" .proposal),
   ("raw", .element "raw" .format),
   ("rfc-reference", .element "reference" .memorandum),
   ("strong", .ofText "strong"),
   ("subscript", .ofText "subscript"),
   ("superscript", .ofText "superscript"),
   ("title-reference", .ofText "title_reference"),
   ("uri-reference", .ofText "reference"),
   ("index", .ofText "index"),
   ("download", .target)]

end StructuredText

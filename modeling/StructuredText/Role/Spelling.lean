import StructuredText.Text.Lowercase

/-!
# Spelling of role names

A role that is kept as written is recorded under the spelling by which it is best known. The
spelling is chosen by the name in lower case; a name without an entry is recorded as it was written.
-/

namespace StructuredText

/-- The recorded spellings, by role name in lower case. -/
def roleSpellings : List (Text × Text) :=
  [("pep", "PEP"), ("pep-reference", "PEP"), ("rfc", "RFC"), ("rfc-reference", "RFC"),
   ("subscript", "sub"), ("superscript", "sup")]

/-- The spelling under which a role is recorded. -/
def roleSpelling (name : Text) : Text :=
  match roleSpellings.find? fun s => s.1 = lowercase name with
  | some s => s.2
  | none => name

end StructuredText

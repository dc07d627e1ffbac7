import StructuredText.Text.Basic

/-!
# Aliases

Some directives and roles of the grammar go by further names.
-/

namespace StructuredText

/-- Names of directives that stand for another directive. -/
def directiveAliases : List (Text × Text) :=
  [("code-block", "code"), ("sourcecode", "code"), ("section-numbering", "sectnum")]

/-- Names of roles that stand for another role. -/
def roleAliases : List (Text × Text) :=
  [("ab", "abbreviation"), ("ac", "acronym"), ("i", "index"), ("pep", "pep-reference"),
   ("rfc", "rfc-reference"), ("sub", "subscript"), ("sup", "superscript"),
   ("t", "title-reference"), ("title", "title-reference"), ("uri", "uri-reference"),
   ("url", "uri-reference")]

/-- The name that the first entry for `name` stands for. -/
def aliasIn (name : Text) : List (Text × Text) → Option Text
  | [] => none
  | (a, canonical) :: rest => if a = name then some canonical else aliasIn name rest

/-- The directive that a name is an alias of. -/
def directiveAlias? (name : Text) : Option Text := aliasIn name directiveAliases

/-- The role that a name is an alias of. -/
def roleAlias? (name : Text) : Option Text := aliasIn name roleAliases

end StructuredText

import StructuredText.Shape.Basic

/-!
# What is kept as written

A passthrough keeps the invocation of a directive. Most are raw: they are written out again exactly
as they were. The content of the others is ordinary markup, which may be set anew.
-/

namespace StructuredText

/-- Roles of the grammar for which there is no other markup. -/
def genericRoleNames : List Text :=
  ["math", "pep-reference", "rfc-reference", "subscript", "superscript"]

/-- Directives whose content may be set anew. A table given as a list is not set as a table, since
the declared widths of its columns may be too small for that. -/
def reflowedDirectives : List Text :=
  ["admonition", "attention", "caution", "danger", "error", "hint", "important", "note", "tip",
   "warning", "list-table", "tabs", "tab", "group-tab", "code-tab"]

/-- Whether a directive of the grammar is written out exactly as it was. -/
def isRaw (name : Text) : Bool := !reflowedDirectives.contains name

/-- The directive that defines a role. -/
def roleDirectiveName : Text := "role"

/-- The shape by which a role definition is kept: the name of the role is its one argument. -/
def Shape.roleDefinition : Shape := { required := 1 }

end StructuredText

import StructuredText.Grammar.Directives

/-!
# The directives of a documentation generator

A documentation generator adds directives of its own to those of the grammar: a table of contents,
remarks on versions, files shown as code, and directives that document an object of the program by
its type.
-/

namespace StructuredText

namespace Directive

/-- A list of terms and their definitions. -/
def glossary : Directive :=
  element "glossary" { content := true, options := .declared [("sorted", .flag)] } .literal

/-- A file shown as code. -/
def literalInclude : Directive :=
  element "literal_block"
    { Shape.oneLine with
      options := .declared
        [("dedent", .unchanged),
         ("linenos", .flag),
         ("lineno-start", .positiveInt),
         ("lineno-match", .flag),
         ("tab-width", .positiveInt),
         ("language", .unchangedRequired),
         ("force", .flag),
         ("encoding", .unchanged),
         ("pyobject", .unchangedRequired),
         ("lines", .unchangedRequired),
         ("start-after", .unchangedRequired),
         ("end-before", .unchangedRequired),
         ("start-at", .unchangedRequired),
         ("end-at", .unchangedRequired),
         ("prepend", .unchanged),
         ("append", .unchanged),
         ("emphasize-lines", .unchangedRequired),
         ("caption", .unchanged),
         ("class", .classNames),
         ("name", .unchanged),
         ("diff", .unchangedRequired)] }
    .empty

/-- A table of contents over several documents. -/
def tocTree : Directive :=
  element "toctree"
    { content := true
      options := .declared
        [("maxdepth", .nonNegativeInt),
         ("name", .unchanged),
         ("class", .classNames),
         ("caption", .unchangedRequired),
         ("glob", .flag),
         ("hidden", .flag),
         ("includehidden", .flag),
         ("numbered", .unchanged),
         ("titlesonly", .flag),
         ("reversed", .flag)] }
    .literal

/-- A remark on what a version changed. -/
def versionChange : Directive :=
  element "versionmodified"
    { required := 1, optional := 1, finalWhitespace := true, content := true } .body

/-- Content for some outputs only. -/
def only : Directive := element "only" { Shape.oneLine with content := true } .body

/-- The language of the code that follows. -/
def highlight : Directive :=
  element "highlightlang"
    { required := 1
      options := .declared [("force", .flag), ("linenothreshold", .positiveInt)] }
    .empty

/-- A reminder. -/
def todo : Directive := element "todo_node" Shape.admonition .body

/-- The documentation of an object, taken from the program. -/
def objectDocumentation : Directive :=
  element "autodoc" { Shape.oneLine with content := true, options := .any } .literal

end Directive

/-- The names of the remarks on versions. -/
def versionChangeNames : List Text := ["versionadded", "versionchanged", "deprecated"]

/-- The object type of documenters that stand for no type of their own. -/
def genericObjectType : Text := "object"

/-- The documenters and the type of object that each documents. -/
def documenters : List (Text × Text) :=
  [("Documenter", genericObjectType),
   ("ModuleDocumenter", "module"),
   ("ModuleLevelDocumenter", genericObjectType),
   ("ClassLevelDocumenter", genericObjectType),
   ("ClassDocumenter", "class"),
   ("ExceptionDocumenter", "exception"),
   ("DataDocumenter", "data"),
   ("NewTypeDataDocumenter", "newtypedata"),
   ("FunctionDocumenter", "function"),
   ("DecoratorDocumenter", "decorator"),
   ("MethodDocumenter", "method"),
   ("AttributeDocumenter", "attribute"),
   ("PropertyDocumenter", "property"),
   ("NewTypeAttributeDocumenter", "newvarattribute")]

/-- The types of object that have a directive, in the order of the documenters. -/
def objectTypes : List Text := (documenters.map Prod.snd).filter (· ≠ genericObjectType)

/-- The name of the directive that documents objects of a type. -/
def objectDirectiveName (objectType : Text) : Text := "auto" ++ objectType

/-- The directives that a documentation generator registers on top of the grammar. -/
def applicationDirectives : List (Text × Directive) :=
  let references : List (Text × Directive) :=
    [("glossary", .glossary), ("literalinclude", .literalInclude), ("toctree", .tocTree)]
  let remarks : List (Text × Directive) :=
    [("only", .only), ("highlight", .highlight), ("todo", .todo)]
  references ++ versionChangeNames.map (fun n => (n, Directive.versionChange)) ++ remarks
    ++ objectTypes.map fun t => (objectDirectiveName t, Directive.objectDocumentation)

end StructuredText

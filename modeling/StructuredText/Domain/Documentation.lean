import StructuredText.Domain.Basic
import StructuredText.Grammar.Directives
import StructuredText.Grammar.Roles

/-!
# The domains of a documentation generator

One domain for each programming language that can be documented, one for mathematics, one for this
markup itself, and one for what belongs to no language. Most directives describe an object by its
signature, and most roles refer to such an object.
-/

namespace StructuredText

/-- Options that leave an object out of an index or a table of contents. -/
def objectOptions : List (Text × OptionKind) :=
  [("no-index", .flag), ("noindex", .flag), ("no-index-entry", .flag),
   ("no-contents-entry", .flag), ("no-typesetting", .flag)]

/-- The shape of directives that describe an object. -/
def Shape.object : Shape :=
  { Shape.oneLine with content := true, options := .declared objectOptions }

namespace Directive

/-- The description of an object. -/
def object : Directive := element "desc" .object .body

/-- A change of the namespace in which names are looked up. -/
def nameSpace : Directive := element "namespace" .oneLine .empty

/-- The end of a namespace. -/
def popNameSpace : Directive := element "namespace" {} .empty

end Directive

namespace Domain

/-- The domain of C. -/
def c : Domain :=
  ({ name := "c" } : Domain)
    |>.withDirectives
      ["member", "var", "function", "macro", "struct", "union", "enum", "enumerator", "type",
       "alias"] .object
    |>.withDirectives ["namespace", "namespace-push"] .nameSpace
    |>.withDirectives ["namespace-pop"] .popNameSpace
    |>.withRoles
      ["member", "var", "func", "macro", "struct", "union", "enum", "enumerator", "type"] .target
    |>.withRoles ["expr", "texpr"] (.ofText "desc_inline")

/-- The domain of C++. -/
def cpp : Domain :=
  ({ name := "cpp" } : Domain)
    |>.withDirectives
      ["class", "struct", "union", "function", "member", "var", "type", "concept", "enum",
       "enum-struct", "enum-class", "enumerator", "alias"] .object
    |>.withDirectives ["namespace", "namespace-push"] .nameSpace
    |>.withDirectives ["namespace-pop"] .popNameSpace
    |>.withRoles
      ["any", "class", "struct", "union", "func", "member", "var", "type", "concept", "enum",
       "enumerator"] .target
    |>.withRoles ["expr", "texpr"] (.ofText "desc_inline")

/-- The domain of JavaScript. -/
def javaScript : Domain :=
  ({ name := "js" } : Domain)
    |>.withDirectives ["function", "method", "class", "data", "attribute"] .object
    |>.withDirectives ["module"] (.element "module" { required := 1, content := true } .body)
    |>.withRoles ["func", "meth", "class", "data", "attr", "mod"] .target

/-- The domain of mathematics. -/
def math : Domain := ({ name := "math" } : Domain).withRoles ["eq"] .target

/-- The domain of Python. -/
def python : Domain :=
  ({ name := "py" } : Domain)
    |>.withDirectives
      ["function", "data", "class", "exception", "method", "classmethod", "staticmethod",
       "attribute", "property", "type", "decorator", "decoratormethod"] .object
    |>.withDirectives ["module"]
      (.element "module"
        { required := 1
          content := true
          options := .declared
            [("platform", .unchanged), ("synopsis", .unchanged), ("no-index", .flag),
             ("noindex", .flag), ("no-contents-entry", .flag), ("deprecated", .flag)] }
        .body)
    |>.withDirectives ["currentmodule"] (.element "currentmodule" { required := 1 } .empty)
    |>.withRoles
      ["data", "exc", "func", "class", "const", "attr", "type", "meth", "mod", "obj"] .target

/-- The domain of this markup. -/
def markup : Domain :=
  ({ name := "rst" } : Domain)
    |>.withDirectives ["directive", "role"] .object
    |>.withDirectives ["directive:option"]
      (.element "desc"
        { Shape.object with
          options := .declared
            [("type", .unchanged), ("default", .unchanged), ("no-index", .flag),
             ("noindex", .flag)] }
        .body)
    |>.withRoles ["dir", "role"] .target

/-- The domain of what belongs to no language. -/
def standard : Domain :=
  ({ name := "std" } : Domain)
    |>.withDirectives ["program"] (.element "program" .oneLine .empty)
    |>.withDirectives ["cmdoption", "option", "envvar"] .object
    |>.withDirectives ["glossary"]
      (.element "glossary" { content := true, options := .declared [("sorted", .flag)] } .literal)
    |>.withDirectives ["productionlist"] (.element "productionlist" .oneLine .empty)
    |>.withRoles
      ["option", "envvar", "token", "term", "ref", "numref", "keyword", "doc"] .target

end Domain

/-- The domains of a documentation generator. -/
def documentationDomains : Domains :=
  [Domain.c, .cpp, .javaScript, .math, .python, .markup, .standard].foldl Domains.register ∅

end StructuredText

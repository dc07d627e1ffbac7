import StructuredText.Directive

/-!
# The directives of the grammar

Each directive of the grammar makes an element of the same name. The table gives its shape and what
becomes of its content.
-/

namespace StructuredText

/-- Options that most directives have. -/
def classAndName : List (Text × OptionKind) := [("class", .classNames), ("name", .unchanged)]

namespace Shape

/-- A note: content that may begin on the first line. -/
def admonition : Shape :=
  { finalWhitespace := true, content := true, options := .declared classAndName }

/-- Content and nothing else. -/
def contentOnly : Shape := { content := true }

/-- Content with a class and a name. -/
def body : Shape := { content := true, options := .declared classAndName }

/-- A title with a class and a name. -/
def titled : Shape := { required := 1, finalWhitespace := true, options := .declared classAndName }

/-- One argument that runs to the end of the line. -/
def oneLine : Shape := { required := 1, finalWhitespace := true }

/-- An optional argument that runs to the end of the line, and content. -/
def optionallyTitled (options : OptionSpec) : Shape :=
  { optional := 1, finalWhitespace := true, content := true, options := options }

end Shape

/-- Where a table may stand. -/
def horizontalPlaces : List Text := ["left", "center", "right"]

/-- Where an image may stand. -/
def imagePlaces : List Text := ["top", "middle", "bottom", "left", "center", "right"]

/-- The options of tables. -/
def tableOptions : List (Text × OptionKind) :=
  [("align", .choice horizontalPlaces),
   ("width", .unchanged),
   ("widths", .unchanged),
   ("header-rows", .nonNegativeInt),
   ("stub-columns", .nonNegativeInt),
   ("class", .classNames),
   ("name", .unchanged)]

/-- The options of tables of separated values. -/
def separatedTableOptions : List (Text × OptionKind) :=
  [("header-rows", .nonNegativeInt),
   ("stub-columns", .nonNegativeInt),
   ("header", .unchanged),
   ("width", .unchanged),
   ("widths", .unchanged),
   ("file", .unchanged),
   ("url", .uri),
   ("encoding", .unchanged),
   ("class", .classNames),
   ("name", .unchanged),
   ("align", .choice horizontalPlaces),
   ("delim", .unchanged),
   ("keepspace", .flag),
   ("quote", .unchanged),
   ("escape", .unchanged)]

/-- The options of images. -/
def imageOptions : List (Text × OptionKind) :=
  [("alt", .unchanged),
   ("height", .unchanged),
   ("width", .unchanged),
   ("scale", .positiveInt),
   ("align", .choice imagePlaces),
   ("target", .unchangedRequired),
   ("loading", .choice ["embed", "link", "lazy"]),
   ("class", .classNames),
   ("name", .unchanged)]

/-- The options of figures. -/
def figureOptions : List (Text × OptionKind) :=
  let ofFigure : List (Text × OptionKind) := [("figwidth", .unchanged), ("figclass", .classNames)]
  imageOptions ++ ofFigure

/-- The options of included files. -/
def includeOptions : List (Text × OptionKind) :=
  [("literal", .flag),
   ("code", .unchanged),
   ("encoding", .unchanged),
   ("parser", .unchanged),
   ("tab-width", .nonNegativeInt),
   ("start-line", .nonNegativeInt),
   ("end-line", .nonNegativeInt),
   ("start-after", .unchangedRequired),
   ("end-before", .unchangedRequired),
   ("number-lines", .unchanged),
   ("class", .classNames),
   ("name", .unchanged)]

/-- Notes to the reader. -/
def admonitions : List (Text × Shape × Expansion) :=
  [("attention", .admonition, .body),
   ("caution", .admonition, .body),
   ("danger", .admonition, .body),
   ("error", .admonition, .body),
   ("hint", .admonition, .body),
   ("important", .admonition, .body),
   ("note", .admonition, .body),
   ("tip", .admonition, .body),
   ("warning", .admonition, .body),
   ("admonition", { Shape.admonition with required := 1 }, .body)]

/-- Parts of the body of a document. -/
def bodyElements : List (Text × Shape × Expansion) :=
  [("sidebar",
    .optionallyTitled (.declared
      [("subtitle", .unchangedRequired), ("class", .classNames), ("name", .unchanged)]),
    .body),
   ("topic", { Shape.titled with content := true }, .body),
   ("line-block", .body, .body),
   ("parsed-literal", .body, .literal),
   ("code",
    { optional := 1
      content := true
      options := .declared
        [("class", .classNames), ("name", .unchanged), ("number-lines", .unchanged)] },
    .literal),
   ("math", .body, .literal),
   ("rubric", .titled, .empty),
   ("epigraph", .contentOnly, .body),
   ("highlights", .contentOnly, .body),
   ("pull-quote", .contentOnly, .body),
   ("compound", .body, .body)]

/-- Containers, tables and images. -/
def tablesAndImages : List (Text × Shape × Expansion) :=
  [("container", .optionallyTitled (.declared [("name", .unchanged)]), .body),
   ("table", .optionallyTitled (.declared tableOptions), .body),
   ("csv-table", .optionallyTitled (.declared separatedTableOptions), .literal),
   ("list-table", .optionallyTitled (.declared tableOptions), .body),
   ("image", { Shape.oneLine with options := .declared imageOptions }, .empty),
   ("figure", { Shape.oneLine with content := true, options := .declared figureOptions }, .body)]

/-- Parts that belong to the document as a whole. -/
def documentParts : List (Text × Shape × Expansion) :=
  [("contents",
    { optional := 1
      finalWhitespace := true
      options := .declared
        [("depth", .nonNegativeInt), ("local", .flag),
         ("backlinks", .choice ["top", "entry", "none"]), ("class", .classNames)] },
    .empty),
   ("sectnum",
    { options := .declared
        [("depth", .nonNegativeInt), ("start", .nonNegativeInt), ("prefix", .unchanged),
         ("suffix", .unchanged)] },
    .empty),
   ("header", .contentOnly, .body),
   ("footer", .contentOnly, .body),
   ("target-notes", { options := .declared classAndName }, .empty),
   ("meta", .contentOnly, .literal)]

/-- Other documents, substitutions, roles and classes. -/
def references : List (Text × Shape × Expansion) :=
  [("raw",
    { Shape.oneLine with
      content := true
      options := .declared
        [("file", .unchanged), ("url", .uri), ("encoding", .unchanged),
         ("class", .classNames)] },
    .literal),
   ("include", { Shape.oneLine with options := .declared includeOptions }, .included),
   ("replace", .contentOnly, .body),
   ("unicode",
    { Shape.oneLine with
      options := .declared [("trim", .flag), ("ltrim", .flag), ("rtrim", .flag)] },
    .empty),
   ("class", { Shape.oneLine with content := true }, .body),
   ("role", .contentOnly, .literal),
   ("default-role", { optional := 1 }, .empty),
   ("title", .oneLine, .empty),
   ("date", .contentOnly, .literal),
   ("restructuredtext-test-directive",
    .optionallyTitled (.declared [("option", .unchangedRequired)]),
    .literal)]

/-- The names, shapes and expansions of the directives of the grammar. -/
def directiveTable : List (Text × Shape × Expansion) :=
  admonitions ++ bodyElements ++ tablesAndImages ++ documentParts ++ references

/-- The directives of the grammar. -/
def grammarDirectives : List (Text × Directive) :=
  directiveTable.map fun e => (e.1, .element e.1 e.2.1 e.2.2)

end StructuredText

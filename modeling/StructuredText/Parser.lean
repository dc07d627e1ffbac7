import StructuredText.Block.Chunk
import StructuredText.Inline.Assembly

/-!
# Parsing documents

A parser is a registry together with a configuration. The lines of a source are cut into chunks, and
each chunk becomes blocks, in order; the first error ends the parse.

Two things nest. A quote holds blocks of its own at the same depth, and it comes to an end because
its lines are less indented. The content of a directive is one level deeper, and the levels left are
counted down from the configured limit; where none is left, nested content is an error at its first
line.
-/

namespace StructuredText

/-- What a parser needs besides its registry. -/
structure ParserConfig where
  /-- The directory that relative paths begin at. -/
  baseDir : Text := "."
  /-- The path of the document, if known. -/
  sourcePath : Option Text := none
  /-- The text of the file at a path, or why it cannot be read. -/
  fileText : Text → Except Text Text
  /-- How deeply the content of directives may be nested. -/
  maxDepth : Nat := 16

/-- A registry with a configuration. -/
structure Parser where
  registry : Registry
  config : ParserConfig

namespace Parser

/-- A way to parse nested content: lines and the index of the first of them. -/
abbrev Nested := List Text → Nat → Except ParseError (List Block)

/-- What surrounds an invocation on a line. -/
def context (p : Parser) (nested : Nested) (line : Nat) : Context :=
  { line
    baseDir := p.config.baseDir
    sourcePath := p.config.sourcePath
    fileText := p.config.fileText
    parseNested := nested }

/-- The error in the document that a failing directive of a given name on a given line amounts
to. -/
def failureError (name : Text) (line : Nat) : Failure → ParseError
  | .fault fault => .directive name line fault
  | .nested error => error

/-- The invocation that a directive block amounts to. -/
def invocation (d : Directive) (name : Text) (lines : List Text) (blockText : Text)
    (index : Nat) : Except ParseError Invocation :=
  match d.shape.divide lines index with
  | .error cause => .error (.directive name (index + 1) (.block cause))
  | .ok parts =>
    .ok { name
          arguments := parts.arguments
          options := parts.options
          content := parts.content
          line := index + 1
          contentOffset := parts.contentOffset
          blockText }

/-- The blocks of a directive block, whose first line is the text after the marker and whose marker
stands on the line with the given index. -/
def directiveBlocks (p : Parser) (nested : Nested) (name : Text) (lines : List Text)
    (blockText : Text) (index : Nat) : Except ParseError (List Block) :=
  match p.registry.directive? name with
  | none => .error (.unknownDirective name (index + 1))
  | some d =>
    match invocation d name lines blockText index with
    | .error e => .error e
    | .ok inv =>
      (d.run inv (p.context nested (index + 1))).mapError (failureError name (index + 1))

/-- The blocks of explicit markup: those of a directive, or a comment. -/
def explicitBlocks (p : Parser) (nested : Nested) (index : Nat) (lines : List Text) :
    Except ParseError (List Block) :=
  let text := Text.ofLines lines
  match directiveMarker? (lines.headD []) with
  | some (name, rest) =>
    p.directiveBlocks nested name (rest :: Text.dropMargin lines.tail) text index
  | none => .ok [.comment (index + 1) text]

/-- The blocks of a paragraph: none if it only announces a literal block. -/
def paragraphBlocks (p : Parser) (index : Nat) (lines : List Text) :
    Except ParseError (List Block) :=
  let text := (literalAnnouncement (Text.ofLines lines)).1
  if text = [] then .ok []
  else (inlineNodes p.registry text (index + 1)).map fun is => [.paragraph (index + 1) is]

/-- The block of a literal block. -/
def literalBlock (lines : List Text) : Block :=
  .ofText "literal_block" (Text.ofLines (Text.dropMargin lines))

/-- The blocks of lines at one depth; `offset` is the index of the first line in the document and
`nested` parses content one level deeper. -/
def blocks (p : Parser) (nested : Nested) (lines : List Text) (offset : Nat) :
    Except ParseError (List Block) := do
  let parsed ← (chunks lines).attach.mapM fun ⟨c, _⟩ =>
    match _h : c.kind with
    | .quote =>
      (p.blocks nested (Text.dropMargin c.lines) (offset + c.start)).map fun bs =>
        [Block.quote (offset + c.start + 1) bs]
    | .explicit => p.explicitBlocks nested (offset + c.start) c.lines
    | .paragraph => p.paragraphBlocks (offset + c.start) c.lines
    | .literal => .ok [literalBlock c.lines]
  return parsed.flatten
termination_by Text.totalIndentation lines
decreasing_by exact totalIndentation_quote_lt ‹_› ‹_›

/-- The blocks of one chunk, where `quoted` parses what is inside a quote. -/
def chunkBlocks (p : Parser) (nested quoted : Nested) (offset : Nat) (c : Chunk) :
    Except ParseError (List Block) :=
  match c.kind with
  | .quote =>
    (quoted (Text.dropMargin c.lines) (offset + c.start)).map fun bs =>
      [Block.quote (offset + c.start + 1) bs]
  | .explicit => p.explicitBlocks nested (offset + c.start) c.lines
  | .paragraph => p.paragraphBlocks (offset + c.start) c.lines
  | .literal => .ok [literalBlock c.lines]

/-- The blocks of lines are those of their chunks, one after the other. -/
theorem blocks_eq (p : Parser) (nested : Nested) (lines : List Text) (offset : Nat) :
    p.blocks nested lines offset =
      (do
        let parsed ← (chunks lines).mapM (p.chunkBlocks nested (p.blocks nested) offset)
        return parsed.flatten) := by
  rw [blocks]
  congr 1
  rw [List.mapM_subtype (g := p.chunkBlocks nested (p.blocks nested) offset),
    List.unattach_attach]
  intro c h
  dsimp only
  unfold chunkBlocks
  split <;> next hk => simp only [hk]

/-- The blocks of lines below which the content of directives may be nested `levels` deep. -/
def blocksWithin (p : Parser) : (levels : Nat) → Nested
  | 0 => p.blocks fun _ offset => .error (.depthExceeded (offset + 1) p.config.maxDepth)
  | levels + 1 => p.blocks (p.blocksWithin levels)

/-- Parses a document, or tells the first thing wrong with it. -/
def parse (p : Parser) (source : Text) : Except ParseError Document :=
  (p.blocksWithin p.config.maxDepth (Text.normalLines source) 0).map Document.mk

end Parser

end StructuredText

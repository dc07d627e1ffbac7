import StructuredText.Document.Basic
import StructuredText.Error

/-!
# Directives

A directive has a shape, by which the block of an invocation is divided, and an expansion, which
turns the invocation into blocks. The directives of the grammar make an element of it; a passthrough
keeps the invocation as it was written and accepts any option; a caller may bring directives of its
own.

What an expansion may look at besides the invocation is its context: where the document stands, a
way to read files, and a way to parse content as blocks, one level deeper.
-/

namespace StructuredText

/-- What surrounds an invocation. -/
structure Context where
  /-- The line of the marker, counted from one. -/
  line : Nat
  /-- The directory that relative paths begin at. -/
  baseDir : Text
  /-- The path of the document, if known. -/
  sourcePath : Option Text
  /-- The text of the file at a path, or why it cannot be read. -/
  fileText : Text → Except Text Text
  /-- Parses lines as blocks; the number is the index of the first of them in the document. -/
  parseNested : List Text → Nat → Except ParseError (List Block)

/-- A path given relative to a directory; an absolute path stands for itself. -/
def joinPath (dir path : Text) : Text :=
  if path.head? = some '/' then path
  else if dir = [] ∨ dir.getLast? = some '/' then dir ++ path
  else dir ++ '/' :: path

namespace Context

/-- A path given relative to the base directory. -/
def resolvePath (ctx : Context) (path : Text) : Text := joinPath ctx.baseDir path

end Context

/-- Why an expansion fails. -/
inductive Failure where
  /-- The directive itself is at fault. -/
  | fault (fault : DirectiveFault)
  /-- An error in its content, which is reported as it is. -/
  | nested (error : ParseError)
  deriving DecidableEq, Repr

/-- What an element made by a directive holds. -/
inductive Expansion where
  /-- The content, parsed as blocks. -/
  | body
  /-- The content as text. -/
  | literal
  /-- The file named by the first argument, parsed as blocks. -/
  | included
  /-- Nothing. -/
  | empty
  deriving DecidableEq, Repr

/-- What an invocation becomes. -/
inductive Directive where
  /-- An element with the given tag. -/
  | element (tag : Text) (shape : Shape) (expansion : Expansion)
  /-- A node that keeps the invocation. The content is parsed only if it is not raw. -/
  | passthrough (shape : Shape) (raw : Bool)
  /-- What a caller's own function makes of it. -/
  | custom (shape : Shape) (run : Invocation → Context → Except Failure (List Block))

/-- Parses the content of an invocation. -/
def parseContent (inv : Invocation) (ctx : Context) : Except Failure (List Block) :=
  (ctx.parseNested inv.content inv.contentOffset).mapError .nested

/-- The attributes of an element made by a directive: the arguments and then the options. -/
def elementAttributes (inv : Invocation) : List (Text × Text) :=
  let options := inv.options.entries.map fun o => (o.1, o.2.getD [])
  if inv.arguments = [] then options
  else ("arguments", Text.join [' '] inv.arguments) :: options

/-- Reads the file named by the first argument and parses it. -/
def parseIncluded (inv : Invocation) (ctx : Context) : Except Failure (List Block) :=
  match inv.arguments with
  | [] => .error (.fault (.markup "1 argument(s) required, 0 supplied"))
  | path :: _ =>
    match ctx.fileText (ctx.resolvePath path) with
    | .error message => .error (.fault (.io message))
    | .ok source => (ctx.parseNested (Text.normalLines source) 0).mapError .nested

namespace Directive

/-- How the block of an invocation is divided. A passthrough accepts any option. -/
def shape : Directive → Shape
  | element _ shape _ => shape
  | passthrough shape _ => shape.withAnyOption
  | custom shape _ => shape

/-- The passthrough that takes the place of a directive. -/
def wrapped (d : Directive) (raw : Bool) : Directive := passthrough d.shape raw

/-- The blocks that an invocation becomes. -/
def run (d : Directive) (inv : Invocation) (ctx : Context) : Except Failure (List Block) :=
  match d with
  | element tag _ expansion => do
    let attributes := elementAttributes inv
    match expansion with
    | .body => return [.element tag attributes none (← parseContent inv ctx)]
    | .literal => return [.element tag attributes (some (Text.ofLines inv.content)) []]
    | .included => return [.element tag attributes none (← parseIncluded inv ctx)]
    | .empty => return [.element tag attributes none []]
  | passthrough _ raw => do
    let children ← if raw then .ok [] else parseContent inv ctx
    return [.directive inv raw children]
  | custom _ run => run inv ctx

end Directive

end StructuredText

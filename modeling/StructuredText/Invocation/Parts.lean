import StructuredText.Invocation.FieldMarker
import StructuredText.Invocation.Options
import StructuredText.Shape.Basic
import StructuredText.Text.Lines

/-!
# Parts of a directive block

The block of a directive is the text after its marker and the indented lines below, out of their
margin. The shape of the directive decides how the block is divided:

* up to the first blank line stand the arguments and, from the first field on, the options;
* after it stands the content;
* a directive without arguments has content where the arguments would stand;
* a directive without arguments and options has nothing but content.

Of several things wrong with a block, the first option at fault is reported, then the number of
arguments, then content that is not allowed.
-/

namespace StructuredText

/-- Why a directive block cannot be divided. -/
inductive BlockError where
  | tooFewArguments (required supplied : Nat)
  | tooManyArguments (maximum supplied : Nat)
  | notAField
  | option (cause : OptionError)
  | duplicateOption (name : Text)
  | contentNotPermitted
  deriving DecidableEq, Repr

/-- The wording for a name that was given twice. -/
def duplicateMessage (name : Text) : String := s!"duplicate option \"{String.ofList name}\""

namespace BlockError

/-- The wording of the error, without final full stop. -/
def message : BlockError → String
  | tooFewArguments required supplied =>
    s!"{required} argument(s) required, {supplied} supplied"
  | tooManyArguments maximum supplied =>
    s!"maximum {maximum} argument(s) allowed, {supplied} supplied"
  | notAField => "invalid option block"
  | option cause => cause.message
  | duplicateOption name => "invalid option data: " ++ duplicateMessage name
  | contentNotPermitted => "no content permitted"

end BlockError

/-- A directive block divided into its parts. -/
structure Parts where
  arguments : List Text
  options : Options
  content : List Text
  /-- The index of the first content line in the document. -/
  contentOffset : Nat
  deriving DecidableEq, Repr

/-- The value of a field from the rest of its first line and the lines below; blank text is none. -/
def fieldValue (first : Text) (below : List Text) : Option Text :=
  let value := Text.trim (Text.ofLines (first :: Text.dropMargin below))
  if value = [] then none else some value

/-- Reads the fields of an option block one after the other and adds them to `acc`. -/
def readFields (spec : OptionSpec) (acc : Options) : List Text → Except BlockError Options
  | [] => .ok acc
  | line :: below =>
    match fieldMarker? line with
    | none => .error .notAField
    | some (name, first) =>
      match spec.convert name (fieldValue first (below.takeWhile Text.continuesBlock)) with
      | .error cause => .error (.option cause)
      | .ok value =>
        match acc.insert? name value with
        | none => .error (.duplicateOption name)
        | some acc => readFields spec acc (below.dropWhile Text.continuesBlock)
termination_by ls => ls.length
decreasing_by
  have := (List.dropWhile_sublist Text.continuesBlock (l := below)).length_le
  simp only [List.length_cons]
  omega

namespace Shape

/-- The arguments in the lines where arguments stand. -/
def readArguments (shape : Shape) (lines : List Text) : Except BlockError (List Text) :=
  let text := Text.ofLines lines
  let words := Text.words text
  if words.length < shape.required then
    .error (.tooFewArguments shape.required words.length)
  else if shape.maxArguments < words.length then
    if shape.finalWhitespace then .ok (Text.splitWords (shape.maxArguments - 1) text)
    else .error (.tooManyArguments shape.maxArguments words.length)
  else .ok words

/-- The lines of a block without blank lines at the end and without a blank first line, and the
index of the line they begin at. -/
def blockBody (lines : List Text) (offset : Nat) : List Text × Nat :=
  match Text.dropTrailingBlanks lines with
  | [] => ([], offset)
  | l :: ls => if Text.isBlank l then (ls, offset + 1) else (l :: ls, offset)

/-- Divides a block, whose first line is the text after the marker, according to the shape; `offset`
is the index of the marker's line. -/
def divide (shape : Shape) (lines : List Text) (offset : Nat) : Except BlockError Parts := do
  let (body, start) := blockBody lines offset
  let head := body.takeWhile fun l => !Text.isBlank l
  let tail := body.dropWhile fun l => !Text.isBlank l
  let accepts := shape.options.acceptsOptions
  let before := if accepts then head.takeWhile fun l => !isField l else head
  let fields := if accepts then head.dropWhile fun l => !isField l else []
  let options ← readFields shape.options ∅ fields
  let (content, contentOffset) :=
    if !shape.takesArguments && !accepts then (body, start)
    else if !shape.takesArguments && before ≠ [] then (before ++ tail, start)
    else (tail.drop 1, start + head.length + 1)
  let leading := (content.takeWhile Text.isBlank).length
  let content := content.dropWhile Text.isBlank
  let arguments ← if shape.takesArguments then shape.readArguments before else .ok []
  if content ≠ [] ∧ !shape.content then throw .contentNotPermitted
  return { arguments, options, content, contentOffset := contentOffset + leading }

end Shape

end StructuredText

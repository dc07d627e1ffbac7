import StructuredText.Text.Letters
import StructuredText.Text.Lowercase
import StructuredText.Text.Numeral

/-!
# Option kinds

The value of a directive's option is checked and brought into a standard form according to the
option's kind. The standard form is a fixed point: converting it again changes nothing.
-/

namespace StructuredText

/-- How the value of an option is checked and converted. -/
inductive OptionKind where
  /-- No value is allowed. -/
  | flag
  /-- Any text; a missing value is the empty text. -/
  | unchanged
  /-- Any text that is not blank. -/
  | unchangedRequired
  /-- An integer greater than zero. -/
  | positiveInt
  /-- An integer that is not negative. -/
  | nonNegativeInt
  /-- One of the listed values, in any letter case. -/
  | choice (values : List Text)
  /-- Class names separated by white space. -/
  | classNames
  /-- A reference to a resource, from which white space is removed. -/
  | uri
  deriving DecidableEq, Repr

/-- Why a value does not fit an option's kind. -/
inductive ValueError where
  | notPermitted (value : Text)
  | missing
  | notInteger (value : Text)
  | notPositive
  | negative
  | notListed (value : Text) (choices : List Text)
  | notClassName (value : Text)
  deriving DecidableEq, Repr

namespace ValueError

/-- The wording of the error, without final full stop. -/
def message : ValueError → String
  | notPermitted v => s!"no argument is permitted; \"{String.ofList v}\" supplied"
  | missing => "argument required but none supplied"
  | notInteger v => s!"invalid literal for int(): \"{String.ofList v}\""
  | notPositive => "negative or zero value; must be positive"
  | negative => "negative value; must be positive or zero"
  | notListed v choices =>
    let listed := ", ".intercalate (choices.map fun c => s!"\"{String.ofList c}\"")
    s!"\"{String.ofList v}\" unknown; choose from {listed}"
  | notClassName v => s!"cannot make \"{String.ofList v}\" into a class name"

end ValueError

/-- The value, if there is one that is not blank. -/
def requireValue : Option Text → Except ValueError Text
  | some v => if Text.isBlank v then .error .missing else .ok v
  | none => .error .missing

/-- The integer that a value denotes once trimmed. -/
def readInteger (v : Text) : Except ValueError Int :=
  match Text.integer64? (Text.trim v) with
  | some n => .ok n
  | none => .error (.notInteger (Text.trim v))

/-- The text without hyphens at either end. -/
def trimHyphens (t : Text) : Text :=
  ((t.dropWhile (· == '-')).reverse.dropWhile (· == '-')).reverse

/-- The class name made from a word: lower case, a hyphen for every character that is neither letter
nor number, and no hyphens at the ends. -/
def className (word : Text) : Text :=
  trimHyphens ((lowercase word).map fun c => if isAlphanumeric c then c else '-')

namespace OptionKind

/-- The standard form of a value, absent or present, of this kind. -/
def convert (kind : OptionKind) (value : Option Text) : Except ValueError (Option Text) :=
  match kind with
  | flag => match value with
    | some v => if Text.isBlank v then .ok none else .error (.notPermitted v)
    | none => .ok none
  | unchanged => .ok (some (value.getD []))
  | unchangedRequired => do
    let v ← requireValue value
    return some v
  | positiveInt => do
    let n ← readInteger (← requireValue value)
    if n < 1 then throw .notPositive
    return some (Text.ofNat n.toNat)
  | nonNegativeInt => do
    let n ← readInteger (← requireValue value)
    if n < 0 then throw .negative
    return some (Text.ofNat n.toNat)
  | choice values => do
    let v := lowercase (Text.trim (← requireValue value))
    if values.contains v then return some v else throw (.notListed v values)
  | classNames => do
    let v ← requireValue value
    let classes := (Text.words v).map className
    if classes.contains [] then throw (.notClassName v)
    return some (Text.join [' '] classes)
  | uri => do
    let v ← requireValue value
    return some (Text.words v).flatten

end OptionKind

end StructuredText

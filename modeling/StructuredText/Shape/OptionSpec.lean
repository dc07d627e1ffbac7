import StructuredText.Shape.OptionKind
import StructuredText.Text.Quoted

/-!
# Option specifications

Which options a directive accepts: none at all, the declared ones with their kinds, or any option
with its value kept as written.
-/

namespace StructuredText

/-- Which options a directive accepts. -/
inductive OptionSpec where
  /-- No options; lines that look like options are plain text. -/
  | none
  /-- The listed options only; the first entry of a name counts. -/
  | declared (options : List (Text × OptionKind))
  /-- Any option, with its value kept as written. -/
  | any
  deriving DecidableEq, Repr

/-- Why an option is refused. -/
inductive OptionError where
  | unknown (name : Text)
  | invalid (name : Text) (value : Option Text) (cause : ValueError)
  deriving DecidableEq, Repr

/-- A value as a diagnostic shows it. -/
def shownValue : Option Text → String
  | some v => s!"Some({String.ofList (quoted v)})"
  | none => "None"

namespace OptionError

/-- The wording of the error, without final full stop. -/
def message : OptionError → String
  | unknown name => s!"unknown option: \"{String.ofList name}\""
  | invalid name value cause =>
    s!"invalid option value: (option: \"{String.ofList name}\"; value: {shownValue value})\n"
      ++ cause.message

end OptionError

namespace OptionSpec

/-- Whether lines are read as options at all. -/
def acceptsOptions : OptionSpec → Bool
  | none => false
  | _ => true

/-- The kind declared for an option. -/
def kind? (name : Text) : List (Text × OptionKind) → Option OptionKind
  | [] => .none
  | (n, k) :: rest => if n = name then some k else kind? name rest

/-- The standard form of an option's value under this specification. -/
def convert (spec : OptionSpec) (name : Text) (value : Option Text) :
    Except OptionError (Option Text) :=
  match spec with
  | none => .error (.unknown name)
  | any => .ok value
  | declared options =>
    match kind? name options with
    | .none => .error (.unknown name)
    | some kind =>
      match kind.convert value with
      | .ok v => .ok v
      | .error cause => .error (.invalid name value cause)

end OptionSpec

end StructuredText

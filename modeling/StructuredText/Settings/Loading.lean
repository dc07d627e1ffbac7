import StructuredText.FileTree
import StructuredText.Settings.Reading

/-!
# Loading settings

Settings come from a file, which is given by its path or else is the nearest of its name in the
current directory and those around it; without a file they have their defaults. Overrides then take
the place of what the file says.

The settings of a file are valid by themselves, and so is what the overrides make of them:
`Extensions.checked_eq_ok` says that exactly valid settings pass the check.
-/

namespace StructuredText

/-- Why settings cannot be loaded. -/
inductive SettingsError where
  /-- Nothing stands at the given path. -/
  | notFound (path : Text)
  /-- What stands there is not a file of text. -/
  | unreadable
  /-- The file does not follow the format of settings files. -/
  | malformed
  | invalid (violation : Violation)
  deriving DecidableEq, Repr

namespace SettingsError

/-- The wording of the error. -/
def message : SettingsError → String
  | notFound path => s!"Configuration file not found: {String.ofList path}"
  | unreadable => "I/O error"
  | malformed => "TOML parse error"
  | invalid violation => s!"Configuration error: {violation.message}"

end SettingsError

/-- Where settings were read. -/
inductive SettingsOrigin where
  /-- The file was given by this path. -/
  | given (path : Text)
  /-- The file was found at this place. -/
  | discovered (place : Place)
  deriving DecidableEq, Repr

/-- Settings and the file that they come from. -/
structure Settings where
  extensions : Extensions := {}
  /-- The file; settings without one have their defaults or come from overrides. -/
  origin : Option SettingsOrigin := none
  deriving DecidableEq, Repr

namespace Extensions

/-- The settings, if they are valid. -/
def checked (e : Extensions) : Except SettingsError Extensions :=
  match e.violation? with
  | some v => .error (.invalid v)
  | none => .ok e

/-- What passes the check is unchanged and valid. -/
theorem checked_eq_ok {e e' : Extensions} : e.checked = .ok e' ↔ e.violation? = none ∧ e' = e := by
  unfold checked
  split
  · next v h => simp [h]
  · next h => simp [h, eq_comm]

end Extensions

namespace Settings

/-- The settings in the file at a place. -/
def readFile (tree : FileTree) (place : Place) : Except SettingsError Extensions :=
  match tree.readText? place with
  | none => .error .unreadable
  | some source =>
    match Extensions.parse? source with
    | none => .error .malformed
    | some e => e.checked

/-- The settings of the file at a path, or of the nearest file of a name. -/
def fromFile (tree : FileTree) (current : Place) (fileName : Text) (path : Option Text) :
    Except SettingsError Settings :=
  match path with
  | some p =>
    match tree.resolve? current p with
    | none => .error (.notFound p)
    | some place => (readFile tree place).map fun e => ⟨e, some (.given p)⟩
  | none =>
    match tree.nearest? fileName current with
    | none => .ok {}
    | some place => (readFile tree place).map fun e => ⟨e, some (.discovered place)⟩

/-- The settings with overrides, which have to leave them valid. -/
def override (overrides : Option Overrides) (s : Settings) : Except SettingsError Settings :=
  match overrides with
  | none => .ok s
  | some o => (o.applyTo s.extensions).checked.map fun e => { s with extensions := e }

/-- The settings of a file, if there is one, with overrides. -/
def load (tree : FileTree) (current : Place) (fileName : Text) (path : Option Text)
    (overrides : Option Overrides) : Except SettingsError Settings :=
  (fromFile tree current fileName path).bind (override overrides)

end Settings

end StructuredText

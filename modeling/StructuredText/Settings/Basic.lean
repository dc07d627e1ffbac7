import StructuredText.Text.Quoted

/-!
# Settings

Which domain's names need no prefix, and which of the optional plugins are enabled. Without a list
of plugins all of them are. Settings are valid if the domain is a simple name and the plugins are
listed by names that are not blank, each once.
-/

namespace StructuredText

/-- The extensions of the markup that are in use. -/
structure Extensions where
  /-- The domain whose directives and roles need no domain before their names. -/
  defaultDomain : Text := "py"
  /-- The enabled plugins; without a list, all of them. -/
  plugins : Option (List Text) := none
  deriving DecidableEq, Repr

/-- The field of a setting that a violation is about. -/
inductive SettingsField where
  | defaultDomain
  | plugins
  deriving DecidableEq, Repr

/-- How settings can be invalid. -/
inductive Violation where
  /-- A name is blank. -/
  | blank (field : SettingsField)
  /-- The default domain is not a simple name. -/
  | notSimple (value : Text)
  /-- A plugin is listed again. -/
  | repeated (plugin : Text)
  deriving DecidableEq, Repr

namespace SettingsField

/-- The field as it is called in a settings file. -/
def label : SettingsField → String
  | defaultDomain => "extensions.default_domain"
  | plugins => "extensions.plugins"

end SettingsField

namespace Violation

/-- The wording of the violation. -/
def message : Violation → String
  | blank field => s!"{field.label} cannot be empty"
  | notSimple value =>
    s!"{SettingsField.defaultDomain.label} must contain only letters, digits, hyphens and "
      ++ s!"underscores, got {String.ofList (quoted value)}"
  | repeated plugin =>
    s!"{SettingsField.plugins.label} lists {String.ofList (quoted plugin)} more than once"

end Violation

/-- Whether a character may stand in a simple name. -/
def isSimpleNameChar (c : Char) : Bool := c.isAlphanum || c == '-' || c == '_'

/-- The first violation in a list of plugins, where `seen` holds the names before it. -/
def pluginViolation? (seen : List Text) : List Text → Option Violation
  | [] => none
  | p :: ps =>
    if Text.isBlank p then some (.blank .plugins)
    else if seen.contains p then some (.repeated p)
    else pluginViolation? (p :: seen) ps

namespace Extensions

/-- Whether the plugin is allowed. -/
def allows (e : Extensions) (name : Text) : Bool :=
  match e.plugins with
  | none => true
  | some ps => ps.contains name

/-- The first violation in the settings: in the default domain, then in the list of plugins. -/
def violation? (e : Extensions) : Option Violation :=
  if Text.isBlank e.defaultDomain then some (.blank .defaultDomain)
  else if !e.defaultDomain.all isSimpleNameChar then some (.notSimple e.defaultDomain)
  else pluginViolation? [] (e.plugins.getD [])

end Extensions

/-- Values that take the place of those in the settings. -/
structure Overrides where
  defaultDomain : Option Text := none
  plugins : Option (List Text) := none
  deriving DecidableEq, Repr

namespace Overrides

/-- The settings with the given values in place of their own. -/
def applyTo (o : Overrides) (e : Extensions) : Extensions :=
  { defaultDomain := o.defaultDomain.getD e.defaultDomain
    plugins := o.plugins.or e.plugins }

end Overrides

end StructuredText

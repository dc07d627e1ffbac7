import StructuredText.Grammar.Directives
import StructuredText.Settings.Basic

/-!
# Plugins

Optional collections of directives and cross-reference roles. A build of the program has some of them
compiled in, and the settings say which of these are enabled; all others are skipped, those that are not
compiled in without an error. Every plugin is in exactly one of the two groups.
-/

namespace StructuredText

/-- A directive that a plugin adds. -/
structure PluginDirective where
  name : Text
  shape : Shape
  /-- Whether invocations are kept exactly as written. -/
  raw : Bool
  deriving DecidableEq, Repr

/-- An optional collection of directives and roles. -/
structure Plugin where
  name : Text
  directives : List PluginDirective
  /-- The cross-reference roles of the plugin. -/
  roles : List Text := []
  deriving DecidableEq, Repr

/-- A title and content. -/
def Shape.headed : Shape := { Shape.oneLine with content := true }

/-- The shape of diagrams: a file name that may be absent, and the diagram itself. -/
def Shape.diagram : Shape := .optionallyTitled .none

namespace Plugin

/-- The plugin of a single kind of diagram. -/
def diagram (name directive : Text) : Plugin := ⟨name, [⟨directive, .diagram, true⟩], []⟩

/-- Content on tabs. -/
def tabs : Plugin :=
  { name := "sphinx-tabs"
    directives :=
      [⟨"tabs", .contentOnly, false⟩,
       ⟨"tab", .headed, false⟩,
       ⟨"group-tab", .headed, false⟩,
       ⟨"code-tab", { Shape.headed with optional := 1 }, true⟩] }

/-- Documentation of a command, taken from the program. -/
def click : Plugin :=
  { name := "sphinx-click", directives := [⟨"click", { required := 1 }, true⟩] }

/-- Documentation of the arguments of a command. -/
def argparse : Plugin :=
  { name := "sphinx-argparse", directives := [⟨"argparse", .contentOnly, true⟩] }

/-- Documentation of a project with its components and examples. -/
def project : Plugin :=
  { name := "esp-docs"
    directives :=
      [⟨"include-build-file", { required := 1 }, true⟩, ⟨"list", .contentOnly, true⟩]
    roles :=
      ["project", "project_file", "project_raw", "idf", "idf_file", "idf_raw", "component",
       "component_file", "component_raw", "example", "example_file", "example_raw",
       "link_to_translation"] }

/-- Documentation taken from the comments of a program. -/
def breathe : Plugin :=
  { name := "breathe"
    directives := [⟨"doxygenstruct", .oneLine, true⟩, ⟨"doxygenfunction", .oneLine, true⟩] }

end Plugin

/-- All plugins. -/
def knownPlugins : List Plugin :=
  [.tabs, .click, .argparse, .project,
   .diagram "sphinxcontrib-blockdiag" "blockdiag",
   .diagram "sphinxcontrib-packetdiag" "packetdiag",
   .diagram "sphinxcontrib-rackdiag" "rackdiag",
   .diagram "sphinxcontrib-seqdiag" "seqdiag",
   .diagram "sphinxcontrib-wavedrom" "wavedrom",
   .breathe]

/-- The plugin of a name. -/
def plugin? (name : Text) : Option Plugin := knownPlugins.find? fun p => p.name = name

/-- Why directives and roles cannot be registered. -/
inductive ExtensionError where
  /-- The default domain is not among the known domains. -/
  | unknownDomain (name : Text)
  /-- The settings list a plugin that does not exist. -/
  | unknownPlugin (name : Text)
  deriving DecidableEq, Repr

namespace ExtensionError

/-- The wording of the error. -/
def message : ExtensionError → String
  | unknownDomain name => s!"Unknown default domain \"{String.ofList name}\""
  | unknownPlugin name => s!"Unknown plugin \"{String.ofList name}\""

end ExtensionError

/-- A build of the program. -/
structure Build where
  /-- Whether the plugin of a name is compiled in. -/
  compiles : Text → Bool

/-- The build with all plugins. -/
def Build.full : Build := ⟨fun _ => true⟩

/-- The plugins, divided into those in use and the others. -/
structure PluginSelection where
  enabled : List Plugin
  skipped : List Plugin
  deriving DecidableEq, Repr

namespace PluginSelection

/-- Whether the plugin of this name is in use. -/
def uses (s : PluginSelection) (name : Text) : Bool := s.enabled.any fun p => p.name = name

end PluginSelection

namespace Extensions

/-- Whether a plugin is in use: it is compiled in, and the settings allow it. -/
def uses (e : Extensions) (build : Build) (p : Plugin) : Bool :=
  build.compiles p.name && e.allows p.name

/-- The division of the plugins that the settings ask for in a build. A listed plugin has to exist, but
need not be compiled in. -/
def selectIn (build : Build) (e : Extensions) : Except ExtensionError PluginSelection :=
  match (e.plugins.getD []).find? fun name => (plugin? name).isNone with
  | some name => .error (.unknownPlugin name)
  | none =>
    .ok
      { enabled := knownPlugins.filter (e.uses build)
        skipped := knownPlugins.filter fun p => !e.uses build p }

/-- The division in the build with all plugins. -/
def selectPlugins (e : Extensions) : Except ExtensionError PluginSelection := e.selectIn .full

end Extensions

end StructuredText

import StructuredText.Domain.Catalog
import StructuredText.Passthrough.Plugin
import StructuredText.Passthrough.Policy
import StructuredText.Registry

/-!
# Registering passthroughs

Every directive and every role that a registry knows is replaced by one that keeps the invocation.
What is to be registered is a list of names with their directives and one of names with their roles,
both made from the registry as it is before; a later entry of a list wins over an earlier one of the
same name. So the special directives win over those of the grammar and of the domains, and the
enabled plugins win over all.

Registration fails before anything is registered, if at all: first if the settings list a plugin
that does not exist, then if there are domains and the default one is not among them.
-/

namespace StructuredText

namespace Passthrough

/-- The roles of the grammar that are kept. -/
def grammarRoleList : List (Text × Role) :=
  ("download", Role.reference) :: genericRoleNames.map fun n => (n, Role.generic)

/-- The names under which a role of a domain is kept. A cross-reference role needs no domain before
its name, whatever its domain; a generic one does, unless its domain is the default. -/
def roleNames (e : CatalogEntry Role) : List Text :=
  match e.item.kind with
  | .reference => [e.name, e.qualified]
  | .generic => e.names

/-- The roles of the domains that are kept. -/
def domainRoleList (catalog : Catalog) : List (Text × Role) :=
  catalog.roles.flatMap fun e => (roleNames e).map fun n => (n, e.item.kept)

/-- The roles of plugins. -/
def pluginRoleList (ps : List Plugin) : List (Text × Role) :=
  ps.flatMap fun p => p.roles.map fun n => (n, Role.reference)

/-- All roles to be registered. -/
def roleList (catalog : Catalog) (ps : List Plugin) : List (Text × Role) :=
  grammarRoleList ++ domainRoleList catalog ++ pluginRoleList ps

/-- The directives of the domains: all of them under their qualified names, and then those of the
default domain under their bare names too. -/
def domainDirectiveList (catalog : Catalog) : List (Text × Directive) :=
  catalog.directives.map (fun e => (e.qualified, e.item.wrapped true))
    ++ (catalog.directives.filter CatalogEntry.isDefault).map
      fun e => (e.name, e.item.wrapped true)

/-- The directives of the grammar. The one that defines a role has a shape of its own. -/
def grammarDirectiveList (base : NameTable Directive) : List (Text × Directive) :=
  (roleDirectiveName, .passthrough .roleDefinition true)
    :: (base.entries.filter fun e => e.1 ≠ roleDirectiveName).map
      fun e => (e.1, e.2.wrapped (isRaw e.1))

/-- The directives of a documentation generator. -/
def specialDirectiveList : List (Text × Directive) :=
  let single : List (Text × Directive × Bool) :=
    [("glossary", .glossary, false), ("literalinclude", .literalInclude, true),
     ("toctree", .tocTree, true), ("only", .only, true), ("highlight", .highlight, true),
     ("todo", .todo, true)]
  single.map (fun e => (e.1, e.2.1.wrapped e.2.2))
    ++ versionChangeNames.map (fun n => (n, Directive.versionChange.wrapped true))
    ++ objectTypes.map
      fun t => (objectDirectiveName t, Directive.objectDocumentation.wrapped false)

/-- The directives of plugins. -/
def pluginDirectiveList (ps : List Plugin) : List (Text × Directive) :=
  ps.flatMap fun p => p.directives.map fun d => (d.name, .passthrough d.shape d.raw)

/-- All directives to be registered. -/
def directiveList (catalog : Catalog) (base : NameTable Directive) (ps : List Plugin) :
    List (Text × Directive) :=
  domainDirectiveList catalog ++ grammarDirectiveList base ++ specialDirectiveList
    ++ pluginDirectiveList ps

/-- What was registered. Names that were registered twice count twice. -/
structure Summary where
  directives : Nat
  roles : Nat
  /-- The plugins in use. -/
  plugins : List Text
  /-- The plugins that are not. -/
  skippedPlugins : List Text
  deriving DecidableEq, Repr

/-- The settings' default domain, if it is known or if there are no domains at all. -/
def checkDomain (domains : Domains) (name : Text) : Except ExtensionError Unit :=
  if !domains.isEmpty && (domains.find? name).isNone then .error (.unknownDomain name) else .ok ()

/-- Replaces every directive and role that a registry knows by one that keeps the invocation, in a
build of the program. -/
def registerIn (build : Build) (r : Registry) (e : Extensions) :
    Except ExtensionError (Registry × Summary) := do
  let selection ← e.selectIn build
  checkDomain r.domains e.defaultDomain
  let catalog := r.domains.catalog e.defaultDomain
  let directives := directiveList catalog r.baseDirectives selection.enabled
  let roles := roleList catalog selection.enabled
  return ((r.registerRoles roles).registerDirectives directives,
    { directives := directives.length
      roles := roles.length
      plugins := selection.enabled.map Plugin.name
      skippedPlugins := selection.skipped.map Plugin.name })

/-- The registry of a documentation generator in which everything is kept as written, in a build of
the program. -/
def registryIn (build : Build) (e : Extensions) : Except ExtensionError Registry :=
  (registerIn build .documentation e).map Prod.fst

/-- Registration in the build with all plugins. -/
def register (r : Registry) (e : Extensions) : Except ExtensionError (Registry × Summary) :=
  registerIn .full r e

/-- The registry of a documentation generator in the build with all plugins. -/
def registry (e : Extensions) : Except ExtensionError Registry := registryIn .full e

end Passthrough

end StructuredText

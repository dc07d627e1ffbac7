import StructuredText.Passthrough.Registration

/-!
# Registering in place

A registry that a caller holds is changed in place, one entry at a time. What has been registered
stays registered, whatever becomes of the rest; so everything that can fail has to come before the
first entry. `install` does what `register` describes to a registry in place: it first looks at the
settings and at the domains, then makes the list of all entries from the registry as it finds it, and
then registers them one after the other and counts them.
-/

namespace StructuredText

namespace Passthrough

/-- One thing to be registered. -/
inductive Entry where
  | directive (name : Text) (item : Directive)
  | role (name : Text) (item : Role)

/-- Directives as entries. -/
def directiveEntries (ds : List (Text × Directive)) : List Entry :=
  ds.map fun d => .directive d.1 d.2

/-- Roles as entries. -/
def roleEntries (rs : List (Text × Role)) : List Entry := rs.map fun r => .role r.1 r.2

/-- The entries of a plugin: its directives and then its roles. -/
def pluginEntries (p : Plugin) : List Entry :=
  directiveEntries (pluginDirectiveList [p]) ++ roleEntries (pluginRoleList [p])

/-- All entries, in the order in which they are registered. -/
def entryList (catalog : Catalog) (base : NameTable Directive) (ps : List Plugin) : List Entry :=
  roleEntries grammarRoleList ++ roleEntries (domainRoleList catalog)
    ++ directiveEntries (domainDirectiveList catalog)
    ++ directiveEntries (grammarDirectiveList base)
    ++ directiveEntries specialDirectiveList
    ++ ps.flatMap pluginEntries

/-- How much was registered. -/
structure Count where
  directives : Nat
  roles : Nat
  deriving DecidableEq, Repr

namespace Count

/-- Nothing. -/
def zero : Count := ⟨0, 0⟩

/-- One more entry. -/
def add (n : Count) : Entry → Count
  | .directive .. => { n with directives := n.directives + 1 }
  | .role .. => { n with roles := n.roles + 1 }

end Count

/-- The registry with one more entry. -/
def Entry.registerIn (r : Registry) : Entry → Registry
  | directive name d => r.registerDirective name d
  | role name item => r.registerRole name item

/-- Registers the entries one after the other and counts them. -/
def installEntries (n : Count) : List Entry → StateM Registry Count
  | [] => pure n
  | entry :: entries => do
    modify fun r => entry.registerIn r
    installEntries (n.add entry) entries

/-- A computation on a registry in place. What it has registered stays registered if it fails. -/
abbrev Installer := ExceptT ExtensionError (StateM Registry)

/-- Installs the entries that come from the registry as it is now, if its domains allow it. -/
def installFrom (e : Extensions) (selection : PluginSelection) (r : Registry) :
    Installer Summary := do
  MonadExcept.ofExcept (checkDomain r.domains e.defaultDomain)
  let n ← installEntries .zero
    (entryList (r.domains.catalog e.defaultDomain) r.baseDirectives selection.enabled)
  return {
    directives := n.directives
    roles := n.roles
    plugins := selection.enabled.map Plugin.name
    skippedPlugins := selection.skipped.map Plugin.name }

/-- Replaces every directive and role that the registry knows by one that keeps the invocation, in
place. -/
def install (e : Extensions) : Installer Summary := do
  let selection ← MonadExcept.ofExcept e.selectPlugins
  installFrom e selection (← get)

end Passthrough

end StructuredText

import StructuredText.Domain.Documentation
import StructuredText.Grammar.Alias
import StructuredText.Grammar.Application

/-!
# Registries

A registry knows directives and roles by name: those of the grammar, those registered on top of it,
and those of the domains. A name is looked up in lower case, and the first of these that knows it
answers:

1. the registered ones by the name itself,
2. the registered ones by the name that it is an alias of,
3. those of the grammar by that name,
4. for a name with a colon, the domain before the first colon.
-/

namespace StructuredText

/-- Directives and roles by name. -/
structure Registry where
  directives : NameTable Directive := ∅
  roles : NameTable Role := ∅
  baseDirectives : NameTable Directive := ∅
  baseRoles : NameTable Role := ∅
  domains : Domains := ∅

/-- The parts of a name before and after its first colon. -/
def splitColon? : Text → Option (Text × Text)
  | [] => none
  | c :: t => if c = ':' then some ([], t) else (splitColon? t).map fun p => (c :: p.1, p.2)

namespace Registry

/-- The registry that knows nothing. -/
def empty : Registry := {}

/-- The registry with the directives and roles of the grammar. -/
def withBaseGrammar : Registry :=
  { baseDirectives := NameTable.ofList grammarDirectives
    baseRoles := NameTable.ofList grammarRoles }

/-- Registers a directive, in place of any other of this name. -/
def registerDirective (r : Registry) (name : Text) (d : Directive) : Registry :=
  { r with directives := r.directives.insert (lowercase name) d }

/-- Registers a role, in place of any other of this name. -/
def registerRole (r : Registry) (name : Text) (role : Role) : Registry :=
  { r with roles := r.roles.insert (lowercase name) role }

/-- Registers directives from first to last. -/
def registerDirectives (r : Registry) (ds : List (Text × Directive)) : Registry :=
  ds.foldl (fun r d => r.registerDirective d.1 d.2) r

/-- Registers roles from first to last. -/
def registerRoles (r : Registry) (rs : List (Text × Role)) : Registry :=
  rs.foldl (fun r e => r.registerRole e.1 e.2) r

/-- Registers a domain, in place of any other of its name. -/
def registerDomain (r : Registry) (d : Domain) : Registry :=
  { r with domains := r.domains.register d }

/-- Registers the directives of a documentation generator. -/
def registerApplication (r : Registry) : Registry := r.registerDirectives applicationDirectives

/-- The registry of a documentation generator: the grammar, the domains, and its own directives. -/
def documentation : Registry :=
  { withBaseGrammar with domains := documentationDomains }.registerApplication

/-- Looks a name up in lower case: registered, registered under the name it is an alias of, in the
grammar, and in a domain. -/
def lookUp {α : Type} (registered base : NameTable α) (alias? : Text → Option Text)
    (ofDomain : Text → Text → Option α) (name : Text) : Option α :=
  let name := lowercase name
  let canonical := (alias? name).getD name
  (registered.find? name).or <|
    (registered.find? canonical).or <|
      (base.find? canonical).or <|
        (splitColon? name).bind fun p => ofDomain p.1 p.2

/-- The directive that a name stands for. -/
def directive? (r : Registry) (name : Text) : Option Directive :=
  lookUp r.directives r.baseDirectives directiveAlias? r.domains.directive? name

/-- The role that a name stands for. -/
def role? (r : Registry) (name : Text) : Option Role :=
  lookUp r.roles r.baseRoles roleAlias? r.domains.role? name

end Registry

end StructuredText

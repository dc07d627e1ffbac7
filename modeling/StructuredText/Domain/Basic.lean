import StructuredText.Directive
import StructuredText.NameTable
import StructuredText.Role.Basic

/-!
# Domains

A domain groups directives and roles under its name. It may extend another domain and then also has
everything of that domain that it does not define itself. The lineage of a domain is the chain of
domains it draws on, beginning with itself; a chain that would come back to a domain already on it
ends there. Look-ups go through the lineage and take the first hit.

The lineage is found by taking each domain out of the collection as it is met, so that it cannot be
met again and the chain cannot be longer than the collection.
-/

namespace StructuredText

/-- A named group of directives and roles. -/
structure Domain where
  name : Text
  /-- The name of the domain that this one extends. -/
  parent : Option Text := none
  /-- Directives by name, without the domain's name before it. -/
  directives : NameTable Directive := ∅
  /-- Roles by name, without the domain's name before it. -/
  roles : NameTable Role := ∅

/-- The known domains by name. -/
abbrev Domains := NameTable Domain

namespace Domain

/-- The domain with directives that share one implementation. -/
def withDirectives (d : Domain) (names : List Text) (directive : Directive) : Domain :=
  { d with directives := d.directives.insertAll (names.map fun n => (n, directive)) }

/-- The domain with roles that share one implementation. -/
def withRoles (d : Domain) (names : List Text) (role : Role) : Domain :=
  { d with roles := d.roles.insertAll (names.map fun n => (n, role)) }

end Domain

namespace Domains

/-- Adds a domain, in place of any other of its name. -/
def register (ds : Domains) (d : Domain) : Domains := ds.insert d.name d

/-- The chain of domains that begins with the one of this name and follows the extended domains. -/
def lineage (ds : Domains) (name : Text) : List Domain :=
  match _h : ds.find? name with
  | none => []
  | some d =>
    d :: match d.parent with
      | none => []
      | some parent => lineage (ds.erase name) parent
termination_by ds.size
decreasing_by exact NameTable.size_erase_lt ‹_›

/-- The directive of a domain, possibly one it has from a domain it extends. -/
def directive? (ds : Domains) (domain name : Text) : Option Directive :=
  (ds.lineage domain).findSome? fun d => d.directives.find? name

/-- The role of a domain, possibly one it has from a domain it extends. -/
def role? (ds : Domains) (domain name : Text) : Option Role :=
  (ds.lineage domain).findSome? fun d => d.roles.find? name

end Domains

end StructuredText

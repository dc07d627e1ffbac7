import StructuredText.Domain.Basic

/-!
# The catalog of domains

Everything that the domains contribute, in one list of directives and one of roles: domain by
domain in the order of their names, and within a domain by name. What a domain has from another one
is listed under it too, unless it has an entry of its own by that name.
-/

namespace StructuredText

/-- One directive or role of a domain. -/
structure CatalogEntry (α : Type) where
  /-- The domain through which the entry is found. -/
  domain : Text
  /-- The name without the domain. -/
  name : Text
  item : α
  /-- Whether the domain is the default one, so that the bare name stands for the entry too. -/
  isDefault : Bool

/-- All directives and roles of all domains. -/
structure Catalog where
  directives : List (CatalogEntry Directive)
  roles : List (CatalogEntry Role)

/-- The name of an entry of a domain, as a document writes it. -/
def qualifiedName (domain name : Text) : Text := domain ++ ':' :: name

namespace CatalogEntry

variable {α : Type}

/-- The name with the domain before it. -/
def qualified (e : CatalogEntry α) : Text := qualifiedName e.domain e.name

/-- The names under which a document reaches the entry. -/
def names (e : CatalogEntry α) : List Text :=
  if e.isDefault then [e.qualified, e.name] else [e.qualified]

end CatalogEntry

namespace Catalog

/-- Whether the domains contribute nothing. -/
def isEmpty (c : Catalog) : Bool := c.directives.isEmpty && c.roles.isEmpty

end Catalog

/-- The tables laid over one another, the first one on top. -/
def overlay {α : Type} (tables : List (NameTable α)) : NameTable α :=
  tables.foldr (fun top below => below.insertAll top.entries) ∅

namespace Domains

/-- The entries that a domain contributes, taken from the tables of its lineage. -/
def entriesOf {α : Type} (ds : Domains) (default : Text) (table : Domain → NameTable α)
    (d : Domain) : List (CatalogEntry α) :=
  (overlay ((ds.lineage d.name).map table)).entries.map fun e =>
    { domain := d.name, name := e.1, item := e.2, isDefault := decide (d.name = default) }

/-- The catalog of the domains, where `default` names the default domain. -/
def catalog (ds : Domains) (default : Text) : Catalog :=
  let domains := ds.entries.map Prod.snd
  { directives := domains.flatMap (ds.entriesOf default Domain.directives)
    roles := domains.flatMap (ds.entriesOf default Domain.roles) }

end Domains

end StructuredText

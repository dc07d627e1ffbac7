import StructuredText.Proofs.Domain.Catalog
import StructuredText.Registry

/-!
# How registries come about

A registry begins empty or with the grammar, and then domains, directives and roles are registered in
any order. `Assembled` says that a registry came about so. Whatever was registered, the directives of
the grammar stand under names in lower case without a colon (`Assembled.lowercase_of_base`,
`Assembled.colon_not_mem_of_base`), and every domain stands under its own name
(`Assembled.wellNamed`).

The registry of a documentation generator came about so (`assembled_documentation`).
-/

namespace StructuredText

namespace Registry

/-- A registry as a caller can build it. -/
inductive Assembled : Registry → Prop where
  | empty : Assembled empty
  | withBaseGrammar : Assembled withBaseGrammar
  | registerDomain {r : Registry} (h : Assembled r) (d : Domain) : Assembled (r.registerDomain d)
  | registerDirective {r : Registry} (h : Assembled r) (name : Text) (d : Directive) :
      Assembled (r.registerDirective name d)
  | registerRole {r : Registry} (h : Assembled r) (name : Text) (role : Role) :
      Assembled (r.registerRole name role)

/-! ## What every such registry has in common -/

/-- What holds of the names of the grammar holds of the names that a registry has from it. -/
theorem Assembled.of_base {P : Text → Prop} (hall : ∀ e ∈ directiveTable, P e.1) {r : Registry}
    (h : r.Assembled) {k : Text} {d : Directive} (hd : r.baseDirectives.find? k = some d) : P k := by
  induction h with
  | empty => cases hd
  | withBaseGrammar =>
    rcases NameTable.mem_insertAll (NameTable.findEntry_eq_some_mem hd) with h | h
    · obtain ⟨e, he, heq⟩ := List.mem_map.1 h
      rw [Prod.mk.injEq] at heq
      rw [← heq.1]
      exact hall e he
    · cases h
  | registerDomain _ _ ih => exact ih hd
  | registerDirective _ _ _ ih => exact ih hd
  | registerRole _ _ _ ih => exact ih hd

/-- The names of the grammar are in lower case. -/
theorem Assembled.lowercase_of_base {r : Registry} (h : r.Assembled) {k : Text} {d : Directive}
    (hd : r.baseDirectives.find? k = some d) : lowercase k = k := by
  have hall : ∀ e ∈ directiveTable, lowercase e.1 = e.1 := by decide +kernel
  exact h.of_base (P := fun k => lowercase k = k) hall hd

/-- The names of the grammar do not look like qualified ones. -/
theorem Assembled.colon_not_mem_of_base {r : Registry} (h : r.Assembled) {k : Text} {d : Directive}
    (hd : r.baseDirectives.find? k = some d) : ':' ∉ k := by
  have hall : ∀ e ∈ directiveTable, ':' ∉ e.1 := by decide
  exact h.of_base (P := fun k => ':' ∉ k) hall hd

/-- Every domain stands under its own name. -/
theorem Assembled.wellNamed {r : Registry} (h : r.Assembled) : r.domains.WellNamed := by
  induction h with
  | empty => exact Domains.wellNamed_empty
  | withBaseGrammar => exact Domains.wellNamed_empty
  | registerDomain _ d ih => exact ih.register d
  | registerDirective _ _ _ ih => exact ih
  | registerRole _ _ _ ih => exact ih

/-! ## Runs of registrations -/

theorem Assembled.registerDomains {r : Registry} (h : r.Assembled) (ds : List Domain) :
    (ds.foldl Registry.registerDomain r).Assembled := by
  induction ds generalizing r with
  | nil => exact h
  | cons d ds ih => exact ih (h.registerDomain d)

theorem Assembled.registerDirectives {r : Registry} (h : r.Assembled)
    (ds : List (Text × Directive)) : (r.registerDirectives ds).Assembled := by
  induction ds generalizing r with
  | nil => exact h
  | cons e ds ih => exact ih (h.registerDirective e.1 e.2)

theorem foldl_registerDomain (r : Registry) (ds : List Domain) :
    ds.foldl Registry.registerDomain r =
      { r with domains := ds.foldl Domains.register r.domains } := by
  induction ds generalizing r with
  | nil => rfl
  | cons d ds ih => rw [List.foldl_cons, ih]; rfl

theorem assembled_documentation : documentation.Assembled := by
  have hdomains := Assembled.withBaseGrammar.registerDomains
    [Domain.c, .cpp, .javaScript, .math, .python, .markup, .standard]
  rw [foldl_registerDomain] at hdomains
  exact hdomains.registerDirectives applicationDirectives

end Registry

end StructuredText

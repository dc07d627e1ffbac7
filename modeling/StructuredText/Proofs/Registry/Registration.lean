import StructuredText.Proofs.NameTable
import StructuredText.Proofs.Role.Native

/-!
# What registrations change

Registrations insert into the two tables of registered directives and roles, under names in lower
case, and leave everything else as it was (`registerDirectives_same`, `registerRoles_same`). After a
run of them a name stands for the last directive that was registered under it, or for what it stood
for (`find?_registerDirectives`).

The registry of a documentation generator is a run of registrations on top of the grammar and the
domains, so that it is known which tables it has (`documentation_same`). Its roles are the library's
own (`nativeRoles_documentation`).
-/

namespace StructuredText

namespace Registry

/-! ## What a run of registrations changes -/

theorem find?_registerDirective (r : Registry) (name k : Text) (d : Directive) :
    (r.registerDirective name d).directives.find? k =
      if k = lowercase name then some d else r.directives.find? k :=
  NameTable.find?_insert _ _ _ _

/-- A name that is registered stands for what it was registered with. -/
theorem directive?_registerDirective (r : Registry) (name : Text) (d : Directive) :
    (r.registerDirective name d).directive? name = some d := by
  rw [directive?, lookUp, find?_registerDirective, if_pos rfl]
  rfl

/-- Registrations are insertions of the names in lower case, and change nothing else. -/
theorem registerDirectives_eq (r : Registry) (ds : List (Text × Directive)) :
    r.registerDirectives ds =
      { r with directives := r.directives.insertAll (ds.map fun e => (lowercase e.1, e.2)) } := by
  induction ds generalizing r with
  | nil => rfl
  | cons e ds ih => exact ih (r.registerDirective e.1 e.2)

theorem registerRoles_eq (r : Registry) (rs : List (Text × Role)) :
    r.registerRoles rs =
      { r with roles := r.roles.insertAll (rs.map fun e => (lowercase e.1, e.2)) } := by
  induction rs generalizing r with
  | nil => rfl
  | cons e rs ih => exact ih (r.registerRole e.1 e.2)

theorem directives_registerDirectives (r : Registry) (ds : List (Text × Directive)) :
    (r.registerDirectives ds).directives =
      r.directives.insertAll (ds.map fun e => (lowercase e.1, e.2)) := by
  rw [registerDirectives_eq]

theorem roles_registerRoles (r : Registry) (rs : List (Text × Role)) :
    (r.registerRoles rs).roles = r.roles.insertAll (rs.map fun e => (lowercase e.1, e.2)) := by
  rw [registerRoles_eq]

/-- **After registrations a name stands for the last directive that was registered under it**, or for
what it stood for. -/
theorem find?_registerDirectives (r : Registry) (ds : List (Text × Directive)) (k : Text) :
    (r.registerDirectives ds).directives.find? k =
      ((ds.reverse.find? fun e => lowercase e.1 = k).map Prod.snd).or (r.directives.find? k) := by
  rw [directives_registerDirectives, NameTable.find?_insertAll, ← List.map_reverse, List.find?_map,
    Option.map_map]
  rfl

theorem registerDirectives_append (r : Registry) (as bs : List (Text × Directive)) :
    r.registerDirectives (as ++ bs) = (r.registerDirectives as).registerDirectives bs :=
  List.foldl_append

theorem of_find?_registerDirectives {r : Registry} {ds : List (Text × Directive)} {k : Text}
    {d : Directive} (h : (r.registerDirectives ds).directives.find? k = some d) :
    (∃ e ∈ ds, lowercase e.1 = k ∧ e.2 = d) ∨
      (∀ e ∈ ds, lowercase e.1 ≠ k) ∧ r.directives.find? k = some d := by
  rw [find?_registerDirectives] at h
  rcases Option.or_eq_some_iff.1 h with h | ⟨hnone, h⟩
  · obtain ⟨e, he, hd⟩ := Option.map_eq_some_iff.1 h
    have hmem := List.mem_reverse.1 (List.mem_of_find?_eq_some he)
    exact Or.inl ⟨e, hmem, by simpa using List.find?_some he, hd⟩
  · refine Or.inr ⟨fun e he hk => ?_, h⟩
    have hno := List.find?_eq_none.1 (Option.map_eq_none_iff.1 hnone) e (List.mem_reverse.2 he)
    exact hno (by simp [hk])

theorem find?_registerDirectives_ne_none {r : Registry} {ds : List (Text × Directive)} {k : Text}
    (h : ∃ e ∈ ds, lowercase e.1 = k) : (r.registerDirectives ds).directives.find? k ≠ none := by
  obtain ⟨e, he, hk⟩ := h
  intro hnone
  rw [find?_registerDirectives, Option.or_eq_none_iff, Option.map_eq_none_iff] at hnone
  exact List.find?_eq_none.1 hnone.1 e (List.mem_reverse.2 he) (by simp [hk])

theorem registerDirectives_same (r : Registry) (ds : List (Text × Directive)) :
    (r.registerDirectives ds).baseDirectives = r.baseDirectives ∧
      (r.registerDirectives ds).domains = r.domains ∧
      (r.registerDirectives ds).roles = r.roles ∧
      (r.registerDirectives ds).baseRoles = r.baseRoles := by
  rw [registerDirectives_eq]
  exact ⟨rfl, rfl, rfl, rfl⟩

theorem registerRoles_same (r : Registry) (rs : List (Text × Role)) :
    (r.registerRoles rs).directives = r.directives ∧
      (r.registerRoles rs).baseDirectives = r.baseDirectives ∧
      (r.registerRoles rs).domains = r.domains ∧
      (r.registerRoles rs).baseRoles = r.baseRoles := by
  rw [registerRoles_eq]
  exact ⟨rfl, rfl, rfl, rfl⟩

/-- A second run of the same registrations changes nothing. -/
theorem registerRoles_registerDirectives_again (r : Registry) (rs : List (Text × Role))
    (ds : List (Text × Directive)) :
    (((r.registerRoles rs).registerDirectives ds).registerRoles rs).registerDirectives ds =
      (r.registerRoles rs).registerDirectives ds := by
  simp only [registerDirectives_eq, registerRoles_eq, NameTable.insertAll_insertAll]

theorem mem_registerDirectives {r : Registry} {ds : List (Text × Directive)} {e : Text × Directive}
    (h : e ∈ (r.registerDirectives ds).directives.entries) :
    (∃ f ∈ ds, f.2 = e.2) ∨ e ∈ r.directives.entries := by
  rw [directives_registerDirectives] at h
  refine (NameTable.mem_insertAll h).imp_left fun h => ?_
  obtain ⟨f, hf, rfl⟩ := List.mem_map.1 h
  exact ⟨f, hf, rfl⟩

theorem mem_registerRoles {r : Registry} {rs : List (Text × Role)} {e : Text × Role}
    (h : e ∈ (r.registerRoles rs).roles.entries) : (∃ f ∈ rs, f.2 = e.2) ∨ e ∈ r.roles.entries := by
  rw [roles_registerRoles] at h
  refine (NameTable.mem_insertAll h).imp_left fun h => ?_
  obtain ⟨f, hf, rfl⟩ := List.mem_map.1 h
  exact ⟨f, hf, rfl⟩

theorem find?_registerRoles_ne_none {r : Registry} {rs : List (Text × Role)} {k : Text}
    (h : ∃ e ∈ rs, lowercase e.1 = k) : (r.registerRoles rs).roles.find? k ≠ none := by
  obtain ⟨e, he, rfl⟩ := h
  have hmem : lowercase e.1 ∈ (rs.map fun e => (lowercase e.1, e.2)).map Prod.fst :=
    List.mem_map_of_mem (List.mem_map_of_mem he)
  rw [roles_registerRoles, ← Option.isSome_iff_ne_none]
  exact NameTable.isSome_find?_insertAll.2 (Or.inl hmem)

/-! ## The registry of a documentation generator -/

/-- What a documentation generator starts from, besides the directives that it registers. -/
theorem documentation_same : documentation.baseDirectives = NameTable.ofList grammarDirectives ∧
    documentation.baseRoles = NameTable.ofList grammarRoles ∧ documentation.roles = ∅ ∧
      documentation.domains = documentationDomains := by
  obtain ⟨hbase, hdomains, hroles, hbaseRoles⟩ := registerDirectives_same
    { withBaseGrammar with domains := documentationDomains } applicationDirectives
  exact ⟨hbase, hbaseRoles, hroles, hdomains⟩

/-- The roles of the grammar stand under their names and aliases. -/
theorem role?_documentation_of_grammar {name : Text} {role : Role}
    (h : (NameTable.ofList grammarRoles).find? (canonicalName roleAlias? name) = some role) :
    documentation.role? name = some role := by
  obtain ⟨-, hbaseRoles, hroles, -⟩ := documentation_same
  have hnone : ∀ k, documentation.roles.find? k = none := fun k => by rw [hroles]; rfl
  refine lookUp_eq_some_iff.2 (.grammar (hnone _) (hnone _) ?_)
  rw [hbaseRoles]
  exact h

/-- The roles of a documentation generator are the library's own. -/
theorem isNative_documentation : (∀ e ∈ documentation.roles.entries, e.2.IsNative) ∧
    (∀ e ∈ documentation.baseRoles.entries, e.2.IsNative) ∧
      ∀ d ∈ documentation.domains.entries, ∀ e ∈ d.2.roles.entries, e.2.IsNative := by
  obtain ⟨-, hbase, hroles, hdomains⟩ := documentation_same
  rw [hbase, hroles, hdomains]
  refine ⟨fun e he => ?_, fun e he => ?_, by decide +kernel⟩
  · cases he
  · rcases NameTable.mem_insertAll he with he | he
    · have hall : ∀ e ∈ grammarRoles, e.2.IsNative := by decide
      exact hall e he
    · cases he

theorem nativeRoles_documentation : documentation.NativeRoles :=
  nativeRoles_of_entries isNative_documentation.1 isNative_documentation.2.1
    isNative_documentation.2.2

end Registry

end StructuredText

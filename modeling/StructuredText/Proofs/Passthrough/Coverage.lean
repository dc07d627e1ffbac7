import StructuredText.Proofs.Passthrough.Interception

/-!
# No directive is left out

Registration replaces what nobody registered: every name that a look-up finds in the grammar, by an
alias or in a domain stands for a directive that is kept afterwards, in whatever letter case it is
written, whatever domains there are and whatever was registered before. In the registry of a
documentation generator nothing else is left, so that a name stands there for a directive that is
kept, or for none (`isKept_directive?_register`).

The look-up after registration asks the same four places in the same order. Each of the places that
answered before is overtaken by one of the first two: the grammar's name is registered, and so is the
whole text of a name that leads into a domain.
-/

namespace StructuredText

namespace Registry

/-- Whether a look-up of a directive succeeds although none is registered under the name, nor under
the name that it is an alias of. -/
def FindsUnregistered (r : Registry) (name : Text) : Prop :=
  r.directives.find? (lowercase name) = none ∧
    r.directives.find? (canonicalName directiveAlias? name) = none ∧
      (r.directive? name).isSome = true

instance (r : Registry) (name : Text) : Decidable (r.FindsUnregistered name) :=
  inferInstanceAs (Decidable (_ ∧ _ ∧ _))

/-- Such a look-up ends in the grammar or in a domain. -/
theorem FindsUnregistered.cases {r : Registry} {name : Text} (h : r.FindsUnregistered name) :
    (∃ d, r.baseDirectives.find? (canonicalName directiveAlias? name) = some d) ∨
      ∃ p d, splitColon? (lowercase name) = some p ∧ r.domains.directive? p.1 p.2 = some d := by
  obtain ⟨hname, hcanonical, hsome⟩ := h
  obtain ⟨d, hd⟩ := Option.isSome_iff_exists.1 hsome
  cases lookUp_eq_some_iff.1 hd with
  | registered hd => rw [hname] at hd; cases hd
  | canonical _ hd => rw [hcanonical] at hd; cases hd
  | grammar _ _ hd => exact Or.inl ⟨d, hd⟩
  | domain _ _ _ hsplit hd => exact Or.inr ⟨_, d, hsplit, hd⟩

/-- What is registered under a name or the one that it is an alias of is found. -/
theorem directive?_ne_none {r : Registry} {name : Text}
    (h : r.directives.find? (lowercase name) ≠ none ∨
      r.directives.find? (canonicalName directiveAlias? name) ≠ none) :
    ∃ d, r.directive? name = some d := by
  cases hname : r.directives.find? (lowercase name) with
  | some d => exact ⟨d, lookUp_eq_some_iff.2 (.registered hname)⟩
  | none =>
    obtain ⟨d, hd⟩ := Option.ne_none_iff_exists'.1 (h.resolve_left (not_not_intro hname))
    exact ⟨d, lookUp_eq_some_iff.2 (.canonical hname hd)⟩

end Registry

namespace Passthrough

variable {r r' : Registry} {e : Extensions} {s : Summary}

/-- What was found although it was not registered is registered afterwards. -/
theorem find?_register_of_findsUnregistered (h : register r e = .ok (r', s)) (hr : r.Assembled)
    {name : Text} (hname : r.FindsUnregistered name) :
    r'.directives.find? (lowercase name) ≠ none ∨
      r'.directives.find? (Registry.canonicalName directiveAlias? name) ≠ none := by
  rcases hname.cases with ⟨d, hd⟩ | ⟨p, d, hsplit, hd⟩
  · exact Or.inr (find?_register_of_base h hd (hr.lowercase_of_base hd))
  · exact Or.inl
      (find?_register_of_domain h hr.wellNamed hsplit hd (lowercase_lowercase name))

/-- What is then found is kept, since none of the caller's directives answers to the name. -/
theorem isKept_of_findsUnregistered (h : register r e = .ok (r', s)) {name : Text}
    (hname : r.FindsUnregistered name) {d : Directive}
    (hfound : r'.directives.find? (lowercase name) ≠ none ∨
      r'.directives.find? (Registry.canonicalName directiveAlias? name) ≠ none)
    (hd : r'.directive? name = some d) : d.IsKept := by
  obtain ⟨hno, hnoCanonical, -⟩ := hname
  cases Registry.lookUp_eq_some_iff.1 hd with
  | registered hd =>
    rcases of_find?_register h hd with hkept | ⟨hold, -⟩
    · exact hkept
    · rw [hno] at hold; cases hold
  | canonical _ hd =>
    rcases of_find?_register h hd with hkept | ⟨hold, -⟩
    · exact hkept
    · rw [hnoCanonical] at hold; cases hold
  | grammar hnone hnoneCanonical _ =>
    exact absurd hnone (hfound.resolve_right (absurd hnoneCanonical))
  | domain hnone hnoneCanonical _ _ _ =>
    exact absurd hnone (hfound.resolve_right (absurd hnoneCanonical))

/-- **Interception of directives is total.** In a registry that a caller assembled in any way, every
name that stood for a directive of the grammar or of a domain stands for one that is kept once
registration has succeeded; and in the registry of a documentation generator a name stands for
nothing else. -/
theorem isKept_directive?_register :
    (∀ (r r' : Registry) (e : Extensions) (s : Summary), r.Assembled →
      register r e = .ok (r', s) → ∀ name, r.FindsUnregistered name →
        ∃ d, r'.directive? name = some d ∧ d.IsKept) ∧
    ∀ (e : Extensions) (r : Registry), registry e = .ok r → ∀ name,
      r.directive? name = none ∨ ∃ d, r.directive? name = some d ∧ d.IsKept := by
  constructor
  · intro r r' e s hr h name hname
    have hfound := find?_register_of_findsUnregistered h hr hname
    obtain ⟨d, hd⟩ := Registry.directive?_ne_none hfound
    exact ⟨d, hd, isKept_of_findsUnregistered h hname hfound hd⟩
  · intro e r h name
    cases hd : r.directive? name with
    | none => exact Or.inl rfl
    | some d => exact Or.inr ⟨d, rfl, registry_keepsDirectives h name d hd⟩

/-- Two domains that extend each other, a directive registered for an alias of the grammar, and one
under a name of its own. -/
def entangledRegistry : Registry :=
  Registry.withBaseGrammar
    |>.registerDomain
      (({ name := "lib", parent := some "core" } : Domain).withDirectives ["a:b"] .nameSpace)
    |>.registerDomain
      (({ name := "core", parent := some "lib" } : Domain).withDirectives ["run"] .object)
    |>.registerDirective "sourcecode" .only
    |>.registerDirective "Mine" .todo

theorem assembled_entangledRegistry : entangledRegistry.Assembled :=
  (((Registry.Assembled.withBaseGrammar.registerDomain _).registerDomain _).registerDirective
    _ _).registerDirective _ _

theorem findsUnregistered_entangledRegistry :
    entangledRegistry.FindsUnregistered "Code-Block" ∧
      entangledRegistry.FindsUnregistered "LIB:Run" ∧
        entangledRegistry.FindsUnregistered "core:A:b" ∧
          ¬entangledRegistry.FindsUnregistered "sourcecode" := by
  decide +kernel

/-- An alias, an inherited name and a name with a second colon, all in mixed letter case; and a name
that would read a file in the registry of a documentation generator. -/
theorem isKept_directive?_register_entangledRegistry :
    entangledRegistry.Assembled ∧
      (∃ r' s, register entangledRegistry { defaultDomain := "lib" } = .ok (r', s) ∧
        (entangledRegistry.FindsUnregistered "Code-Block" ∧
          ∃ d, r'.directive? "Code-Block" = some d ∧ d.IsKept) ∧
        (entangledRegistry.FindsUnregistered "LIB:Run" ∧
          ∃ d, r'.directive? "LIB:Run" = some d ∧ d.IsKept) ∧
        entangledRegistry.FindsUnregistered "core:A:b" ∧
          ∃ d, r'.directive? "core:A:b" = some d ∧ d.IsKept) ∧
      ∃ r, registry {} = .ok r ∧
        (r.directive? "Include" = none ∨ ∃ d, r.directive? "Include" = some d ∧ d.IsKept) := by
  have hdomain : checkDomain entangledRegistry.domains "lib" = .ok () := by decide +kernel
  have hplugins : Extensions.selectPlugins { defaultDomain := "lib" } = .ok ⟨knownPlugins, []⟩ := rfl
  obtain ⟨r', s, h⟩ := exists_register hplugins hdomain
  obtain ⟨halias, hinherited, hcolon, -⟩ := findsUnregistered_entangledRegistry
  have hkept := isKept_directive?_register.1 _ _ _ _ assembled_entangledRegistry h
  obtain ⟨r, hregistry⟩ := exists_registry_default
  exact ⟨assembled_entangledRegistry,
    ⟨r', s, h, ⟨halias, hkept _ halias⟩, ⟨hinherited, hkept _ hinherited⟩, hcolon, hkept _ hcolon⟩,
    r, hregistry, isKept_directive?_register.2 _ _ hregistry _⟩

end Passthrough

end StructuredText

import Mathlib.Data.List.Flatten
import Mathlib.Data.List.Nodup
import StructuredText.Passthrough.Registration
import StructuredText.Proofs.Registry.Assembly
import StructuredText.Proofs.Registry.Registration
import StructuredText.Proofs.Text.Lowercase

/-!
# Every directive is intercepted

After registration a name stands for a directive that keeps the invocation, unless it stood for a
directive that a caller had registered and that nothing replaced (`directive?_register`). The names
that a look-up reaches through the grammar, an alias or a domain are all registered, under the very
text that the look-up asks for first.

The registry of a documentation generator has no directives but those that are replaced. So it holds
of it without exception that every directive is kept (`registry_keepsDirectives`); and its roles are
the library's own (`nativeRoles_registry`).
-/

namespace StructuredText

/-- Whether a directive keeps the invocation. -/
def Directive.IsKept (d : Directive) : Prop := ∃ shape raw, d = .passthrough shape raw

theorem Directive.isKept_wrapped (d : Directive) (raw : Bool) : (d.wrapped raw).IsKept :=
  ⟨d.shape, raw, rfl⟩

namespace Registry

/-- Whether every directive that a registry knows keeps the invocation. -/
def KeepsDirectives (r : Registry) : Prop := ∀ name d, r.directive? name = some d → d.IsKept

end Registry

/-- The parts of a name with a colon make up the name. -/
theorem eq_of_splitColon? {name : Text} {p : Text × Text} (h : splitColon? name = some p) :
    name = qualifiedName p.1 p.2 := by
  induction name generalizing p with
  | nil => cases h
  | cons c t ih =>
    rw [splitColon?] at h
    split at h
    · next hc =>
      cases h
      rw [hc]
      rfl
    · obtain ⟨q, hq, rfl⟩ := Option.map_eq_some_iff.1 h
      rw [ih hq]
      rfl

namespace Passthrough

/-! ## The list of directives to be registered -/

section DirectiveList

variable {catalog : Catalog} {base : NameTable Directive} {ps : List Plugin}

theorem isKept_of_mem_directiveList {e : Text × Directive}
    (h : e ∈ directiveList catalog base ps) : e.2.IsKept := by
  simp only [directiveList, List.mem_append] at h
  rcases h with ((h | h) | h) | h
  · simp only [domainDirectiveList, List.mem_append, List.mem_map] at h
    rcases h with ⟨f, -, rfl⟩ | ⟨f, -, rfl⟩
    · exact Directive.isKept_wrapped _ _
    · exact Directive.isKept_wrapped _ _
  · rcases List.mem_cons.1 h with rfl | h
    · exact ⟨_, _, rfl⟩
    · obtain ⟨f, -, rfl⟩ := List.mem_map.1 h
      exact Directive.isKept_wrapped _ _
  · simp only [specialDirectiveList, List.mem_append, List.mem_map] at h
    rcases h with (⟨f, -, rfl⟩ | ⟨n, -, rfl⟩) | ⟨t, -, rfl⟩
    · exact Directive.isKept_wrapped _ _
    · exact Directive.isKept_wrapped _ _
    · exact Directive.isKept_wrapped _ _
  · obtain ⟨plugin, -, h⟩ := List.mem_flatMap.1 h
    obtain ⟨d, -, rfl⟩ := List.mem_map.1 h
    exact ⟨_, _, rfl⟩

/-- The names of the grammar are registered. -/
theorem exists_mem_directiveList_of_base {k : Text} {d : Directive} (h : base.find? k = some d) :
    ∃ e ∈ directiveList catalog base ps, e.1 = k := by
  have hmem : ∃ e ∈ grammarDirectiveList base, e.1 = k := by
    by_cases hk : k = roleDirectiveName
    · exact ⟨_, List.mem_cons_self .., hk.symm⟩
    · have hentry := NameTable.findEntry_eq_some_mem h
      refine ⟨(k, d.wrapped (isRaw k)), List.mem_cons_of_mem _ ?_, rfl⟩
      exact List.mem_map.2 ⟨(k, d), List.mem_filter.2 ⟨hentry, by simp [hk]⟩, rfl⟩
  obtain ⟨e, he, hek⟩ := hmem
  exact ⟨e, by simp [directiveList, he], hek⟩

/-- The names that lead into a domain are registered. -/
theorem exists_mem_directiveList_of_catalog {e : CatalogEntry Directive}
    (h : e ∈ catalog.directives) : ∃ f ∈ directiveList catalog base ps, f.1 = e.qualified := by
  refine ⟨(e.qualified, e.item.wrapped true), ?_, rfl⟩
  have hmem : (e.qualified, e.item.wrapped true) ∈ domainDirectiveList catalog :=
    List.mem_append_left _ (List.mem_map.2 ⟨e, h, rfl⟩)
  simp [directiveList, hmem]

theorem exists_mem_directiveList_of_special {k : Text}
    (h : k ∈ specialDirectiveList.map Prod.fst) : ∃ e ∈ directiveList catalog base ps, e.1 = k := by
  obtain ⟨e, he, hek⟩ := List.mem_map.1 h
  exact ⟨e, by simp [directiveList, he], hek⟩

end DirectiveList

/-! ## Look-ups after registration -/

/-- Registration asks for the plugins and for the default domain, and then registers the two lists. -/
theorem registerIn_of_ok {build : Build} {r : Registry} {e : Extensions}
    {selection : PluginSelection} (hs : e.selectIn build = .ok selection)
    (hd : checkDomain r.domains e.defaultDomain = .ok ()) :
    registerIn build r e =
      let catalog := r.domains.catalog e.defaultDomain
      let directives := directiveList catalog r.baseDirectives selection.enabled
      let roles := roleList catalog selection.enabled
      .ok ((r.registerRoles roles).registerDirectives directives,
        { directives := directives.length
          roles := roles.length
          plugins := selection.enabled.map Plugin.name
          skippedPlugins := selection.skipped.map Plugin.name }) := by
  rw [registerIn, hs]
  show (checkDomain r.domains e.defaultDomain).bind _ = _
  rw [hd]
  rfl

theorem registerIn_of_error {build : Build} {r : Registry} {e : Extensions}
    {selection : PluginSelection} {err : ExtensionError} (hs : e.selectIn build = .ok selection)
    (hd : checkDomain r.domains e.defaultDomain = .error err) :
    registerIn build r e = .error err := by
  rw [registerIn, hs]
  show (checkDomain r.domains e.defaultDomain).bind _ = _
  rw [hd]
  rfl

/-- Registration succeeds only if the settings name plugins that exist and a domain that is known. -/
theorem checks_of_registerIn {build : Build} {r r' : Registry} {e : Extensions} {s : Summary}
    (h : registerIn build r e = .ok (r', s)) :
    ∃ selection, e.selectIn build = .ok selection ∧
      checkDomain r.domains e.defaultDomain = .ok () := by
  unfold registerIn at h
  obtain ⟨selection, hs, h⟩ := Except.bind_eq_ok_iff.1 h
  obtain ⟨u, hd, -⟩ := Except.bind_eq_ok_iff.1 h
  exact ⟨selection, hs, hd⟩

/-- What registration gives. -/
theorem registerIn_eq_ok {build : Build} {r r' : Registry} {e : Extensions} {s : Summary}
    (h : registerIn build r e = .ok (r', s)) :
    ∃ selection roles, e.selectIn build = .ok selection ∧
      r' = (r.registerRoles roles).registerDirectives
        (directiveList (r.domains.catalog e.defaultDomain) r.baseDirectives selection.enabled) ∧
      roles = roleList (r.domains.catalog e.defaultDomain) selection.enabled := by
  obtain ⟨selection, hs, hd⟩ := checks_of_registerIn h
  rw [registerIn_of_ok hs hd] at h
  cases h
  exact ⟨selection, _, hs, rfl, rfl⟩

theorem register_eq_ok {r r' : Registry} {e : Extensions} {s : Summary}
    (h : register r e = .ok (r', s)) :
    ∃ selection roles, e.selectPlugins = .ok selection ∧
      r' = (r.registerRoles roles).registerDirectives
        (directiveList (r.domains.catalog e.defaultDomain) r.baseDirectives selection.enabled) ∧
      roles = roleList (r.domains.catalog e.defaultDomain) selection.enabled :=
  registerIn_eq_ok h

/-- The registry of a documentation generator comes from registration. -/
theorem registryIn_eq_ok_iff {build : Build} {e : Extensions} {r : Registry} :
    registryIn build e = .ok r ↔ ∃ s, registerIn build .documentation e = .ok (r, s) := by
  rw [registryIn, Except.map_eq_ok_iff]
  constructor
  · intro h
    obtain ⟨⟨r', s⟩, hr, rfl⟩ := h
    exact ⟨s, hr⟩
  · intro h
    obtain ⟨s, hr⟩ := h
    exact ⟨(r, s), hr, rfl⟩

theorem registry_eq_ok_iff {e : Extensions} {r : Registry} :
    registry e = .ok r ↔ ∃ s, register .documentation e = .ok (r, s) := registryIn_eq_ok_iff

section Register

variable {r r' : Registry} {e : Extensions} {s : Summary}

theorem register_same (h : register r e = .ok (r', s)) :
    r'.baseDirectives = r.baseDirectives ∧ r'.baseRoles = r.baseRoles ∧ r'.domains = r.domains := by
  obtain ⟨selection, roles, -, rfl, -⟩ := register_eq_ok h
  obtain ⟨-, hbase, hdomains, hroles⟩ := r.registerRoles_same roles
  obtain ⟨hbase', hdomains', -, hroles'⟩ := (r.registerRoles roles).registerDirectives_same
    (directiveList (r.domains.catalog e.defaultDomain) r.baseDirectives selection.enabled)
  exact ⟨hbase'.trans hbase, hroles'.trans hroles, hdomains'.trans hdomains⟩

/-- A role that is registered after registration is one that registration adds, or was there before. -/
theorem mem_roles_register (h : register r e = .ok (r', s)) {f : Text × Role}
    (hf : f ∈ r'.roles.entries) :
    (∃ ps, ∃ g ∈ roleList (r.domains.catalog e.defaultDomain) ps, g.2 = f.2) ∨
      f ∈ r.roles.entries := by
  obtain ⟨selection, roles, -, rfl, rfl⟩ := register_eq_ok h
  obtain ⟨-, -, hroles, -⟩ := (r.registerRoles (roleList (r.domains.catalog e.defaultDomain)
    selection.enabled)).registerDirectives_same
      (directiveList (r.domains.catalog e.defaultDomain) r.baseDirectives selection.enabled)
  rw [hroles] at hf
  exact (Registry.mem_registerRoles hf).imp_left fun hg => ⟨_, hg⟩

/-- What is registered under a name after registration is kept, or it was there before and the name
is not one of those that registration uses. -/
theorem of_find?_register (h : register r e = .ok (r', s)) {k : Text} {d : Directive}
    (hd : r'.directives.find? k = some d) :
    d.IsKept ∨ r.directives.find? k = some d ∧ ∃ ps, ∀ f ∈ directiveList
      (r.domains.catalog e.defaultDomain) r.baseDirectives ps, lowercase f.1 ≠ k := by
  obtain ⟨selection, roles, -, rfl, -⟩ := register_eq_ok h
  rcases Registry.of_find?_registerDirectives hd with ⟨f, hf, -, rfl⟩ | ⟨hnot, hold⟩
  · exact Or.inl (isKept_of_mem_directiveList hf)
  · rw [(r.registerRoles_same roles).1] at hold
    exact Or.inr ⟨hold, _, hnot⟩

/-- A name of the grammar is registered after registration. -/
theorem find?_register_of_base (h : register r e = .ok (r', s)) {k : Text} {d : Directive}
    (hd : r.baseDirectives.find? k = some d) (hk : lowercase k = k) :
    r'.directives.find? k ≠ none := by
  obtain ⟨selection, roles, -, rfl, -⟩ := register_eq_ok h
  obtain ⟨f, hf, rfl⟩ := exists_mem_directiveList_of_base hd
  exact Registry.find?_registerDirectives_ne_none ⟨f, hf, hk⟩

/-- A name that leads into a domain is registered after registration. -/
theorem find?_register_of_domain (h : register r e = .ok (r', s))
    (hdomains : r.domains.WellNamed) {k : Text} {p : Text × Text} {d : Directive}
    (hsplit : splitColon? k = some p) (hd : r.domains.directive? p.1 p.2 = some d)
    (hk : lowercase k = k) : r'.directives.find? k ≠ none := by
  obtain ⟨selection, roles, -, rfl, -⟩ := register_eq_ok h
  obtain ⟨entry, hentry, hdomain, hname⟩ := Domains.exists_mem_catalog hdomains e.defaultDomain hd
  obtain ⟨f, hf, hfk⟩ := exists_mem_directiveList_of_catalog hentry
  have hqualified : f.1 = k := by
    rw [hfk, CatalogEntry.qualified, hdomain, hname, ← eq_of_splitColon? hsplit]
  exact Registry.find?_registerDirectives_ne_none ⟨f, hf, by rw [hqualified, hk]⟩

/-- **A look-up after registration finds a directive that is kept**, or one that the caller had
registered under some name that registration did not use. -/
theorem directive?_register (h : register r e = .ok (r', s)) (hr : r.Assembled) {name : Text}
    {d : Directive} (hd : r'.directive? name = some d) :
    d.IsKept ∨ ∃ k, r.directives.find? k = some d ∧ ∃ ps, ∀ f ∈ directiveList
      (r.domains.catalog e.defaultDomain) r.baseDirectives ps, lowercase f.1 ≠ k := by
  obtain ⟨hbaseSame, -, hdomainsSame⟩ := register_same h
  cases Registry.lookUp_eq_some_iff.1 hd with
  | registered hd => exact (of_find?_register h hd).imp_right fun hold => ⟨_, hold⟩
  | canonical hname hd => exact (of_find?_register h hd).imp_right fun hold => ⟨_, hold⟩
  | grammar hname hcanonical hd =>
    -- The grammar is not reached: its names are registered.
    rw [hbaseSame] at hd
    exact absurd hcanonical (find?_register_of_base h hd (hr.lowercase_of_base hd))
  | domain hname hcanonical hno hsplit hd =>
    -- Nor are the domains: their qualified names are registered.
    rw [hdomainsSame] at hd
    exact absurd hname
      (find?_register_of_domain h hr.wellNamed hsplit hd (lowercase_lowercase name))

end Register

/-! ## The registry of a documentation generator -/

/-- The directives of a documentation generator are all replaced. -/
theorem replaced_application {k : Text} {d : Directive}
    (h : Registry.documentation.directives.find? k = some d) (catalog : Catalog)
    (base : NameTable Directive) (ps : List Plugin) :
    ∃ f ∈ directiveList catalog base ps, lowercase f.1 = k := by
  have hall : ∀ n ∈ applicationDirectives.map Prod.fst, n ∈ specialDirectiveList.map Prod.fst := by
    decide +kernel
  rcases Registry.of_find?_registerDirectives h with ⟨e, he, hk, -⟩ | ⟨-, h⟩
  · obtain ⟨f, hf, hfe⟩ :=
      exists_mem_directiveList_of_special (hall e.1 (List.mem_map_of_mem he))
    exact ⟨f, hf, by rw [hfe, hk]⟩
  · cases h

/-- **Every directive of the registry is kept.** -/
theorem registry_keepsDirectives {e : Extensions} {r : Registry} (h : registry e = .ok r) :
    r.KeepsDirectives := by
  intro name d hd
  obtain ⟨s, hr⟩ := registry_eq_ok_iff.1 h
  rcases directive?_register hr Registry.assembled_documentation hd with
    hkept | ⟨k, hold, ps, hnot⟩
  · exact hkept
  · obtain ⟨f, hf, hfk⟩ := replaced_application hold _ _ ps
    exact absurd hfk (hnot f hf)

/-- The directives that win over all others. -/
def strongDirectiveList (ps : List Plugin) : List (Text × Directive) :=
  specialDirectiveList ++ pluginDirectiveList ps

/-- No two of them have a name in common. -/
theorem nodup_strongDirectiveList {ps : List Plugin} (h : ps.Sublist knownPlugins) :
    ((strongDirectiveList ps).map fun f => lowercase f.1).Nodup := by
  have hall : ((strongDirectiveList knownPlugins).map fun f => lowercase f.1).Nodup := by
    decide +kernel
  have hsub : (strongDirectiveList ps).Sublist (strongDirectiveList knownPlugins) :=
    (List.Sublist.refl _).append (h.flatMap _)
  exact hall.sublist (hsub.map _)

theorem find?_of_nodup {ds : List (Text × Directive)}
    (hn : (ds.map fun f => lowercase f.1).Nodup) {f : Text × Directive} (hf : f ∈ ds) :
    ds.find? (fun e => lowercase e.1 = lowercase f.1) = some f := by
  induction ds with
  | nil => cases hf
  | cons e ds ih =>
    rw [List.map_cons, List.nodup_cons] at hn
    rcases List.mem_cons.1 hf with rfl | hf
    · rw [List.find?_cons_of_pos (by simp)]
    · have hne : lowercase e.1 ≠ lowercase f.1 := fun he =>
        hn.1 (he ▸ List.mem_map_of_mem hf)
      rw [List.find?_cons_of_neg (by simp [hne]), ih hn.2 hf]

/-- The plugins in use are some of those that there are. -/
theorem enabled_sublist {build : Build} {e : Extensions} {selection : PluginSelection}
    (hs : e.selectIn build = .ok selection) : selection.enabled.Sublist knownPlugins := by
  unfold Extensions.selectIn at hs
  split at hs
  · cases hs
  · cases hs
    exact List.filter_sublist

/-- They are registered last, so that the first look-up finds them. -/
theorem directive?_registerDirectives_of_mem_strong {ps : List Plugin} (hps : ps.Sublist knownPlugins)
    {f : Text × Directive} (hf : f ∈ strongDirectiveList ps) (r : Registry) (catalog : Catalog)
    (base : NameTable Directive) :
    (r.registerDirectives (directiveList catalog base ps)).directive? f.1 = some f.2 := by
  have hn : ((strongDirectiveList ps).reverse.map fun f => lowercase f.1).Nodup := by
    rw [List.map_reverse, List.nodup_reverse]
    exact nodup_strongDirectiveList hps
  have hfind := find?_of_nodup hn (List.mem_reverse.2 hf)
  rw [directiveList, List.append_assoc, Registry.registerDirectives_append, Registry.directive?,
    Registry.lookUp, Registry.find?_registerDirectives, ← strongDirectiveList, hfind]
  rfl

/-- **The special directives and those of the enabled plugins stand for themselves.** -/
theorem directive?_of_mem_strongDirectiveList {e : Extensions} {r : Registry}
    (h : registry e = .ok r) {selection : PluginSelection}
    (hs : e.selectPlugins = .ok selection) {f : Text × Directive}
    (hf : f ∈ strongDirectiveList selection.enabled) : r.directive? f.1 = some f.2 := by
  obtain ⟨s, hr⟩ := registry_eq_ok_iff.1 h
  obtain ⟨selection', roles, hs', rfl, -⟩ := register_eq_ok hr
  rw [hs, Except.ok.injEq] at hs'
  subst hs'
  exact directive?_registerDirectives_of_mem_strong (enabled_sublist hs) hf _ _ _

/-- A known domain can be the default one. -/
theorem checkDomain_of_isSome {domains : Domains} {name : Text}
    (h : (domains.find? name).isSome = true) : checkDomain domains name = .ok () := by
  rw [checkDomain, if_neg]
  rw [Option.isNone_eq_false_iff.2 h, Bool.and_false]
  exact Bool.false_ne_true

/-- Registration succeeds if the settings name plugins that exist and a domain that is known. -/
theorem exists_register {r : Registry} {e : Extensions} {selection : PluginSelection}
    (hs : e.selectPlugins = .ok selection) (hd : checkDomain r.domains e.defaultDomain = .ok ()) :
    ∃ r' s, register r e = .ok (r', s) :=
  ⟨_, _, registerIn_of_ok hs hd⟩

theorem exists_registry {e : Extensions} {selection : PluginSelection}
    (hs : e.selectPlugins = .ok selection)
    (hd : checkDomain documentationDomains e.defaultDomain = .ok ()) : ∃ r, registry e = .ok r := by
  rw [← Registry.documentation_same.2.2.2] at hd
  obtain ⟨r, s, hr⟩ := exists_register hs hd
  exact ⟨r, registry_eq_ok_iff.2 ⟨s, hr⟩⟩

theorem selectPlugins_default : Extensions.selectPlugins {} = .ok ⟨knownPlugins, []⟩ := rfl

theorem exists_registry_default : ∃ r, registry {} = .ok r := by
  have hknown : (documentationDomains.find? (Extensions.defaultDomain {})).isSome = true := by
    decide +kernel
  exact exists_registry selectPlugins_default (checkDomain_of_isSome hknown)

theorem directive?_only {r : Registry} (h : registry {} = .ok r) :
    r.directive? "only" = some (Directive.only.wrapped true) := by
  have hf : (("only" : Text), Directive.only.wrapped true) ∈ strongDirectiveList knownPlugins :=
    List.mem_append_left _ (by simp [specialDirectiveList])
  exact directive?_of_mem_strongDirectiveList h selectPlugins_default hf

theorem directive?_glossary {r : Registry} (h : registry {} = .ok r) :
    r.directive? "glossary" = some (Directive.glossary.wrapped false) := by
  have hf : (("glossary" : Text), Directive.glossary.wrapped false) ∈
      strongDirectiveList knownPlugins := List.mem_append_left _ (by simp [specialDirectiveList])
  exact directive?_of_mem_strongDirectiveList h selectPlugins_default hf

/-- The roles that registration adds are those that keep the text. -/
theorem of_mem_roleList {catalog : Catalog} {ps : List Plugin} {e : Text × Role}
    (h : e ∈ roleList catalog ps) : e.2 = .generic ∨ e.2 = .reference := by
  simp only [roleList, List.mem_append] at h
  rcases h with (h | h) | h
  · rcases List.mem_cons.1 h with rfl | h
    · exact Or.inr rfl
    · obtain ⟨n, -, rfl⟩ := List.mem_map.1 h
      exact Or.inl rfl
  · obtain ⟨entry, -, h⟩ := List.mem_flatMap.1 h
    obtain ⟨n, -, rfl⟩ := List.mem_map.1 h
    show entry.item.kept = .generic ∨ entry.item.kept = .reference
    unfold Role.kept
    cases entry.item.kind with
    | generic => exact Or.inl rfl
    | reference => exact Or.inr rfl
  · obtain ⟨plugin, -, h⟩ := List.mem_flatMap.1 h
    obtain ⟨n, -, rfl⟩ := List.mem_map.1 h
    exact Or.inr rfl

/-- The roles of the registry are the library's own. -/
theorem nativeRoles_registry {e : Extensions} {r : Registry} (h : registry e = .ok r) :
    r.NativeRoles := by
  obtain ⟨s, hr⟩ := registry_eq_ok_iff.1 h
  obtain ⟨-, hbase, hdomains⟩ := register_same hr
  have hnative := Registry.isNative_documentation
  refine Registry.nativeRoles_of_entries (fun f hf => ?_) ?_ ?_
  · rcases mem_roles_register hr hf with ⟨ps, g, hg, hgf⟩ | hold
    · rw [← hgf]
      rcases of_mem_roleList hg with hkept | hkept <;> rw [hkept] <;> trivial
    · exact hnative.1 f hold
  · rw [hbase]
    exact hnative.2.1
  · rw [hdomains]
    exact hnative.2.2

end Passthrough

end StructuredText

import StructuredText.Proofs.Passthrough.BareRoles

/-!
# What the list of plugins decides

The settings may list plugins in any order and any number of times; only which of them are listed counts.
In every build of the program the plugins in use are those that are listed and compiled in, and the
others are skipped, both in the order of the table (`divides_of_selectIn`); and lists with the same names
give the same registry and the same summary (`registerIn_congr`).

What a registry says about the names of a plugin depends on whether that plugin is in use, and on nothing
else. The names of a plugin are told from all others that can be registered or looked up (`IsSeparate`):
they are written in lower case, stand for no alias and for no entry of a domain, and belong to no other
plugin. So whatever is registered under such a name comes from the plugin itself
(`mem_pluginDirectiveList_of_isSeparate`, `mem_pluginRoleList_of_isSeparate`), which makes the registry
offer the plugin if it is in use (`offers_of_mem_enabled`) and lack it otherwise
(`lacks_of_not_mem_enabled`).
-/

namespace StructuredText

/-! ## The division of the plugins -/

theorem nodup_knownPlugins : knownPlugins.Nodup := by decide +kernel

theorem isSome_plugin?_of_mem {p : Plugin} (h : p ∈ knownPlugins) : (plugin? p.name).isSome = true := by
  rw [plugin?, List.find?_isSome]
  exact ⟨p, h, decide_eq_true rfl⟩

namespace PluginSelection

/-- Whether a selection divides the plugins, in the order of the table, into those with a property and
the others. -/
structure Divides (s : PluginSelection) (P : Plugin → Prop) : Prop where
  mem_enabled : ∀ p, p ∈ s.enabled ↔ p ∈ knownPlugins ∧ P p
  mem_skipped : ∀ p, p ∈ s.skipped ↔ p ∈ knownPlugins ∧ ¬P p
  enabled_sublist : s.enabled.Sublist knownPlugins
  skipped_sublist : s.skipped.Sublist knownPlugins
  /-- Every plugin is in one of the two groups, and there once. -/
  count_eq_one : ∀ p ∈ knownPlugins, (s.enabled ++ s.skipped).count p = 1

theorem divides_filter (inUse : Plugin → Bool) :
    Divides ⟨knownPlugins.filter inUse, knownPlugins.filter fun p => !inUse p⟩
      fun p => inUse p = true where
  mem_enabled p := List.mem_filter
  mem_skipped p := by
    rw [List.mem_filter, Bool.not_eq_true', Bool.not_eq_true]
  enabled_sublist := List.filter_sublist
  skipped_sublist := List.filter_sublist
  count_eq_one p hp := by
    rw [(List.filter_append_perm inUse knownPlugins).count_eq]
    exact List.count_eq_one_of_mem nodup_knownPlugins hp

end PluginSelection

namespace Extensions

variable {build : Build} {e e' : Extensions} {ps ps' : List Text}

theorem uses_iff (hlist : e.plugins = some ps) {p : Plugin} :
    e.uses build p = true ↔ build.compiles p.name = true ∧ p.name ∈ ps := by
  rw [uses, allows, hlist, Bool.and_eq_true, List.contains_iff_mem]

/-- A list of plugins that exist is accepted. -/
theorem selectIn_of_known (hlist : e.plugins = some ps)
    (hknown : ∀ n ∈ ps, ∃ p ∈ knownPlugins, p.name = n) :
    e.selectIn build = .ok ⟨knownPlugins.filter (e.uses build),
      knownPlugins.filter fun p => !e.uses build p⟩ := by
  have hfind : ps.find? (fun n => (plugin? n).isNone) = none := by
    rw [List.find?_eq_none]
    intro n hn
    obtain ⟨p, hp, rfl⟩ := hknown n hn
    rw [Option.isNone_iff_eq_none, ← Option.not_isSome_iff_eq_none, not_not]
    exact isSome_plugin?_of_mem hp
  rw [selectIn, hlist, Option.getD_some, hfind]

/-- **The division of the plugins**: in use are those that are compiled in and listed. -/
theorem divides_of_selectIn (hlist : e.plugins = some ps) {s : PluginSelection}
    (hs : e.selectIn build = .ok s) :
    s.Divides fun p => build.compiles p.name = true ∧ p.name ∈ ps := by
  have hdivides := PluginSelection.divides_filter (e.uses build)
  simp only [uses_iff hlist] at hdivides
  unfold selectIn at hs
  split at hs
  · cases hs
  · cases hs
    exact hdivides

/-- Only the names in the list count. -/
theorem selectIn_congr (hlist : e.plugins = some ps) (hlist' : e'.plugins = some ps')
    (hknown : ∀ n ∈ ps, ∃ p ∈ knownPlugins, p.name = n) (hsame : ∀ n, n ∈ ps' ↔ n ∈ ps) :
    e'.selectIn build = e.selectIn build := by
  have huses : e'.uses build = e.uses build := by
    funext p
    rw [Bool.eq_iff_iff, uses_iff hlist, uses_iff hlist', hsame]
  have hknown' : ∀ n ∈ ps', ∃ p ∈ knownPlugins, p.name = n := by
    intro n hn
    exact hknown n ((hsame n).1 hn)
  rw [selectIn_of_known hlist hknown, selectIn_of_known hlist' hknown', huses]

end Extensions

/-! ## Names that belong to plugins only -/

/-- The names of the directives of a plugin. -/
def Plugin.directiveNames (p : Plugin) : List Text := p.directives.map PluginDirective.name

namespace Passthrough

/-- **Whether a name is told from all others.** It is written in lower case, is neither an alias nor a
qualified name, and is none of the names that are in common use. -/
structure IsSeparate (alias? : Text → Option Text) (common : List Text) (n : Text) : Prop where
  lower : lowercase n = n
  noAlias : alias? n = none
  plain : ':' ∉ n
  uncommon : n ∉ common

namespace IsSeparate

variable {alias? : Text → Option Text} {common : List Text} {n : Text}
  (h : IsSeparate alias? common n)

include h

/-- No qualified name is equal to it, so that an entry of a domain can be registered under it only if it
is the bare name of the entry. -/
theorem eq_name {α : Type} {ds : Domains} {e : CatalogEntry α} (he : ds.Qualifies e.domain e.name)
    {k : Text} (hk : k = e.qualified ∨ k = e.name) (heq : lowercase k = n) : e.name = n := by
  rcases hk with rfl | rfl
  · have hcolon : ':' ∈ e.qualified := colon_mem_qualifiedName _ _
    rw [← he.lower.symm.trans heq] at h
    exact absurd hcolon h.plain
  · exact he.entry.1.symm.trans heq

/-- It stands for nothing if it is not registered and not in the grammar. -/
theorem lookUp_eq_none {α : Type} {registered base : NameTable α}
    (hregistered : registered.find? n = none) (hbase : base.find? n = none)
    (ofDomain : Text → Text → Option α) :
    Registry.lookUp registered base alias? ofDomain n = none := by
  have hcanonical : Registry.canonicalName alias? n = n := by
    rw [Registry.canonicalName, h.lower, h.noAlias, Option.getD_none]
  rw [Option.eq_none_iff_forall_not_mem]
  intro x hx
  cases Registry.lookUp_eq_some_iff.1 hx with
  | registered hfind =>
    rw [h.lower, hregistered] at hfind
    cases hfind
  | canonical _ hfind =>
    rw [hcanonical, hregistered] at hfind
    cases hfind
  | grammar _ _ hfind =>
    rw [hcanonical, hbase] at hfind
    cases hfind
  | domain _ _ _ hsplit _ =>
    rw [h.lower] at hsplit
    apply h.plain
    rw [eq_of_splitColon? hsplit]
    exact colon_mem_qualifiedName _ _

end IsSeparate

/-- The names under which directives are registered for no plugin. -/
def commonDirectiveNames : List Text :=
  ((grammarDirectiveList Registry.documentation.baseDirectives ++ specialDirectiveList).map
      fun f => lowercase f.1)
    ++ documentationDomains.entries.flatMap fun e => e.2.directives.names

/-- The names under which roles are registered for no plugin or stand in the grammar. -/
def commonRoleNames : List Text :=
  (grammarRoleList.map fun f => lowercase f.1) ++ Registry.documentation.baseRoles.names
    ++ documentationDomains.entries.flatMap fun e => e.2.roles.names

theorem isSeparate_directiveName {p : Plugin} (hp : p ∈ knownPlugins) {n : Text}
    (hn : n ∈ p.directiveNames) : IsSeparate directiveAlias? commonDirectiveNames n := by
  have hlower : ∀ p ∈ knownPlugins, ∀ n ∈ p.directiveNames, lowercase n = n := by decide +kernel
  have hnames : ∀ p ∈ knownPlugins, ∀ n ∈ p.directiveNames, directiveAlias? n = none ∧ ':' ∉ n := by
    decide +kernel
  have hcommon : ∀ c ∈ commonDirectiveNames, ∀ p ∈ knownPlugins, c ∉ p.directiveNames := by
    decide +kernel
  obtain ⟨hnoAlias, hplain⟩ := hnames p hp n hn
  exact ⟨hlower p hp n hn, hnoAlias, hplain, fun hmem => hcommon n hmem p hp hn⟩

theorem isSeparate_roleName {p : Plugin} (hp : p ∈ knownPlugins) {n : Text} (hn : n ∈ p.roles) :
    IsSeparate roleAlias? commonRoleNames n := by
  have hnames : ∀ p ∈ knownPlugins, ∀ n ∈ p.roles, roleAlias? n = none ∧ ':' ∉ n := by
    decide +kernel
  have hcommon : ∀ c ∈ commonRoleNames, ∀ p ∈ knownPlugins, c ∉ p.roles := by decide +kernel
  obtain ⟨hnoAlias, hplain⟩ := hnames p hp n hn
  exact ⟨lowercase_pluginRole p hp n hn, hnoAlias, hplain, fun hmem => hcommon n hmem p hp hn⟩

/-- No two plugins have a directive's name in common. -/
theorem eq_of_mem_directiveNames : ∀ p ∈ knownPlugins, ∀ q ∈ knownPlugins, ∀ n ∈ p.directiveNames,
    n ∈ q.directiveNames → p = q := by decide +kernel

/-- No two plugins have a role's name in common. -/
theorem eq_of_mem_roles : ∀ p ∈ knownPlugins, ∀ q ∈ knownPlugins, ∀ n ∈ p.roles,
    n ∈ q.roles → p = q := by decide +kernel

/-! ## What is registered under the name of a plugin -/

/-- The names of a documentation generator's catalog are those of its domains. -/
theorem catalogNames_documentation {default : Text} :
    (∀ e ∈ (Registry.documentation.domains.catalog default).directives,
      documentationDomains.Qualifies e.domain e.name ∧
        e.name ∈ documentationDomains.entries.flatMap fun d => d.2.directives.names) ∧
    ∀ e ∈ (Registry.documentation.domains.catalog default).roles,
      documentationDomains.Qualifies e.domain e.name ∧
        e.name ∈ documentationDomains.entries.flatMap fun d => d.2.roles.names := by
  have hnamed := Registry.assembled_documentation.wellNamed
  have hnames := Domains.unambiguous_documentationDomains
  rw [Registry.documentation_same.2.2.2] at hnamed ⊢
  constructor
  · intro e he
    have hfound := ((Domains.mem_directives_catalog hnamed).1 he).2
    obtain ⟨-, d, hd, hentry⟩ := Domains.mem_of_findSome?_lineage hfound
    exact ⟨hnames.qualifies_of_directive? hfound,
      List.mem_flatMap.2 ⟨d, hd, List.mem_map_of_mem hentry⟩⟩
  · intro e he
    have hfound := ((Domains.mem_roles_catalog hnamed).1 he).2
    obtain ⟨-, d, hd, hentry⟩ := Domains.mem_of_findSome?_lineage hfound
    exact ⟨hnames.qualifies_of_role? hfound,
      List.mem_flatMap.2 ⟨d, hd, List.mem_map_of_mem hentry⟩⟩

section Lists

variable {default : Text} {ps : List Plugin} {n : Text}

/-- Only plugins register a directive under such a name. -/
theorem mem_pluginDirectiveList_of_isSeparate
    (h : IsSeparate directiveAlias? commonDirectiveNames n) {f : Text × Directive}
    (hf : f ∈ directiveList (Registry.documentation.domains.catalog default)
      Registry.documentation.baseDirectives ps) (hname : lowercase f.1 = n) :
    f ∈ pluginDirectiveList ps := by
  have huncommon := h.uncommon
  simp only [commonDirectiveNames, List.map_append, List.mem_append, not_or] at huncommon
  obtain ⟨⟨hgrammar, hspecial⟩, hdomains⟩ := huncommon
  simp only [directiveList, List.mem_append] at hf
  rcases hf with ((hf | hf) | hf) | hf
  · obtain ⟨e, he, hk, -⟩ := of_mem_domainDirectiveList hf
    obtain ⟨hqualifies, hentry⟩ := catalogNames_documentation.1 e he
    rw [h.eq_name hqualifies hk hname] at hentry
    exact absurd hentry hdomains
  · exact absurd (List.mem_map.2 ⟨f, hf, hname⟩) hgrammar
  · exact absurd (List.mem_map.2 ⟨f, hf, hname⟩) hspecial
  · exact hf

/-- Only plugins register a role under such a name. -/
theorem mem_pluginRoleList_of_isSeparate (h : IsSeparate roleAlias? commonRoleNames n)
    {f : Text × Role} (hf : f ∈ roleList (Registry.documentation.domains.catalog default) ps)
    (hname : lowercase f.1 = n) : f ∈ pluginRoleList ps := by
  have huncommon := h.uncommon
  simp only [commonRoleNames, List.mem_append, not_or] at huncommon
  obtain ⟨⟨hgrammar, -⟩, hdomains⟩ := huncommon
  simp only [roleList, List.mem_append] at hf
  rcases hf with (hf | hf) | hf
  · exact absurd (List.mem_map.2 ⟨f, hf, hname⟩) hgrammar
  · obtain ⟨e, he, hk, -⟩ := of_mem_domainRoleList hf
    obtain ⟨hqualifies, hentry⟩ := catalogNames_documentation.2 e he
    rw [h.eq_name hqualifies hk hname] at hentry
    exact absurd hentry hdomains
  · exact hf

variable (hps : ps.Sublist knownPlugins) {p : Plugin} (hp : p ∈ knownPlugins)

include hps hp

/-- A plugin registers its own names only. -/
theorem mem_of_mem_pluginDirectiveList {f : Text × Directive} (hf : f ∈ pluginDirectiveList ps)
    (hname : lowercase f.1 ∈ p.directiveNames) : p ∈ ps := by
  obtain ⟨q, hq, hf⟩ := List.mem_flatMap.1 hf
  obtain ⟨d, hd, rfl⟩ := List.mem_map.1 hf
  have hown : d.name ∈ q.directiveNames := List.mem_map_of_mem hd
  dsimp only at hname
  rw [(isSeparate_directiveName (hps.subset hq) hown).lower] at hname
  rw [eq_of_mem_directiveNames p hp q (hps.subset hq) _ hname hown]
  exact hq

theorem mem_of_mem_pluginRoleList {f : Text × Role} (hf : f ∈ pluginRoleList ps)
    (hname : lowercase f.1 ∈ p.roles) : p ∈ ps := by
  obtain ⟨q, hq, hf⟩ := List.mem_flatMap.1 hf
  obtain ⟨m, hown, rfl⟩ := List.mem_map.1 hf
  dsimp only at hname
  rw [(isSeparate_roleName (hps.subset hq) hown).lower] at hname
  rw [eq_of_mem_roles p hp q (hps.subset hq) _ hname hown]
  exact hq

end Lists

end Passthrough

/-! ## What a registry knows of a plugin -/

namespace Registry

/-- Whether a registry has all directives and roles of a plugin. -/
structure Offers (r : Registry) (p : Plugin) : Prop where
  directive? : ∀ d ∈ p.directives, r.directive? d.name = some (.passthrough d.shape d.raw)
  role? : ∀ n ∈ p.roles, r.role? n = some .reference

/-- Whether a registry has none of the directives and roles of a plugin. -/
structure Lacks (r : Registry) (p : Plugin) : Prop where
  directive? : ∀ d ∈ p.directives, r.directive? d.name = none
  role? : ∀ n ∈ p.roles, r.role? n = none

end Registry

namespace Passthrough

variable {build : Build} {e : Extensions} {r : Registry} {selection : PluginSelection} {p : Plugin}

/-- The registry is what registration makes of the one it starts from. -/
theorem eq_of_registryIn (h : registryIn build e = .ok r)
    (hs : e.selectIn build = .ok selection) :
    r = (Registry.documentation.registerRoles (roleList
        (Registry.documentation.domains.catalog e.defaultDomain) selection.enabled)).registerDirectives
      (directiveList (Registry.documentation.domains.catalog e.defaultDomain)
        Registry.documentation.baseDirectives selection.enabled) := by
  obtain ⟨s, hr⟩ := registryIn_eq_ok_iff.1 h
  obtain ⟨selection', roles, hs', heq, rfl⟩ := registerIn_eq_ok hr
  rw [hs, Except.ok.injEq] at hs'
  rw [heq, hs']

/-- **The registry offers every plugin in use.** -/
theorem offers_of_mem_enabled (h : registryIn build e = .ok r)
    (hs : e.selectIn build = .ok selection) (hp : p ∈ selection.enabled) : r.Offers p := by
  obtain rfl := eq_of_registryIn h hs
  have hps := enabled_sublist hs
  have hknown := hps.subset hp
  constructor
  · intro d hd
    have hf : (d.name, Directive.passthrough d.shape d.raw) ∈ strongDirectiveList selection.enabled :=
      List.mem_append_right _ (List.mem_flatMap.2 ⟨p, hp, List.mem_map.2 ⟨d, hd, rfl⟩⟩)
    exact directive?_registerDirectives_of_mem_strong hps hf _ _ _
  · intro n hn
    have hseparate := isSeparate_roleName hknown hn
    have hf : (n, Role.reference) ∈ roleList
        (Registry.documentation.domains.catalog e.defaultDomain) selection.enabled :=
      List.mem_append_right _ (List.mem_flatMap.2 ⟨p, hp, List.mem_map.2 ⟨n, hn, rfl⟩⟩)
    refine Registry.lookUp_eq_some_iff.2 (.registered ?_)
    rw [(Registry.registerDirectives_same _ _).2.2.1, Registry.roles_registerRoles]
    refine NameTable.find?_insertAll_map hf ?_
    intro f hf hname
    have hplugin := mem_pluginRoleList_of_isSeparate hseparate hf (hname.trans hseparate.lower)
    obtain ⟨q, -, hf⟩ := List.mem_flatMap.1 hplugin
    obtain ⟨m, -, rfl⟩ := List.mem_map.1 hf
    rfl

/-- **The registry lacks every plugin that is not in use.** -/
theorem lacks_of_not_mem_enabled (h : registryIn build e = .ok r)
    (hs : e.selectIn build = .ok selection) (hknown : p ∈ knownPlugins)
    (hp : p ∉ selection.enabled) : r.Lacks p := by
  obtain rfl := eq_of_registryIn h hs
  have hps := enabled_sublist hs
  constructor
  · intro d hd
    have hown : d.name ∈ p.directiveNames := List.mem_map_of_mem hd
    have hseparate := isSeparate_directiveName hknown hown
    have hnew : ∀ f ∈ directiveList (Registry.documentation.domains.catalog e.defaultDomain)
        Registry.documentation.baseDirectives selection.enabled, lowercase f.1 ≠ d.name := by
      intro f hf hname
      have hplugin := mem_pluginDirectiveList_of_isSeparate hseparate hf hname
      exact hp (mem_of_mem_pluginDirectiveList hps hknown hplugin (hname ▸ hown))
    -- A directive that was there before would be registered again, under the same name.
    refine hseparate.lookUp_eq_none ?_ ?_ _
    · rw [Registry.directives_registerDirectives, NameTable.find?_insertAll_map_of_forall_ne hnew,
        (Registry.registerRoles_same _ _).1, Option.eq_none_iff_forall_not_mem]
      intro x hx
      obtain ⟨f, hf, hname⟩ := replaced_application hx _ _ selection.enabled
      exact hnew f hf hname
    · rw [(Registry.registerDirectives_same _ _).1, (Registry.registerRoles_same _ _).2.1,
        Option.eq_none_iff_forall_not_mem]
      intro x hx
      obtain ⟨f, hf, hname⟩ := exists_mem_directiveList_of_base hx
      exact hnew f hf (by rw [hname, hseparate.lower])
  · intro n hn
    have hseparate := isSeparate_roleName hknown hn
    have hnew : ∀ f ∈ roleList (Registry.documentation.domains.catalog e.defaultDomain)
        selection.enabled, lowercase f.1 ≠ n := by
      intro f hf hname
      have hplugin := mem_pluginRoleList_of_isSeparate hseparate hf hname
      exact hp (mem_of_mem_pluginRoleList hps hknown hplugin (hname ▸ hn))
    have huncommon := hseparate.uncommon
    simp only [commonRoleNames, List.mem_append, not_or] at huncommon
    refine hseparate.lookUp_eq_none ?_ ?_ _
    · rw [(Registry.registerDirectives_same _ _).2.2.1, Registry.roles_registerRoles,
        NameTable.find?_insertAll_map_of_forall_ne hnew, Registry.documentation_same.2.2.1]
      rfl
    · rw [(Registry.registerDirectives_same _ _).2.2.2, (Registry.registerRoles_same _ _).2.2.2,
        NameTable.find?_eq_none_iff]
      exact huncommon.1.2

/-- Equal choices give equal results. -/
theorem registerIn_congr {e' : Extensions} (hs : e'.selectIn build = e.selectIn build)
    (hdomain : e'.defaultDomain = e.defaultDomain) (r : Registry) :
    registerIn build r e' = registerIn build r e := by
  rw [registerIn, registerIn, hs, hdomain]

/-- **Only the set of listed plugins matters.** Where the settings list plugins that exist, in use are
those of the list that the build has, and all others are skipped. Settings that list the same plugins for
the same default domain give the same result for every registry. And the registry of a documentation
generator offers the plugins in use and has nothing under the names of the others. -/
theorem registerIn_listed (build : Build) {e : Extensions} {ps : List Text}
    (hlist : e.plugins = some ps) (hknown : ∀ n ∈ ps, ∃ p ∈ knownPlugins, p.name = n) :
    (∃ selection, e.selectIn build = .ok selection ∧
      selection.Divides fun p => build.compiles p.name = true ∧ p.name ∈ ps) ∧
    (∀ (e' : Extensions) (ps' : List Text), e'.plugins = some ps' →
      e'.defaultDomain = e.defaultDomain → (∀ n, n ∈ ps' ↔ n ∈ ps) →
      ∀ r, registerIn build r e' = registerIn build r e) ∧
    ((documentationDomains.find? e.defaultDomain).isSome = true →
      ∃ r, registryIn build e = .ok r ∧ ∀ p ∈ knownPlugins,
        (build.compiles p.name = true ∧ p.name ∈ ps → r.Offers p) ∧
          (¬(build.compiles p.name = true ∧ p.name ∈ ps) → r.Lacks p)) := by
  have hs : e.selectIn build = _ := Extensions.selectIn_of_known hlist hknown
  have hdivides := Extensions.divides_of_selectIn hlist hs
  refine ⟨⟨_, hs, hdivides⟩, ?same, ?names⟩
  case same =>
    intro e' ps' hlist' hdomain hsame r
    exact registerIn_congr (Extensions.selectIn_congr hlist hlist' hknown hsame) hdomain r
  case names =>
    intro hdomain
    have hcheck := checkDomain_of_isSome hdomain
    rw [← Registry.documentation_same.2.2.2] at hcheck
    have hr := registryIn_eq_ok_iff.2 ⟨_, registerIn_of_ok hs hcheck⟩
    refine ⟨_, hr, ?_⟩
    intro p hp
    constructor
    · intro hin
      exact offers_of_mem_enabled hr hs ((hdivides.mem_enabled p).2 ⟨hp, hin⟩)
    · intro hout
      refine lacks_of_not_mem_enabled hr hs hp ?_
      intro hmem
      exact hout ((hdivides.mem_enabled p).1 hmem).2

/-- Two plugins, one of them twice. -/
def repeatedNames : List Text := ["breathe", "sphinx-tabs", "breathe"]

/-- The settings that list these plugins. -/
def repeatedPlugins : Extensions := { defaultDomain := "cpp", plugins := some repeatedNames }

/-- The same plugins in another order. -/
def orderedPlugins : Extensions :=
  { defaultDomain := "cpp", plugins := some ["sphinx-tabs", "breathe"] }

/-- A build without tabs. -/
def tablessBuild : Build := ⟨fun n => n ≠ "sphinx-tabs".toList⟩

/-- In a build that has one of the two plugins, that one is offered; in the full build both are. -/
theorem registerIn_listed_repeatedPlugins :
    (registerIn tablessBuild .documentation repeatedPlugins =
      registerIn tablessBuild .documentation orderedPlugins) ∧
    (∃ r, registryIn tablessBuild repeatedPlugins = .ok r ∧
      r.directive? "doxygenstruct" = some (.passthrough .oneLine true) ∧ r.Lacks .tabs ∧
        r.role? "project" = none) ∧
    ∃ r, registry repeatedPlugins = .ok r ∧ r.Offers .breathe ∧ r.Offers .tabs ∧
      r.directive? "wavedrom" = none := by
  have hlist : repeatedPlugins.plugins = some repeatedNames := rfl
  have hknown : ∀ n ∈ repeatedNames, ∃ p ∈ knownPlugins, p.name = n := by decide +kernel
  have hdomain : (documentationDomains.find? repeatedPlugins.defaultDomain).isSome = true := by
    decide +kernel
  have hsame : ∀ n, n ∈ (["sphinx-tabs", "breathe"] : List Text) ↔ n ∈ repeatedNames := by
    intro n
    simp only [repeatedNames, List.mem_cons, List.not_mem_nil, or_false]
    tauto
  obtain ⟨-, hequal, hnames⟩ := registerIn_listed tablessBuild hlist hknown
  obtain ⟨r, hr, hall⟩ := hnames hdomain
  obtain ⟨-, -, hnames'⟩ := registerIn_listed .full hlist hknown
  obtain ⟨r', hr', hall'⟩ := hnames' hdomain
  refine ⟨(hequal orderedPlugins _ rfl rfl hsame _).symm, ⟨r, hr, ?_, ?_, ?_⟩, r', hr', ?_, ?_, ?_⟩
  · exact ((hall .breathe (by decide)).1 (by decide)).directive?
      ⟨"doxygenstruct", .oneLine, true⟩ (by decide)
  · exact (hall .tabs (by decide)).2 (by decide)
  · exact ((hall .project (by decide)).2 (by decide)).role? "project" (by decide)
  · exact (hall' .breathe (by decide)).1 (by decide)
  · exact (hall' .tabs (by decide)).1 (by decide)
  · exact ((hall' (.diagram "sphinxcontrib-wavedrom" "wavedrom") (by decide)).2
      (by decide)).directive? ⟨"wavedrom", .diagram, true⟩ (by decide)

end Passthrough

end StructuredText

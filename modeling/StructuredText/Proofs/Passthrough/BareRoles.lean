import StructuredText.Proofs.Passthrough.QualifiedNames

/-!
# Which role a bare name stands for

The roles of the default domain are registered under their bare names, and so are the cross-reference
roles of every other domain. Where a name is used for both, the domains take each other's place in the
order of their names, whichever of them is the default one: the last role that is registered under
the name counts (`lastRole?`, `find?_roles_register_bareName`). A name of the default domain keeps its
meaning exactly if that last role is of the same kind; and since a generic role is registered under
its bare name for the default domain only, what can take its place is a cross-reference role of a
domain with a later name (`isGeneric_lastRole?_iff`).
-/

namespace StructuredText

theorem Role.kept_eq_kept_iff {a b : Role} : a.kept = b.kept ↔ a.kind = b.kind := by
  constructor
  · intro h
    rw [← Role.kind_kept a, h, Role.kind_kept]
  · intro h
    rw [Role.kept, h, ← Role.kept]

namespace Passthrough

/-! ## The last role under a name -/

/-- The last role of the domains that is registered under a name in lower case. -/
def lastRole? (catalog : Catalog) (n : Text) : Option (CatalogEntry Role) :=
  catalog.roles.reverse.find? fun f => ((roleNames f).map lowercase).contains n

theorem mem_of_lastRole? {catalog : Catalog} {n : Text} {last : CatalogEntry Role}
    (h : lastRole? catalog n = some last) :
    last ∈ catalog.roles ∧ n ∈ (roleNames last).map lowercase :=
  ⟨List.mem_reverse.1 (List.mem_of_find?_eq_some h), by simpa using List.find?_some h⟩

/-- The names of the plugins' roles are in lower case. -/
theorem lowercase_pluginRole : ∀ p ∈ knownPlugins, ∀ m ∈ p.roles, lowercase m = m := by
  decide +kernel

section Register

variable {r r' : Registry} {e : Extensions} {s : Summary} {selection : PluginSelection} {n : Text}

/-- What a name stands for that no plugin registers. -/
theorem find?_roles_register_bareName (h : register r e = .ok (r', s))
    (hs : e.selectPlugins = .ok selection) (hplugins : ∀ p ∈ selection.enabled, n ∉ p.roles)
    {last : CatalogEntry Role}
    (hlast : lastRole? (r.domains.catalog e.defaultDomain) n = some last) :
    r'.roles.find? n = some last.item.kept := by
  obtain ⟨selection', roles, hs', rfl, rfl⟩ := register_eq_ok h
  rw [hs, Except.ok.injEq] at hs'
  subst hs'
  have hnoPlugin : ∀ f ∈ pluginRoleList selection.enabled, lowercase f.1 ≠ n := by
    intro f hf hlower
    obtain ⟨p, hp, hf⟩ := List.mem_flatMap.1 hf
    obtain ⟨m, hm, rfl⟩ := List.mem_map.1 hf
    dsimp only at hlower
    rw [lowercase_pluginRole p ((enabled_sublist hs).subset hp) m hm] at hlower
    exact hplugins p hp (hlower ▸ hm)
  have hdomains : (domainRoleList (r.domains.catalog e.defaultDomain)).map
      (fun f => (lowercase f.1, f.2)) =
        (r.domains.catalog e.defaultDomain).roles.flatMap fun f =>
          ((roleNames f).map lowercase).map fun m => (m, f.item.kept) := by
    rw [domainRoleList, List.map_flatMap]
    simp only [List.map_map]
    rfl
  rw [(Registry.registerDirectives_same _ _).2.2.1, Registry.roles_registerRoles, roleList,
    List.map_append, List.map_append, NameTable.insertAll, List.foldl_append, List.foldl_append,
    ← NameTable.insertAll, ← NameTable.insertAll, ← NameTable.insertAll,
    NameTable.find?_insertAll_map_of_forall_ne hnoPlugin, hdomains, NameTable.find?_insertAll_flatMap]
  rw [lastRole?] at hlast
  rw [hlast]
  rfl

end Register

/-! ## The last role of a domain's bare name -/

section Domains

variable {ds : Domains} {default n : Text}

/-- The catalog goes through the domains in the order of their names. -/
theorem pairwise_roles_catalog (hnamed : ds.WellNamed) (default : Text) :
    (ds.catalog default).roles.Pairwise fun f g => f.domain = g.domain ∨ f.domain < g.domain := by
  refine (Domains.pairwise_flatMap_entriesOf hnamed default Domain.roles).imp fun {f g} h => ?_
  rcases h with hlt | ⟨heq, -⟩
  · exact Or.inr hlt
  · exact Or.inl heq

/-- The default domain's role is registered under its bare name. -/
theorem mem_roleNames_default {role : Role} (hn : lowercase n = n) :
    n ∈ (roleNames ⟨default, n, role, true⟩).map lowercase :=
  List.mem_map.2 ⟨n, mem_roleNames_iff.2 (Or.inr ⟨Or.inr rfl, rfl⟩), hn⟩

/-- Every other role under the name is one of a domain that does not come later. -/
theorem domain_le_of_lastRole? (hnamed : ds.WellNamed) {last : CatalogEntry Role}
    (hlast : lastRole? (ds.catalog default) n = some last) :
    ∀ f ∈ (ds.catalog default).roles, n ∈ (roleNames f).map lowercase →
      f = last ∨ f.domain = last.domain ∨ f.domain < last.domain := by
  obtain ⟨-, behind, before, hroles, hbehind⟩ := List.find?_eq_some_iff_append.1 hlast
  have horder := pairwise_roles_catalog hnamed default
  rw [← List.pairwise_reverse, hroles, List.pairwise_append, List.pairwise_cons] at horder
  intro f hf hname
  rw [← List.mem_reverse, hroles] at hf
  rcases List.mem_append.1 hf with hf | hf
  · exact absurd (hbehind f hf) (by simpa using hname)
  · rcases List.mem_cons.1 hf with rfl | hf
    · exact Or.inl rfl
    · exact Or.inr (horder.2.1.1 f hf)

theorem exists_lastRole? (hnamed : ds.WellNamed) (hn : lowercase n = n) {role : Role}
    (hrole : ds.role? default n = some role) :
    ∃ last, lastRole? (ds.catalog default) n = some last := by
  have hlisted : ⟨default, n, role, true⟩ ∈ (ds.catalog default).roles :=
    (Domains.mem_roles_catalog hnamed).2 ⟨(decide_eq_true rfl).symm, hrole⟩
  rw [← Option.isSome_iff_exists, lastRole?, List.find?_isSome]
  exact ⟨_, List.mem_reverse.2 hlisted, List.contains_iff_mem.2 (mem_roleNames_default hn)⟩

/-- Of the roles under a name that is no qualified one, those of other domains are
cross-references. -/
theorem of_mem_roleNames (hnamed : ds.WellNamed) (hnames : ds.Unambiguous)
    (hentry : ds.IsEntryName n) {f : CatalogEntry Role} (hf : f ∈ (ds.catalog default).roles)
    (hmem : n ∈ (roleNames f).map lowercase) :
    ds.role? f.domain n = some f.item ∧ (f.item.kind = .reference ∨ f.domain = default) := by
  obtain ⟨hdefault, hfound⟩ := (Domains.mem_roles_catalog hnamed).1 hf
  have hqualifies := hnames.qualifies_of_role? hfound
  obtain ⟨k, hk, heq⟩ := List.mem_map.1 hmem
  rcases mem_roleNames_iff.1 hk with rfl | ⟨hbare, rfl⟩
  · exact absurd (heq.symm.trans hqualifies.lower) (hqualifies.ne_entryName hentry)
  · rw [hqualifies.entry.1] at heq
    refine ⟨heq ▸ hfound, hbare.imp_right fun h => ?_⟩
    rw [hdefault] at h
    exact of_decide_eq_true h

/-- Nothing but a cross-reference role takes the place of one. -/
theorem isReference_lastRole? (hnamed : ds.WellNamed) (hnames : ds.Unambiguous) {role : Role}
    (hrole : ds.role? default n = some role) (hkind : role.kind = .reference)
    {last : CatalogEntry Role} (hlast : lastRole? (ds.catalog default) n = some last) :
    last.item.kind = .reference := by
  obtain ⟨hlisted, hname⟩ := mem_of_lastRole? hlast
  obtain ⟨hfound, hbare⟩ := of_mem_roleNames hnamed hnames
    (hnames.qualifies_of_role? hrole).entry hlisted hname
  rcases hbare with hreference | hdomain
  · exact hreference
  · rw [hdomain, hrole, Option.some.injEq] at hfound
    rw [← hfound]
    exact hkind

/-- **What takes the place of a generic role of the default domain**: a cross-reference role of that
name in a domain that comes later. -/
theorem isGeneric_lastRole?_iff (hnamed : ds.WellNamed) (hnames : ds.Unambiguous) {role : Role}
    (hrole : ds.role? default n = some role) (hkind : role.kind = .generic)
    {last : CatalogEntry Role} (hlast : lastRole? (ds.catalog default) n = some last) :
    last.item.kind = .generic ↔
      ∀ d rival, default < d → ds.role? d n = some rival → rival.kind = .generic := by
  have hentry := (hnames.qualifies_of_role? hrole).entry
  have hbefore := domain_le_of_lastRole? hnamed hlast
  obtain ⟨hlisted, hname⟩ := mem_of_lastRole? hlast
  obtain ⟨hfound, hbare⟩ := of_mem_roleNames hnamed hnames hentry hlisted hname
  constructor
  · intro hgeneric d rival hlt hrival
    have hdomain : last.domain = default := by
      rw [hgeneric] at hbare
      exact hbare.resolve_left RoleKind.noConfusion
    cases hk : rival.kind with
    | generic => rfl
    | reference =>
      -- A cross-reference role would be registered under the name after this one.
      have hrivalListed : ⟨d, n, rival, decide (d = default)⟩ ∈ (ds.catalog default).roles :=
        (Domains.mem_roles_catalog hnamed).2 ⟨rfl, hrival⟩
      have hrivalName : n ∈ (roleNames ⟨d, n, rival, decide (d = default)⟩).map lowercase :=
        List.mem_map.2 ⟨n, mem_roleNames_iff.2 (Or.inr ⟨Or.inl hk, rfl⟩), hentry.1⟩
      have hlater : ¬(d = last.domain ∨ d < last.domain) := by
        rw [hdomain]
        rintro (rfl | hgt)
        · exact List.lt_irrefl _ hlt
        · exact List.lt_asymm hlt hgt
      rcases hbefore _ hrivalListed hrivalName with heq | hle
      · exact absurd (Or.inl (congrArg CatalogEntry.domain heq)) hlater
      · exact absurd hle hlater
  · intro hall
    have hdefaultListed : ⟨default, n, role, true⟩ ∈ (ds.catalog default).roles :=
      (Domains.mem_roles_catalog hnamed).2 ⟨(decide_eq_true rfl).symm, hrole⟩
    rcases hbefore _ hdefaultListed (mem_roleNames_default hentry.1) with heq | heq | hlt
    · rw [← heq]
      exact hkind
    · have hdomain : default = last.domain := heq
      rw [← hdomain, hrole, Option.some.injEq] at hfound
      rw [← hfound]
      exact hkind
    · exact hall _ _ hlt hfound

end Domains

/-- **When a bare role name keeps what it means in the default domain.** Registration keeps it exactly
if the last role under the name is of the same kind. Where names show which of them are qualified, a
cross-reference role is kept whatever other domains define, and a generic one unless a domain that
comes later in the order of the names has a cross-reference role of this name. -/
theorem role?_register_bareName_iff {r r' : Registry} {e : Extensions} {s : Summary}
    (hr : r.Assembled) (h : register r e = .ok (r', s)) {selection : PluginSelection}
    (hs : e.selectPlugins = .ok selection) {n : Text} (hn : lowercase n = n)
    (hplugins : ∀ p ∈ selection.enabled, n ∉ p.roles) {role : Role}
    (hrole : r.domains.role? e.defaultDomain n = some role) :
    (r'.role? n = some role.kept ↔
      ∃ last, lastRole? (r.domains.catalog e.defaultDomain) n = some last ∧
        last.item.kind = role.kind) ∧
    (r.domains.Unambiguous → (r'.role? n = some role.kept ↔
      (role.kind = .generic → ∀ d rival, e.defaultDomain < d →
        r.domains.role? d n = some rival → rival.kind = .generic))) := by
  obtain ⟨last, hlast⟩ := exists_lastRole? hr.wellNamed hn hrole
  have hfind := find?_roles_register_bareName h hs hplugins hlast
  have hlookUp : r'.role? n = some last.item.kept := by
    rw [← hn] at hfind
    exact Registry.lookUp_eq_some_iff.2 (.registered hfind)
  have hkept : r'.role? n = some role.kept ↔ last.item.kind = role.kind := by
    rw [hlookUp, Option.some.injEq, Role.kept_eq_kept_iff]
  refine ⟨?_, fun hnames => ?_⟩
  · rw [hkept]
    constructor
    · exact fun heq => ⟨last, hlast, heq⟩
    · rintro ⟨last', hlast', heq⟩
      rw [hlast, Option.some.injEq] at hlast'
      rw [hlast', heq]
  · rw [hkept]
    cases hk : role.kind with
    | generic =>
      rw [isGeneric_lastRole?_iff hr.wellNamed hnames hrole hk hlast]
      exact ⟨fun hall _ => hall, fun hall => hall rfl⟩
    | reference =>
      have hlastKind := isReference_lastRole? hr.wellNamed hnames hrole hk hlast
      exact ⟨fun _ hgeneric => absurd hgeneric RoleKind.noConfusion, fun _ => hlastKind⟩

/-- One role name in three domains: a cross-reference in the middle one, generic in the others. -/
def rivalRegistry : Registry :=
  Registry.empty
    |>.registerDomain (({ name := "a" } : Domain).withRoles ["x"] (.ofText "emphasis"))
    |>.registerDomain (({ name := "b" } : Domain).withRoles ["x"] .target)
    |>.registerDomain (({ name := "c" } : Domain).withRoles ["x"] (.ofText "strong"))

theorem assembled_rivalRegistry : rivalRegistry.Assembled :=
  ((Registry.Assembled.empty.registerDomain _).registerDomain _).registerDomain _

theorem unambiguous_rivalRegistry : rivalRegistry.domains.Unambiguous :=
  ⟨by decide +kernel, by decide +kernel, by decide +kernel, by decide +kernel⟩

theorem lowercase_rivalName : lowercase "x" = "x" := by decide +kernel

/-- The settings with this default domain and without plugins. -/
def plainSettings (domain : Text) : Extensions := { defaultDomain := domain, plugins := some [] }

theorem selectPlugins_plainSettings (domain : Text) :
    (plainSettings domain).selectPlugins = .ok ⟨[], knownPlugins⟩ := rfl

/-- The last two of the domains keep what their role means. -/
theorem role?_register_rivalRegistry :
    rivalRegistry.Assembled ∧ rivalRegistry.domains.Unambiguous ∧
      ∃ p p' s s', register rivalRegistry (plainSettings "b") = .ok (p, s) ∧
        register rivalRegistry (plainSettings "c") = .ok (p', s') ∧
        p.role? "x" = some .reference ∧ p'.role? "x" = some .generic := by
  have hdomain : checkDomain rivalRegistry.domains "b" = .ok () := by decide +kernel
  have hdomain' : checkDomain rivalRegistry.domains "c" = .ok () := by decide +kernel
  obtain ⟨p, s, h⟩ := exists_register (selectPlugins_plainSettings "b") hdomain
  obtain ⟨p', s', h'⟩ := exists_register (selectPlugins_plainSettings "c") hdomain'
  have hrole : (rivalRegistry.domains.role? "b" "x").map Role.kind = some .reference := by
    decide +kernel
  have hrole' : (rivalRegistry.domains.role? "c" "x").map Role.kind = some .generic := by
    decide +kernel
  obtain ⟨role, hrole, hkind⟩ := Option.map_eq_some_iff.1 hrole
  obtain ⟨role', hrole', hkind'⟩ := Option.map_eq_some_iff.1 hrole'
  -- No domain comes after the last one.
  have hlast : ∀ f ∈ rivalRegistry.domains.entries, ¬"c".toList < f.1 := by decide +kernel
  have hkept := ((role?_register_bareName_iff assembled_rivalRegistry h
    (selectPlugins_plainSettings "b") lowercase_rivalName (fun p hp => by cases hp) hrole).2
      unambiguous_rivalRegistry).2 fun hgeneric => by rw [hkind] at hgeneric; cases hgeneric
  have hkept' := ((role?_register_bareName_iff assembled_rivalRegistry h'
    (selectPlugins_plainSettings "c") lowercase_rivalName (fun p hp => by cases hp) hrole').2
      unambiguous_rivalRegistry).2 fun _ d rival hlt hrival => by
        obtain ⟨⟨d', hd⟩, -⟩ := Domains.mem_of_findSome?_lineage hrival
        exact absurd hlt (hlast _ hd)
  rw [Role.kept, hkind] at hkept
  rw [Role.kept, hkind'] at hkept'
  exact ⟨assembled_rivalRegistry, unambiguous_rivalRegistry, p, p', s, s', h, h', hkept, hkept'⟩

/-- **A bare role name does not always mean what it means in the default domain.** The generic role of
the first domain gives way to the cross-reference role of the second one. -/
theorem not_role?_register_bareName :
    ¬∀ (r r' : Registry) (e : Extensions) (s : Summary) (selection : PluginSelection) (n : Text)
      (role : Role), r.Assembled → register r e = .ok (r', s) →
        e.selectPlugins = .ok selection → lowercase n = n →
        (∀ p ∈ selection.enabled, n ∉ p.roles) →
        r.domains.role? e.defaultDomain n = some role →
          (role.kind = .reference → r'.role? n = some .reference) ∧
            (role.kind = .generic → r'.role? n = some .generic) := by
  intro hall
  have hdomain : checkDomain rivalRegistry.domains "a" = .ok () := by decide +kernel
  obtain ⟨p, s, h⟩ := exists_register (selectPlugins_plainSettings "a") hdomain
  have hrole : (rivalRegistry.domains.role? "a" "x").map Role.kind = some .generic := by
    decide +kernel
  obtain ⟨role, hrole, hkind⟩ := Option.map_eq_some_iff.1 hrole
  have hlast : (lastRole? (rivalRegistry.domains.catalog "a") "x").map
      (fun last => last.item.kind) = some .reference := by decide +kernel
  obtain ⟨last, hlast, hlastKind⟩ := Option.map_eq_some_iff.1 hlast
  have hfind := find?_roles_register_bareName h (selectPlugins_plainSettings "a")
    (fun p hp => by cases hp) hlast
  rw [Role.kept, hlastKind, ← lowercase_rivalName] at hfind
  have hreference : p.role? "x" = some .reference :=
    Registry.lookUp_eq_some_iff.2 (.registered hfind)
  have hgeneric := (hall _ _ _ _ _ _ _ assembled_rivalRegistry h (selectPlugins_plainSettings "a")
    lowercase_rivalName (fun p hp => by cases hp) hrole).2 hkind
  rw [hreference] at hgeneric
  cases hgeneric

end Passthrough

end StructuredText

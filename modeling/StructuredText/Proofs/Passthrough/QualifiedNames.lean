import StructuredText.Proofs.Passthrough.Interception

/-!
# Qualified names keep their meaning

Where domains and their entries are named so that a qualified name can be told from any other one
(`Domains.Unambiguous`), a qualified name that a look-up in the domains knows stands after
registration for a node that keeps just what was found there: a raw directive with the shape of that
directive, or a role that keeps what that role refers to (`register_qualifiedName`). Neither the
settings nor what a caller has registered under the name has a part in it.

Registration uses many lists of names, and a later one wins. The argument is the same for directives
and for roles: none of the lists but that of the domains has a name with a colon
(`of_mem_directiveList_of_colon`, `of_mem_roleList_of_colon`); those that the domains contribute are
qualified names, or bare ones that no qualified name equals; and all that is registered under one
qualified name is what a look-up of it in the domains finds.
-/

namespace StructuredText

/-! ## Qualified names -/

/-- The parts of a qualified name are found again, unless the domain's name has a colon. -/
theorem splitColon?_qualifiedName {domain : Text} (h : ':' ∉ domain) (name : Text) :
    splitColon? (qualifiedName domain name) = some (domain, name) := by
  induction domain with
  | nil => rfl
  | cons c t ih =>
    rw [List.mem_cons, not_or] at h
    rw [qualifiedName, List.cons_append, splitColon?, if_neg fun hc => h.1 hc.symm, ← qualifiedName,
      ih h.2]
    rfl

theorem isSettled_colon : IsSettled ':' := by
  unfold IsSettled
  decide +kernel

theorem lowercase_qualifiedName {domain name : Text} (hdomain : lowercase domain = domain)
    (hname : lowercase name = name) :
    lowercase (qualifiedName domain name) = qualifiedName domain name := by
  rw [lowercase_eq_self_iff] at *
  intro c hc
  rcases List.mem_append.1 hc with hc | hc
  · exact hdomain c hc
  · rcases List.mem_cons.1 hc with rfl | hc
    · exact isSettled_colon
    · exact hname c hc

theorem colon_mem_qualifiedName (domain name : Text) : ':' ∈ qualifiedName domain name :=
  List.mem_append_right _ (List.mem_cons_self ..)

namespace Domains

/-- Whether an entry of this name can be told from a qualified name. -/
def IsEntryName (ds : Domains) (name : Text) : Prop :=
  lowercase name = name ∧ ∀ e ∈ ds.entries, ¬e.1 ++ [':'] <+: name

instance (ds : Domains) (name : Text) : Decidable (ds.IsEntryName name) :=
  inferInstanceAs (Decidable (_ ∧ _))

/-- Whether the names of the domains and of their entries show which names are qualified. -/
structure Unambiguous (ds : Domains) : Prop where
  lower : ∀ e ∈ ds.entries, lowercase e.1 = e.1
  plain : ∀ e ∈ ds.entries, ':' ∉ e.1
  directives : ∀ e ∈ ds.entries, ∀ f ∈ e.2.directives.entries, ds.IsEntryName f.1
  roles : ∀ e ∈ ds.entries, ∀ f ∈ e.2.roles.entries, ds.IsEntryName f.1

/-- The domains of a documentation generator are named so. -/
theorem unambiguous_documentationDomains : documentationDomains.Unambiguous :=
  ⟨by decide +kernel, by decide +kernel, by decide +kernel, by decide +kernel⟩

/-- Whether the parts are those of a qualified name that a look-up in the domains can know. -/
structure Qualifies (ds : Domains) (domain name : Text) : Prop where
  lower : lowercase (qualifiedName domain name) = qualifiedName domain name
  plain : ':' ∉ domain
  entry : ds.IsEntryName name
  known : ∃ d, (domain, d) ∈ ds.entries

namespace Qualifies

variable {ds : Domains} {domain name : Text} (h : ds.Qualifies domain name)

include h

theorem inj {domain' name' : Text} (h' : ds.Qualifies domain' name')
    (heq : qualifiedName domain' name' = qualifiedName domain name) :
    domain' = domain ∧ name' = name := by
  have hsplit := splitColon?_qualifiedName h'.plain name'
  rw [heq, splitColon?_qualifiedName h.plain, Option.some.injEq, Prod.mk.injEq] at hsplit
  exact ⟨hsplit.1.symm, hsplit.2.symm⟩

/-- The name of an entry is no qualified name. -/
theorem ne_entryName {name' : Text} (h' : ds.IsEntryName name') :
    name' ≠ qualifiedName domain name := by
  rintro rfl
  obtain ⟨d, hd⟩ := h.known
  exact h'.2 _ hd ⟨name, by rw [qualifiedName, List.append_assoc]; rfl⟩

/-- Only one entry of the catalog is registered under a qualified name. -/
theorem eq_of_name {α : Type} {e : CatalogEntry α} (he : ds.Qualifies e.domain e.name) {k : Text}
    (hk : k = e.qualified ∨ k = e.name) (heq : lowercase k = qualifiedName domain name) :
    e.domain = domain ∧ e.name = name := by
  rcases hk with rfl | rfl
  · exact h.inj he (he.lower.symm.trans heq)
  · exact absurd (he.entry.1.symm.trans heq) (h.ne_entryName he.entry)

end Qualifies

/-- What a look-up in a domain finds is an entry of a known domain. -/
theorem mem_of_findSome?_lineage {α : Type} {ds : Domains} {table : Domain → NameTable α}
    {domain name : Text} {x : α}
    (h : ((ds.lineage domain).findSome? fun d => (table d).find? name) = some x) :
    (∃ d, (domain, d) ∈ ds.entries) ∧ ∃ e ∈ ds.entries, (name, x) ∈ (table e.2).entries := by
  obtain ⟨d, hd⟩ := find?_of_findSome?_lineage h
  obtain ⟨holder, hholder, hfind⟩ := List.exists_of_findSome?_eq_some h
  obtain ⟨k, hk⟩ := mem_entries_of_mem_lineage hholder
  exact ⟨⟨d, NameTable.find?_eq_some_iff.1 hd⟩, _, hk, NameTable.find?_eq_some_iff.1 hfind⟩

namespace Unambiguous

variable {ds : Domains} (h : ds.Unambiguous) {domain name : Text}

include h

theorem qualifies (hknown : ∃ d, (domain, d) ∈ ds.entries) (hentry : ds.IsEntryName name) :
    ds.Qualifies domain name := by
  obtain ⟨d, hd⟩ := hknown
  exact ⟨lowercase_qualifiedName (h.lower _ hd) hentry.1, h.plain _ hd, hentry, d, hd⟩

theorem qualifies_of_directive? {d : Directive} (hd : ds.directive? domain name = some d) :
    ds.Qualifies domain name := by
  obtain ⟨hknown, e, he, hentry⟩ := mem_of_findSome?_lineage hd
  exact h.qualifies hknown (h.directives e he _ hentry)

theorem qualifies_of_role? {role : Role} (hrole : ds.role? domain name = some role) :
    ds.Qualifies domain name := by
  obtain ⟨hknown, e, he, hentry⟩ := mem_of_findSome?_lineage hrole
  exact h.qualifies hknown (h.roles e he _ hentry)

end Unambiguous

end Domains

namespace Passthrough

/-! ## Names with a colon -/

section Lists

variable {catalog : Catalog} {base : NameTable Directive} {ps : List Plugin}
  (hps : ps.Sublist knownPlugins)

include hps

/-- Only the directives of the domains are registered under names with a colon. -/
theorem of_mem_directiveList_of_colon (hbase : ∀ e ∈ base.entries, ':' ∉ lowercase e.1)
    {f : Text × Directive} (hf : f ∈ directiveList catalog base ps) (hcolon : ':' ∈ lowercase f.1) :
    f ∈ domainDirectiveList catalog := by
  have hrole : ':' ∉ lowercase roleDirectiveName := by decide +kernel
  have hstrong : ∀ f ∈ strongDirectiveList knownPlugins, ':' ∉ lowercase f.1 := by decide +kernel
  rw [directiveList, List.append_assoc, List.append_assoc, ← strongDirectiveList,
    List.mem_append, List.mem_append] at hf
  rcases hf with hf | hf | hf
  · exact hf
  · rcases List.mem_cons.1 hf with rfl | hf
    · exact absurd hcolon hrole
    · obtain ⟨e, he, rfl⟩ := List.mem_map.1 hf
      exact absurd hcolon (hbase e (List.mem_filter.1 he).1)
  · have hsub : (strongDirectiveList ps).Sublist (strongDirectiveList knownPlugins) :=
      (List.Sublist.refl _).append (hps.flatMap _)
    exact absurd hcolon (hstrong f (hsub.subset hf))

/-- Only the roles of the domains are registered under names with a colon. -/
theorem of_mem_roleList_of_colon {f : Text × Role} (hf : f ∈ roleList catalog ps)
    (hcolon : ':' ∈ lowercase f.1) : f ∈ domainRoleList catalog := by
  have hgrammar : ∀ f ∈ grammarRoleList, ':' ∉ lowercase f.1 := by decide +kernel
  have hplugins : ∀ f ∈ pluginRoleList knownPlugins, ':' ∉ lowercase f.1 := by decide +kernel
  rw [roleList, List.mem_append, List.mem_append] at hf
  rcases hf with (hf | hf) | hf
  · exact absurd hcolon (hgrammar f hf)
  · exact hf
  · exact absurd hcolon (hplugins f ((hps.flatMap _).subset hf))

end Lists

/-! ## What is registered under a qualified name -/

theorem of_mem_domainDirectiveList {catalog : Catalog} {f : Text × Directive}
    (h : f ∈ domainDirectiveList catalog) : ∃ e ∈ catalog.directives,
      (f.1 = e.qualified ∨ f.1 = e.name) ∧ f.2 = e.item.wrapped true := by
  rcases List.mem_append.1 h with h | h
  · obtain ⟨e, he, rfl⟩ := List.mem_map.1 h
    exact ⟨e, he, Or.inl rfl, rfl⟩
  · obtain ⟨e, he, rfl⟩ := List.mem_map.1 h
    exact ⟨e, (List.mem_filter.1 he).1, Or.inr rfl, rfl⟩

theorem mem_roleNames_iff {e : CatalogEntry Role} {k : Text} :
    k ∈ roleNames e ↔
      k = e.qualified ∨ (e.item.kind = .reference ∨ e.isDefault = true) ∧ k = e.name := by
  unfold roleNames CatalogEntry.names
  cases e.item.kind with
  | reference => simp [or_comm]
  | generic =>
    cases e.isDefault with
    | true => simp
    | false => simp

theorem of_mem_domainRoleList {catalog : Catalog} {f : Text × Role}
    (h : f ∈ domainRoleList catalog) : ∃ e ∈ catalog.roles,
      (f.1 = e.qualified ∨ f.1 = e.name) ∧ f.2 = e.item.kept := by
  obtain ⟨e, he, h⟩ := List.mem_flatMap.1 h
  obtain ⟨k, hk, rfl⟩ := List.mem_map.1 h
  exact ⟨e, he, (mem_roleNames_iff.1 hk).imp_right And.right, rfl⟩

section Register

variable {r r' : Registry} {e : Extensions} {s : Summary} (hr : r.Assembled)
  (hnames : r.domains.Unambiguous) (h : register r e = .ok (r', s)) {d n : Text}

include hr hnames h

theorem find?_directives_register {x : Directive} (hx : r.domains.directive? d n = some x) :
    r'.directives.find? (qualifiedName d n) = some (x.wrapped true) := by
  have hqualifies := hnames.qualifies_of_directive? hx
  obtain ⟨selection, roles, hs, rfl, -⟩ := register_eq_ok h
  have hlisted : ⟨d, n, x, decide (d = e.defaultDomain)⟩ ∈
      (r.domains.catalog e.defaultDomain).directives :=
    (Domains.mem_directives_catalog hr.wellNamed).2 ⟨rfl, hx⟩
  have hmem : (qualifiedName d n, x.wrapped true) ∈
      domainDirectiveList (r.domains.catalog e.defaultDomain) :=
    List.mem_append_left _ (List.mem_map.2 ⟨_, hlisted, rfl⟩)
  rw [Registry.directives_registerDirectives, ← hqualifies.lower]
  refine NameTable.find?_insertAll_map (e := (qualifiedName d n, x.wrapped true))
    (by simp only [directiveList, List.mem_append, hmem, true_or]) fun f hf hname => ?_
  rw [hqualifies.lower] at hname
  -- Whatever is registered under the name is an entry of the catalog with these two parts.
  have hbase : ∀ e ∈ r.baseDirectives.entries, ':' ∉ lowercase e.1 := fun e he => by
    have hfind := NameTable.find?_eq_some_iff.2 he
    rw [hr.lowercase_of_base hfind]
    exact hr.colon_not_mem_of_base hfind
  have hcolon : ':' ∈ lowercase f.1 := hname ▸ colon_mem_qualifiedName d n
  obtain ⟨entry, hentry, hnameOf, hitem⟩ := of_mem_domainDirectiveList
    (of_mem_directiveList_of_colon (enabled_sublist hs) hbase hf hcolon)
  have hfound := ((Domains.mem_directives_catalog hr.wellNamed).1 hentry).2
  obtain ⟨hd, hn⟩ := hqualifies.eq_of_name (hnames.qualifies_of_directive? hfound) hnameOf hname
  rw [hd, hn, hx, Option.some.injEq] at hfound
  rw [hitem, hfound]

theorem find?_roles_register {role : Role} (hrole : r.domains.role? d n = some role) :
    r'.roles.find? (qualifiedName d n) = some role.kept := by
  have hqualifies := hnames.qualifies_of_role? hrole
  obtain ⟨selection, roles, hs, rfl, rfl⟩ := register_eq_ok h
  have hlisted : ⟨d, n, role, decide (d = e.defaultDomain)⟩ ∈
      (r.domains.catalog e.defaultDomain).roles :=
    (Domains.mem_roles_catalog hr.wellNamed).2 ⟨rfl, hrole⟩
  have hmem : (qualifiedName d n, role.kept) ∈
      domainRoleList (r.domains.catalog e.defaultDomain) :=
    List.mem_flatMap.2 ⟨_, hlisted,
      List.mem_map.2 ⟨qualifiedName d n, mem_roleNames_iff.2 (Or.inl rfl), rfl⟩⟩
  rw [(Registry.registerDirectives_same _ _).2.2.1, Registry.roles_registerRoles,
    ← hqualifies.lower]
  refine NameTable.find?_insertAll_map (e := (qualifiedName d n, role.kept))
    (by simp only [roleList, List.mem_append, hmem, or_true, true_or]) fun f hf hname => ?_
  rw [hqualifies.lower] at hname
  have hcolon : ':' ∈ lowercase f.1 := hname ▸ colon_mem_qualifiedName d n
  obtain ⟨entry, hentry, hnameOf, hitem⟩ := of_mem_domainRoleList
    (of_mem_roleList_of_colon (enabled_sublist hs) hf hcolon)
  have hfound := ((Domains.mem_roles_catalog hr.wellNamed).1 hentry).2
  obtain ⟨hd, hn⟩ := hqualifies.eq_of_name (hnames.qualifies_of_role? hfound) hnameOf hname
  rw [hd, hn, hrole, Option.some.injEq] at hfound
  rw [hitem, hfound]

theorem directive?_register_qualifiedName {x : Directive}
    (hx : r.domains.directive? d n = some x) :
    r'.directive? (qualifiedName d n) = some (x.wrapped true) := by
  have hfind := find?_directives_register hr hnames h hx
  rw [← (hnames.qualifies_of_directive? hx).lower] at hfind
  exact Registry.lookUp_eq_some_iff.2 (.registered hfind)

theorem role?_register_qualifiedName {role : Role} (hrole : r.domains.role? d n = some role) :
    r'.role? (qualifiedName d n) = some role.kept := by
  have hfind := find?_roles_register hr hnames h hrole
  rw [← (hnames.qualifies_of_role? hrole).lower] at hfind
  exact Registry.lookUp_eq_some_iff.2 (.registered hfind)

end Register

/-- **Registration keeps what every qualified name means.** What a look-up in the domains finds, in
the domain itself or in one that it draws on, decides what the qualified name stands for afterwards;
other settings, and other directives and roles registered before, make no difference. -/
theorem register_qualifiedName {r r' : Registry} {e : Extensions} {s : Summary} (hr : r.Assembled)
    (hnames : r.domains.Unambiguous) (h : register r e = .ok (r', s)) (d n : Text) :
    (∀ x, r.domains.directive? d n = some x →
      r'.directive? (qualifiedName d n) = some (.passthrough x.shape true) ∧
        (Directive.passthrough x.shape true).shape = x.shape.withAnyOption) ∧
    (∀ role, r.domains.role? d n = some role →
      (role.kind = .reference → r'.role? (qualifiedName d n) = some .reference) ∧
        (role.kind ≠ .reference → r'.role? (qualifiedName d n) = some .generic)) ∧
    ∀ (q q' : Registry) (e' : Extensions) (s' : Summary), q.Assembled → q.domains = r.domains →
      register q e' = .ok (q', s') →
        ((r.domains.directive? d n).isSome = true →
          q'.directive? (qualifiedName d n) = r'.directive? (qualifiedName d n)) ∧
        ((r.domains.role? d n).isSome = true →
          q'.role? (qualifiedName d n) = r'.role? (qualifiedName d n)) := by
  refine ⟨fun x hx => ⟨directive?_register_qualifiedName hr hnames h hx, rfl⟩,
    fun role hrole => ?_, fun q q' e' s' hq hdomains h' => ⟨fun hsome => ?_, fun hsome => ?_⟩⟩
  · rw [role?_register_qualifiedName hr hnames h hrole, Role.kept]
    cases role.kind with
    | reference => exact ⟨fun _ => rfl, fun hne => absurd rfl hne⟩
    | generic => exact ⟨fun heq => (by cases heq), fun _ => rfl⟩
  · obtain ⟨x, hx⟩ := Option.isSome_iff_exists.1 hsome
    rw [directive?_register_qualifiedName hr hnames h hx]
    rw [← hdomains] at hnames hx
    exact directive?_register_qualifiedName hq hnames h' hx
  · obtain ⟨role, hrole⟩ := Option.isSome_iff_exists.1 hsome
    rw [role?_register_qualifiedName hr hnames h hrole]
    rw [← hdomains] at hnames hrole
    exact role?_register_qualifiedName hq hnames h' hrole

/-- Two domains that extend each other, and a directive and a role registered under names that lead
into them. -/
def linkedRegistry : Registry :=
  Registry.withBaseGrammar
    |>.registerDomain
      ((({ name := "lib", parent := some "core" } : Domain).withDirectives
        ["a:b"] .nameSpace).withRoles ["ref"] .target)
    |>.registerDomain
      ((({ name := "core", parent := some "lib" } : Domain).withDirectives
        ["run"] .object).withRoles ["sub"] (.ofText "subscript"))
    |>.registerDirective "lib:run" .only
    |>.registerRole "core:ref" .generic

theorem assembled_linkedRegistry : linkedRegistry.Assembled :=
  (((Registry.Assembled.withBaseGrammar.registerDomain _).registerDomain _).registerDirective
    _ _).registerRole _ _

theorem unambiguous_linkedRegistry : linkedRegistry.domains.Unambiguous :=
  ⟨by decide +kernel, by decide +kernel, by decide +kernel, by decide +kernel⟩

/-- Inherited names, in spite of what is registered under them and whichever domain is the default
one; and a name of a documentation generator. -/
theorem register_qualifiedName_linkedRegistry :
    (linkedRegistry.Assembled ∧ linkedRegistry.domains.Unambiguous ∧
      ∃ p p' s s', register linkedRegistry { defaultDomain := "lib" } = .ok (p, s) ∧
        register linkedRegistry { defaultDomain := "core", plugins := some [] } = .ok (p', s') ∧
        p.directive? (qualifiedName "lib" "run") = some (.passthrough .object true) ∧
        p'.directive? (qualifiedName "lib" "run") = p.directive? (qualifiedName "lib" "run") ∧
        p.role? (qualifiedName "core" "ref") = some .reference ∧
        p.role? (qualifiedName "lib" "sub") = some .generic) ∧
    Registry.documentation.Assembled ∧ Registry.documentation.domains.Unambiguous ∧
      ∃ q s, register .documentation {} = .ok (q, s) ∧
        q.role? (qualifiedName "py" "func") = some .reference := by
  have hdomain : checkDomain linkedRegistry.domains "lib" = .ok () := by decide +kernel
  have hdomain' : checkDomain linkedRegistry.domains "core" = .ok () := by decide +kernel
  have hplugins : Extensions.selectPlugins { defaultDomain := "lib" } =
      .ok ⟨knownPlugins, []⟩ := rfl
  have hplugins' : Extensions.selectPlugins { defaultDomain := "core", plugins := some [] } =
      .ok ⟨[], knownPlugins⟩ := rfl
  obtain ⟨p, s, h⟩ := exists_register hplugins hdomain
  obtain ⟨p', s', h'⟩ := exists_register hplugins' hdomain'
  -- What the domains know is inherited in three of the four cases.
  have hrun : (linkedRegistry.domains.directive? "lib" "run").map Directive.shape =
      some .object := by decide +kernel
  have href : (linkedRegistry.domains.role? "core" "ref").map Role.kind = some .reference := by
    decide +kernel
  have hsub : (linkedRegistry.domains.role? "lib" "sub").map Role.kind = some .generic := by
    decide +kernel
  have hfunc : (Registry.documentation.domains.role? "py" "func").map Role.kind =
      some .reference := by decide +kernel
  obtain ⟨run, hrun, hshape⟩ := Option.map_eq_some_iff.1 hrun
  obtain ⟨ref, href, hrefKind⟩ := Option.map_eq_some_iff.1 href
  obtain ⟨sub, hsub, hsubKind⟩ := Option.map_eq_some_iff.1 hsub
  obtain ⟨func, hfunc, hfuncKind⟩ := Option.map_eq_some_iff.1 hfunc
  have hkeeps := register_qualifiedName assembled_linkedRegistry unambiguous_linkedRegistry h
  have hknown := ((hkeeps "lib" "run").1 run hrun).1
  rw [hshape] at hknown
  have hnames : Registry.documentation.domains.Unambiguous := by
    rw [Registry.documentation_same.2.2.2]
    exact Domains.unambiguous_documentationDomains
  obtain ⟨r, hr⟩ := exists_registry_default
  obtain ⟨t, hq⟩ := registry_eq_ok_iff.1 hr
  exact ⟨⟨assembled_linkedRegistry, unambiguous_linkedRegistry, p, p', s, s', h, h', hknown,
    ((hkeeps "lib" "run").2.2 _ _ _ _ assembled_linkedRegistry rfl h').1 (by rw [hrun]; rfl),
    ((hkeeps "core" "ref").2.1 ref href).1 hrefKind,
    ((hkeeps "lib" "sub").2.1 sub hsub).2 (by rw [hsubKind]; exact RoleKind.noConfusion)⟩,
    Registry.assembled_documentation, hnames, r, t, hq,
    ((register_qualifiedName Registry.assembled_documentation hnames hq "py" "func").2.1 func
      hfunc).1 hfuncKind⟩

end Passthrough

end StructuredText

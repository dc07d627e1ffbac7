import StructuredText.Proofs.Inline.RoleText
import StructuredText.Proofs.Passthrough.QualifiedNames
import StructuredText.Proofs.Passthrough.Roles

/-!
# Kept roles can be written again

A node that keeps a role has a name for it and a text. Written out with the name before the text, these
are read as a node with the same name and text, whatever the role was called in the paragraph and
wherever its name stood (`inlineNodes_keptRole`). The text is not ended before its end, because it was
not in the paragraph (`interpreted_of_mem_segments`); it remains to see that the name, which may be
another one than the document used, stands for the same kind of role.

The name is the spelling under which the role is best known. Spelling a name twice changes nothing
(`roleSpelling_roleSpelling`). The names that the table of spellings mentions are those of generic roles
of the grammar and of their aliases; neither a domain nor a plugin has a role of such a name
(`isGeneric_of_mem_roleList`), so that they stand for generic roles with any settings
(`role?_registry_of_spelled`).
-/

namespace StructuredText

/-! ## Spelling a name -/

/-- A spelling is its own spelling. -/
theorem roleSpelling_of_mem : ∀ s ∈ roleSpellings, roleSpelling s.2 = s.2 := by decide +kernel

/-- A spelling is one of the table, or the name as it was written. -/
theorem roleSpelling_cases (name : Text) :
    (∃ s ∈ roleSpellings, roleSpelling name = s.2) ∨ roleSpelling name = name := by
  unfold roleSpelling
  split
  · next s hs => exact Or.inl ⟨s, List.mem_of_find?_eq_some hs, rfl⟩
  · exact Or.inr rfl

/-- **Spelling a name twice is spelling it once.** -/
theorem roleSpelling_roleSpelling (name : Text) :
    roleSpelling (roleSpelling name) = roleSpelling name := by
  rcases roleSpelling_cases name with ⟨s, hs, hname⟩ | hname
  · rw [hname, roleSpelling_of_mem s hs]
  · rw [hname, hname]

theorem isRoleName_roleSpelling {name : Text} (h : IsRoleName name) :
    IsRoleName (roleSpelling name) := by
  have hall : ∀ s ∈ roleSpellings, IsRoleName s.2 := by decide
  rcases roleSpelling_cases name with ⟨s, hs, hname⟩ | hname
  · rw [hname]
    exact hall s hs
  · rwa [hname]

/-- The names in lower case that the table of spellings mentions. -/
def spelledNames : List Text :=
  roleSpellings.map Prod.fst ++ roleSpellings.map fun s => lowercase s.2

namespace Passthrough

/-! ## What stands under these names -/

/-- No domain has a role of such a name. -/
theorem not_mem_spelledNames_of_domain {default : Text} {f : Text × Role}
    (hf : f ∈ domainRoleList (documentationDomains.catalog default)) :
    lowercase f.1 ∉ spelledNames := by
  have hnamed : documentationDomains.WellNamed := by
    rw [← Registry.documentation_same.2.2.2]
    exact Registry.assembled_documentation.wellNamed
  have hcolon : ∀ n ∈ spelledNames, ':' ∉ n := by decide +kernel
  have hbare : ∀ d ∈ documentationDomains.entries, ∀ g ∈ d.2.roles.entries,
      lowercase g.1 ∉ spelledNames := by
    decide +kernel
  obtain ⟨entry, hentry, hname, -⟩ := of_mem_domainRoleList hf
  have hrole := ((Domains.mem_roles_catalog hnamed).1 hentry).2
  rcases hname with hname | hname
  · have hlower := (Domains.unambiguous_documentationDomains.qualifies_of_role? hrole).lower
    intro hmem
    rw [hname, CatalogEntry.qualified, hlower] at hmem
    exact hcolon _ hmem (colon_mem_qualifiedName _ _)
  · obtain ⟨-, d, hd, hg⟩ := Domains.mem_of_findSome?_lineage hrole
    rw [hname]
    exact hbare d hd _ hg

/-- **What is registered under a name that the table of spellings mentions is generic.** -/
theorem isGeneric_of_mem_roleList {default : Text} {ps : List Plugin}
    (hps : ps.Sublist knownPlugins) {f : Text × Role}
    (hf : f ∈ roleList (documentationDomains.catalog default) ps)
    (hname : lowercase f.1 ∈ spelledNames) : f.2 = .generic := by
  have hdownload : lowercase "download" ∉ spelledNames := by decide +kernel
  have hplugins : ∀ g ∈ pluginRoleList knownPlugins, lowercase g.1 ∉ spelledNames := by
    decide +kernel
  rw [roleList, List.mem_append, List.mem_append] at hf
  rcases hf with (hf | hf) | hf
  · rcases List.mem_cons.1 hf with rfl | hf
    · exact absurd hname hdownload
    · obtain ⟨n, -, rfl⟩ := List.mem_map.1 hf
      rfl
  · exact absurd hname (not_mem_spelledNames_of_domain hf)
  · exact absurd hname (hplugins f ((hps.flatMap _).subset hf))

section Registry

variable {e : Extensions} {r : Registry} (h : registry e = .ok r)

include h

theorem isGeneric_of_find?_roles {n : Text} (hn : n ∈ spelledNames) {role : Role}
    (hrole : r.roles.find? n = some role) : role = .generic := by
  obtain ⟨s, hr⟩ := registry_eq_ok_iff.1 h
  obtain ⟨selection, roles, hs, rfl, rfl⟩ := register_eq_ok hr
  rw [(Registry.registerDirectives_same _ _).2.2.1, Registry.roles_registerRoles,
    Registry.documentation_same.2.2.1, Registry.documentation_same.2.2.2] at hrole
  rcases NameTable.mem_insertAll (NameTable.find?_eq_some_iff.1 hrole) with hmem | hmem
  · obtain ⟨f, hf, heq⟩ := List.mem_map.1 hmem
    rw [Prod.mk.injEq] at heq
    obtain ⟨rfl, rfl⟩ := heq
    exact isGeneric_of_mem_roleList (enabled_sublist hs) hf hn
  · cases hmem

/-- **The names that the table of spellings mentions stand for generic roles**, whatever the settings
are and in whatever case they are written. -/
theorem role?_registry_of_spelled {name : Text} (hname : lowercase name ∈ spelledNames) :
    r.role? name = some .generic := by
  have hall : ∀ n ∈ spelledNames, (roleAlias? n).getD n ∈ spelledNames ∧
      (roleAlias? n).getD n ∈ grammarRoleList.map fun f => lowercase f.1 := by
    decide +kernel
  obtain ⟨hcanonical, hgrammar⟩ := hall _ hname
  obtain ⟨role, hrole⟩ := Option.ne_none_iff_exists'.1 (find?_roles_of_grammar h hgrammar)
  rw [isGeneric_of_find?_roles h hcanonical hrole] at hrole
  cases hfind : r.roles.find? (lowercase name) with
  | some role' =>
    rw [isGeneric_of_find?_roles h hname hfind] at hfind
    exact Registry.lookUp_eq_some_iff.2 (.registered hfind)
  | none => exact Registry.lookUp_eq_some_iff.2 (.canonical hfind hrole)

theorem role?_registry_roleSpelling {name : Text} (hname : r.role? name = some .generic) :
    r.role? (roleSpelling name) = some .generic := by
  rcases roleSpelling_cases name with ⟨s, hs, hspelling⟩ | hspelling
  · rw [hspelling]
    exact role?_registry_of_spelled h (List.mem_append_right _ (List.mem_map_of_mem hs))
  · rwa [hspelling]

end Registry

end Passthrough

/-! ## Nodes that keep a role -/

/-- A native role that keeps its text is generic, and the node has the spelling of its name. -/
theorem Role.eq_generic_of_run {role : Role} (hr : role.IsNative) {i : Interpreted}
    {name raw x : Text} (h : role.run i = .ok [.role name raw x]) :
    role = .generic ∧ name = roleSpelling i.name ∧ x = Text.restore i.text := by
  cases role with
  | element tag content =>
    rw [Role.run] at h
    split at h <;> cases h
  | generic =>
    cases h
    exact ⟨rfl, rfl, rfl⟩
  | reference =>
    rw [Role.run, Role.keptReference, Except.ok.injEq, List.cons.injEq] at h
    dsimp only at h
    split at h <;> cases h.1
  | custom kind run => exact absurd hr id

/-- A node that keeps a role comes from a segment that names a generic one. -/
theorem interpreted_of_role_mem {registry : Registry} (hr : registry.NativeRoles) {t : Text}
    {line : Nat} {nodes : List Inline} (h : inlineNodes registry t line = .ok nodes)
    {name raw x : Text} (hn : .role name raw x ∈ nodes) :
    ∃ place content, Segment.interpreted place content ∈ segments (Text.escape t) ∧
      registry.role? place.name = some .generic ∧ name = roleSpelling place.name ∧
      x = Text.restore content := by
  rcases kept_of_assembleFrom hr h hn rfl with hnil | ⟨s, hs, hkept, -, hassemble⟩
  · cases hnil
  · have hone := hassemble line
    cases s with
    | phrase c anonymous => cases hone
    | interpreted place c =>
      obtain ⟨made, hmade, hnodes⟩ := Except.map_eq_ok_iff.1 hone
      rw [List.nil_append] at hnodes
      rw [hnodes, interpret] at hmade
      split at hmade
      · cases hmade
      · next role hrole =>
        obtain ⟨rfl, hname, hx⟩ :=
          Role.eq_generic_of_run (hr _ _ hrole) (Except.mapError_eq_ok_iff.1 hmade)
        exact ⟨place, c, hs, hrole, hname, hx⟩
    | _ => exact absurd hkept id

namespace Passthrough

/-- **A kept role can be written again.** However a role was written in a text, the name and the text of
the node that keeps it, written one before the other, are read as a node with this name and text, and
nothing else. -/
theorem inlineNodes_keptRole {e : Extensions} {r : Registry} (h : registry e = .ok r) {t : Text}
    (ht : escapeMarker ∉ t) {line : Nat} {nodes : List Inline}
    (hnodes : inlineNodes r t line = .ok nodes) {name raw x : Text}
    (hnode : .role name raw x ∈ nodes) (line' : Nat) :
    inlineNodes r (roleText name x) line' = .ok [.role name (roleText name x) x] := by
  obtain ⟨place, content, hmem, hrole, rfl, rfl⟩ :=
    interpreted_of_role_mem (nativeRoles_registry h) hnodes hnode
  obtain ⟨hname, hcontent, hmarked⟩ := interpreted_of_mem_segments (Text.marked_escape ht) hmem
  have hescape : Text.escape (Text.restore content) = content := Text.escape_restore hmarked
  rw [inlineNodes_roleText (isRoleName_roleSpelling hname) r (Text.marker_not_mem_restore content)
    (by rwa [hescape]), hescape, interpret]
  dsimp only
  rw [role?_registry_roleSpelling h hrole]
  show Except.ok [Inline.role (roleSpelling (roleSpelling place.name)) _ _] = _
  rw [roleSpelling_roleSpelling]

/-- An escaped backquote before a role's long name, and an alias in mixed case. -/
theorem inlineNodes_keptRole_spelled :
    ∃ r nodes, registry {} = .ok r ∧ escapeMarker ∉ "`a\\`b`:Subscript: (:Pep:`8`)".toList ∧
      inlineNodes r "`a\\`b`:Subscript: (:Pep:`8`)" 1 = .ok nodes ∧
      (.role "sub" "`a\\`b`:Subscript:" "a\\`b" ∈ nodes ∧
        inlineNodes r ":sub:`a\\`b`" 7 = .ok [.role "sub" ":sub:`a\\`b`" "a\\`b"]) ∧
      .role "PEP" ":Pep:`8`" "8" ∈ nodes ∧
        inlineNodes r ":PEP:`8`" 7 = .ok [.role "PEP" ":PEP:`8`" "8"] := by
  obtain ⟨r, hr⟩ := exists_registry_default
  have hnul : escapeMarker ∉ "`a\\`b`:Subscript: (:Pep:`8`)".toList := by decide
  have hsegments : segments (Text.escape "`a\\`b`:Subscript: (:Pep:`8`)") =
      [.interpreted (.after "Subscript") "a\x00`b", .text " (", .interpreted (.before "Pep") "8",
        .text ")"] := by
    cbv
  have hsub : r.role? "Subscript" = some .generic :=
    role?_registry_of_spelled hr (by decide +kernel)
  have hpep : r.role? "Pep" = some .generic := role?_registry_of_spelled hr (by decide +kernel)
  have hspellings : roleSpelling "Subscript" = "sub" ∧ roleSpelling "Pep" = "PEP" := by
    decide +kernel
  have hnodes : inlineNodes r "`a\\`b`:Subscript: (:Pep:`8`)" 1 =
      .ok [.role "sub" "`a\\`b`:Subscript:" "a\\`b", .text " (", .role "PEP" ":Pep:`8`" "8",
        .text ")"] := by
    simp only [inlineNodes, hsegments, assembleFrom, Segment.assemble, interpret, RolePlace.name,
      hsub, hpep, Role.run, hspellings]
    rfl
  have hfirst : Inline.role "sub" "`a\\`b`:Subscript:" "a\\`b" ∈
      ([.role "sub" "`a\\`b`:Subscript:" "a\\`b", .text " (", .role "PEP" ":Pep:`8`" "8",
        .text ")"] : List Inline) := List.mem_cons_self ..
  have hsecond : Inline.role "PEP" ":Pep:`8`" "8" ∈
      ([.role "sub" "`a\\`b`:Subscript:" "a\\`b", .text " (", .role "PEP" ":Pep:`8`" "8",
        .text ")"] : List Inline) := by
    simp
  exact ⟨r, _, hr, hnul, hnodes, ⟨hfirst, inlineNodes_keptRole hr hnul hnodes hfirst 7⟩, hsecond,
    inlineNodes_keptRole hr hnul hnodes hsecond 7⟩

end Passthrough

end StructuredText

import StructuredText.Proofs.Parser.Reading

/-!
# Roles that can refuse their text

Most roles accept every text (`Role.IsTotal`). Those that do not are the roles for the number of a
proposal, for the number of a memorandum, and the one that is there only to derive others from.
Registration replaces the first two, under their own names and so under their aliases too; therefore
the last is the only role of the registry that can refuse its text (`isTotal_or_raw`).
-/

namespace StructuredText

namespace RoleContent

/-- Whether there is something to show whatever the text is. -/
def IsTotal : RoleContent → Prop
  | text => True
  | crossReference => True
  | _ => False

instance (content : RoleContent) : Decidable content.IsTotal :=
  match content with
  | text => .isTrue trivial
  | crossReference => .isTrue trivial
  | proposal => .isFalse id
  | memorandum => .isFalse id
  | format => .isFalse id

end RoleContent

namespace Role

/-- Whether a role accepts every text. Nothing is known of a caller's own. -/
def IsTotal : Role → Prop
  | element _ content => content.IsTotal
  | custom .. => False
  | _ => True

instance (role : Role) : Decidable role.IsTotal :=
  match role with
  | element _ content => inferInstanceAs (Decidable content.IsTotal)
  | custom .. => .isFalse id
  | generic => .isTrue trivial
  | reference => .isTrue trivial

theorem exists_run_eq_ok {role : Role} (hr : role.IsTotal) (i : Interpreted) :
    ∃ nodes, role.run i = .ok nodes := by
  cases role with
  | element tag content =>
    have hshown : ∃ text, shownText content i = .ok text := by
      cases content with
      | text => exact ⟨_, rfl⟩
      | crossReference =>
        rw [shownText]
        split <;> exact ⟨_, rfl⟩
      | proposal => exact absurd hr id
      | memorandum => exact absurd hr id
      | format => exact absurd hr id
    obtain ⟨text, htext⟩ := hshown
    rw [run, htext]
    exact ⟨_, rfl⟩
  | generic => exact ⟨_, rfl⟩
  | reference => exact ⟨_, rfl⟩
  | custom kind run => exact absurd hr id

/-- The role of the grammar that is there only to derive others from. -/
def raw : Role := element "raw" .format

instance (role : Role) : Decidable (role = raw) :=
  match role with
  | element tag content => decidable_of_iff (tag = "raw" ∧ content = .format) (by simp [raw])
  | custom .. => .isFalse nofun
  | generic => .isFalse nofun
  | reference => .isFalse nofun

end Role

theorem Registry.role?_documentation_raw : documentation.role? "raw" = some .raw :=
  role?_documentation_of_grammar rfl

namespace Passthrough

section Registry

variable {e : Extensions} {r : Registry}

/-- The roles that registration adds accept every text. -/
theorem isTotal_of_mem_roles (h : registry e = .ok r) {f : Text × Role}
    (hf : f ∈ r.roles.entries) : f.2.IsTotal := by
  obtain ⟨s, hr⟩ := registry_eq_ok_iff.1 h
  rcases mem_roles_register hr hf with ⟨ps, g, hg, hgf⟩ | hold
  · rw [← hgf]
    rcases of_mem_roleList hg with hkept | hkept <;> rw [hkept] <;> trivial
  · rw [Registry.documentation_same.2.2.1] at hold
    cases hold

/-- The roles of the grammar that are kept are registered. -/
theorem find?_roles_of_grammar (h : registry e = .ok r) {k : Text}
    (hk : k ∈ grammarRoleList.map fun f => lowercase f.1) : r.roles.find? k ≠ none := by
  obtain ⟨s, hr⟩ := registry_eq_ok_iff.1 h
  obtain ⟨selection, roles, -, rfl, rfl⟩ := register_eq_ok hr
  obtain ⟨f, hf, rfl⟩ := List.mem_map.1 hk
  rw [(Registry.registerDirectives_same _ _).2.2.1]
  exact Registry.find?_registerRoles_ne_none
    ⟨f, List.mem_append_left _ (List.mem_append_left _ hf), rfl⟩

/-- What is registered under the name of a role, or the one that it is an alias of, accepts every
text. -/
theorem exists_role?_of_grammar (h : registry e = .ok r) {name : Text}
    (hk : Registry.canonicalName roleAlias? name ∈ grammarRoleList.map fun f => lowercase f.1) :
    ∃ role, r.role? name = some role ∧ role.IsTotal := by
  obtain ⟨role, hrole⟩ := Option.ne_none_iff_exists'.1 (find?_roles_of_grammar h hk)
  have htotal : ∀ {k role}, r.roles.find? k = some role → role.IsTotal := fun hd =>
    isTotal_of_mem_roles h (NameTable.findEntry_eq_some_mem hd)
  cases hname : r.roles.find? (lowercase name) with
  | some role' => exact ⟨role', Registry.lookUp_eq_some_iff.2 (.registered hname), htotal hname⟩
  | none => exact ⟨role, Registry.lookUp_eq_some_iff.2 (.canonical hname hrole), htotal hrole⟩

/-- **Only one role of the registry can refuse its text.** -/
theorem isTotal_or_raw (h : registry e = .ok r) {name : Text} {role : Role}
    (hrole : r.role? name = some role) : role.IsTotal ∨ role = .raw := by
  have hregistered : ∀ {k}, r.roles.find? k = some role → role.IsTotal := fun hd =>
    isTotal_of_mem_roles h (NameTable.findEntry_eq_some_mem hd)
  cases Registry.lookUp_eq_some_iff.1 hrole with
  | registered hd => exact Or.inl (hregistered hd)
  | canonical _ hd => exact Or.inl (hregistered hd)
  | grammar _ hcanonical hd =>
    -- Each role of the grammar accepts every text, is the one in question, or is replaced.
    have hall : ∀ f ∈ grammarRoles, f.2.IsTotal ∨ f.2 = .raw ∨
        f.1 ∈ grammarRoleList.map fun g => lowercase g.1 := by
      decide +kernel
    obtain ⟨s, hr⟩ := registry_eq_ok_iff.1 h
    rw [(register_same hr).2.1, Registry.documentation_same.2.1] at hd
    rcases NameTable.mem_insertAll (NameTable.findEntry_eq_some_mem hd) with hf | hf
    · rcases hall _ hf with htotal | hraw | hreplaced
      · exact Or.inl htotal
      · exact Or.inr hraw
      · exact absurd hcanonical (find?_roles_of_grammar h hreplaced)
    · cases hf
  | domain _ _ _ _ hd =>
    have hall : ∀ d ∈ documentationDomains.entries, ∀ f ∈ d.2.roles.entries, f.2.IsTotal := by
      decide +kernel
    obtain ⟨s, hr⟩ := registry_eq_ok_iff.1 h
    rw [(register_same hr).2.2, Registry.documentation_same.2.2.2] at hd
    obtain ⟨d, hknown, f, hf, rfl⟩ := Domains.exists_of_role? hd
    exact Or.inl (hall d hknown f hf)

end Registry

end Passthrough

/-- A text becomes inline nodes if the roles that it names accept every text. -/
theorem exists_inlineNodes_eq_ok {r : Registry} {text : Text}
    (h : ∀ place c, Segment.interpreted place c ∈ segments (Text.escape text) →
      ∃ role, r.role? place.name = some role ∧ role.IsTotal) (line : Nat) :
    ∃ nodes, inlineNodes r text line = .ok nodes := by
  cases hnodes : inlineNodes r text line with
  | ok nodes => exact ⟨nodes, rfl⟩
  | error e =>
    obtain ⟨place, c, i, hmem, hname, hinterpret⟩ := Parser.exists_interpret_of_assembleFrom hnodes
    obtain ⟨role, hrole, htotal⟩ := h place c hmem
    obtain ⟨made, hrun⟩ := Role.exists_run_eq_ok htotal i
    rw [interpret, hname, hrole] at hinterpret
    dsimp only at hinterpret
    rw [hrun] at hinterpret
    cases hinterpret

end StructuredText

import StructuredText.Passthrough.Installation
import StructuredText.Proofs.Passthrough.Interception

/-!
# Registration in place

Registration in place does what registration describes, or leaves the registry alone
(`run_install`). Structure: an entry changes one of the two tables of registered directives and
roles, so that a run of entries comes to the same as its roles and then its directives
(`run_installEntries`), and these are the lists that registration is given (`directives_entryList`,
`roles_entryList`).

Since nothing is read from the tables that are changed, registration can be repeated: the second run
makes the same list and finds every entry in its place (`register_register`).
-/

namespace StructuredText

namespace Passthrough

/-! ## The entries -/

namespace Entry

/-- The entry as a directive under its name. -/
def directive? : Entry → Option (Text × Directive)
  | directive name d => some (name, d)
  | role .. => none

/-- The entry as a role under its name. -/
def role? : Entry → Option (Text × Role)
  | directive .. => none
  | role name item => some (name, item)

end Entry

@[simp] theorem directives_directiveEntries (ds : List (Text × Directive)) :
    (directiveEntries ds).filterMap Entry.directive? = ds := by
  rw [directiveEntries, List.filterMap_map]
  exact List.filterMap_some

@[simp] theorem roles_directiveEntries (ds : List (Text × Directive)) :
    (directiveEntries ds).filterMap Entry.role? = [] := by
  rw [directiveEntries, List.filterMap_map]
  exact List.filterMap_eq_nil_iff.2 fun _ _ => rfl

@[simp] theorem roles_roleEntries (rs : List (Text × Role)) :
    (roleEntries rs).filterMap Entry.role? = rs := by
  rw [roleEntries, List.filterMap_map]
  exact List.filterMap_some

@[simp] theorem directives_roleEntries (rs : List (Text × Role)) :
    (roleEntries rs).filterMap Entry.directive? = [] := by
  rw [roleEntries, List.filterMap_map]
  exact List.filterMap_eq_nil_iff.2 fun _ _ => rfl

theorem directives_entryList (catalog : Catalog) (base : NameTable Directive) (ps : List Plugin) :
    (entryList catalog base ps).filterMap Entry.directive? = directiveList catalog base ps := by
  have hplugins : (ps.flatMap pluginEntries).filterMap Entry.directive? = pluginDirectiveList ps := by
    simp [List.filterMap_flatMap, pluginEntries, pluginDirectiveList]
  simp [entryList, directiveList, hplugins]

theorem roles_entryList (catalog : Catalog) (base : NameTable Directive) (ps : List Plugin) :
    (entryList catalog base ps).filterMap Entry.role? = roleList catalog ps := by
  have hplugins : (ps.flatMap pluginEntries).filterMap Entry.role? = pluginRoleList ps := by
    simp [List.filterMap_flatMap, pluginEntries, pluginRoleList]
  simp [entryList, roleList, hplugins]

/-! ## A run of entries -/

/-- A directive and roles are registered in different tables. -/
theorem registerRoles_registerDirective (r : Registry) (name : Text) (d : Directive)
    (rs : List (Text × Role)) :
    (r.registerDirective name d).registerRoles rs =
      (r.registerRoles rs).registerDirective name d := by
  induction rs generalizing r with
  | nil => rfl
  | cons e rs ih => exact ih (r.registerRole e.1 e.2)

/-- **A run of entries registers its roles and its directives**, whatever the order in which they
come, and counts them. -/
theorem run_installEntries (n : Count) (es : List Entry) (r : Registry) :
    (installEntries n es).run r =
      (⟨n.directives + (es.filterMap Entry.directive?).length,
          n.roles + (es.filterMap Entry.role?).length⟩,
        (r.registerRoles (es.filterMap Entry.role?)).registerDirectives
          (es.filterMap Entry.directive?)) := by
  induction es generalizing n r with
  | nil => rfl
  | cons entry es ih =>
    have hstep : (installEntries n (entry :: es)).run r =
      (installEntries (n.add entry) es).run (entry.registerIn r) := rfl
    rw [hstep, ih]
    cases entry with
    | directive name d =>
      have hd : (Entry.directive name d :: es).filterMap Entry.directive? =
        (name, d) :: es.filterMap Entry.directive? := rfl
      have hr : (Entry.directive name d :: es).filterMap Entry.role? =
        es.filterMap Entry.role? := rfl
      rw [hd, hr, Entry.registerIn, registerRoles_registerDirective, Count.add, List.length_cons,
        Nat.add_right_comm, Nat.add_assoc]
      rfl
    | role name item =>
      have hd : (Entry.role name item :: es).filterMap Entry.directive? =
        es.filterMap Entry.directive? := rfl
      have hr : (Entry.role name item :: es).filterMap Entry.role? =
        (name, item) :: es.filterMap Entry.role? := rfl
      rw [hd, hr, Entry.registerIn, Count.add, List.length_cons, Nat.add_right_comm, Nat.add_assoc]
      rfl

/-! ## Registration -/

/-- Once nothing can fail any more, registration in place runs through its entries. -/
theorem run_installFrom_of_ok {e : Extensions} {r : Registry} {selection : PluginSelection}
    (hd : checkDomain r.domains e.defaultDomain = .ok ()) :
    (installFrom e selection r).run.run r =
      let done := (installEntries .zero (entryList (r.domains.catalog e.defaultDomain)
        r.baseDirectives selection.enabled)).run r
      (.ok
        { directives := done.1.directives
          roles := done.1.roles
          plugins := selection.enabled.map Plugin.name
          skippedPlugins := selection.skipped.map Plugin.name }, done.2) := by
  rw [installFrom, hd]
  -- The equation holds for any entries; the list itself is long.
  generalize entryList (r.domains.catalog e.defaultDomain) r.baseDirectives selection.enabled = es
  rfl

theorem run_installFrom_of_error {e : Extensions} {r : Registry} {selection : PluginSelection}
    {err : ExtensionError} (hd : checkDomain r.domains e.defaultDomain = .error err) :
    (installFrom e selection r).run.run r = (.error err, r) := by
  rw [installFrom, hd]
  rfl

theorem run_install_of_ok {e : Extensions} {selection : PluginSelection}
    (hs : e.selectPlugins = .ok selection) (r : Registry) :
    (install e).run.run r = (installFrom e selection r).run.run r := by
  rw [install, hs]
  rfl

/-- **Registration in place does what registration describes, or leaves the registry alone.** -/
theorem run_install (e : Extensions) (r : Registry) :
    (install e).run.run r =
      match register r e with
      | .ok (r', s) => (.ok s, r')
      | .error err => (.error err, r) := by
  cases hs : e.selectPlugins with
  | error err =>
    have hselect : e.selectIn .full = .error err := hs
    rw [install, hs, register, registerIn, hselect]
    rfl
  | ok selection =>
    cases hd : checkDomain r.domains e.defaultDomain with
    | error err =>
      rw [run_install_of_ok hs, run_installFrom_of_error hd, register, registerIn_of_error hs hd]
    | ok u =>
      rw [run_install_of_ok hs, run_installFrom_of_ok hd, run_installEntries, directives_entryList,
        roles_entryList, register, registerIn_of_ok hs hd]
      simp only [Count.zero, Nat.zero_add]

/-- Registration can be repeated: the second run finds the same domains and the same grammar, and
every entry in its place. -/
theorem register_register {r r' : Registry} {e : Extensions} {s : Summary}
    (h : register r e = .ok (r', s)) : register r' e = .ok (r', s) := by
  obtain ⟨hbase, -, hdomains⟩ := register_same h
  obtain ⟨selection, hs, hd⟩ := checks_of_registerIn h
  have hd' : checkDomain r'.domains e.defaultDomain = .ok () := by rw [hdomains, hd]
  rw [register, registerIn_of_ok hs hd', hbase, hdomains]
  rw [register, registerIn_of_ok hs hd] at h
  cases h
  dsimp only
  rw [Registry.registerRoles_registerDirectives_again]

/-- **Registration in place is all or nothing, and once is enough.** If it fails, the registry is as
it was. If it succeeds, doing it again succeeds with the same summary and changes nothing. The tables
of the grammar and the domains are never changed. -/
theorem install_unchanged_or_settled (e : Extensions) (r : Registry) :
    match (install e).run.run r with
    | (.error err, r') => register r e = .error err ∧ r' = r
    | (.ok s, r') =>
      register r e = .ok (r', s) ∧ (install e).run.run r' = (.ok s, r') ∧
        r'.baseDirectives = r.baseDirectives ∧ r'.baseRoles = r.baseRoles ∧
        r'.domains = r.domains := by
  rw [run_install]
  cases h : register r e with
  | error err => exact ⟨rfl, rfl⟩
  | ok p =>
    obtain ⟨r', s⟩ := p
    have hagain : (install e).run.run r' = (.ok s, r') := by
      rw [run_install, register_register h]
    exact ⟨rfl, hagain, register_same h⟩

end Passthrough

end StructuredText

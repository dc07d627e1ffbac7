import StructuredText.Registry

/-!
# Where a look-up finds what it gives

A look-up asks four places in turn, and what it gives was found in the first of them that knows the
name (`lookUp_eq_some_iff`). What holds of all that stands in these places therefore holds of all
that a look-up gives.
-/

namespace StructuredText

namespace Domains

/-- The domains of a lineage are known domains. -/
theorem mem_entries_of_mem_lineage {ds : Domains} {name : Text} {d : Domain}
    (h : d ∈ ds.lineage name) : ∃ k, (k, d) ∈ ds.entries := by
  fun_induction lineage ds name with
  | case1 => cases h
  | case2 ds name d' hd ih =>
    rcases List.mem_cons.1 h with rfl | h
    · exact ⟨name, NameTable.findEntry_eq_some_mem hd⟩
    · split at h
      · cases h
      · next parent hp =>
        obtain ⟨k, hk⟩ := ih parent h
        exact ⟨k, (List.mem_filter.1 hk).1⟩

theorem exists_of_directive? {ds : Domains} {domain name : Text} {d : Directive}
    (h : ds.directive? domain name = some d) :
    ∃ e ∈ ds.entries, ∃ f ∈ e.2.directives.entries, f.2 = d := by
  obtain ⟨holder, hholder, hd⟩ := List.exists_of_findSome?_eq_some h
  obtain ⟨k, hk⟩ := mem_entries_of_mem_lineage hholder
  exact ⟨_, hk, _, NameTable.findEntry_eq_some_mem hd, rfl⟩

theorem exists_of_role? {ds : Domains} {domain name : Text} {role : Role}
    (h : ds.role? domain name = some role) :
    ∃ e ∈ ds.entries, ∃ f ∈ e.2.roles.entries, f.2 = role := by
  obtain ⟨holder, hholder, hrole⟩ := List.exists_of_findSome?_eq_some h
  obtain ⟨k, hk⟩ := mem_entries_of_mem_lineage hholder
  exact ⟨_, hk, _, NameTable.findEntry_eq_some_mem hrole, rfl⟩

end Domains

namespace Registry

/-- The name in lower case, or the one that it is an alias of. -/
def canonicalName (alias? : Text → Option Text) (name : Text) : Text :=
  (alias? (lowercase name)).getD (lowercase name)

/-- Where a look-up finds what it gives, and which places it asked before in vain. -/
inductive Found {α : Type} (registered base : NameTable α) (alias? : Text → Option Text)
    (ofDomain : Text → Text → Option α) (name : Text) (x : α) : Prop where
  | registered (h : registered.find? (lowercase name) = some x)
  | canonical (hname : registered.find? (lowercase name) = none)
      (h : registered.find? (canonicalName alias? name) = some x)
  | grammar (hname : registered.find? (lowercase name) = none)
      (hcanonical : registered.find? (canonicalName alias? name) = none)
      (h : base.find? (canonicalName alias? name) = some x)
  | domain {p : Text × Text} (hname : registered.find? (lowercase name) = none)
      (hcanonical : registered.find? (canonicalName alias? name) = none)
      (hbase : base.find? (canonicalName alias? name) = none)
      (hsplit : splitColon? (lowercase name) = some p) (h : ofDomain p.1 p.2 = some x)

theorem lookUp_eq_some_iff {α : Type} {registered base : NameTable α}
    {alias? : Text → Option Text} {ofDomain : Text → Text → Option α} {name : Text} {x : α} :
    lookUp registered base alias? ofDomain name = some x ↔
      Found registered base alias? ofDomain name x := by
  unfold lookUp
  dsimp only
  rw [← canonicalName]
  constructor
  · intro h
    rcases Option.or_eq_some_iff.1 h with h | ⟨hname, h⟩
    · exact .registered h
    rcases Option.or_eq_some_iff.1 h with h | ⟨hcanonical, h⟩
    · exact .canonical hname h
    rcases Option.or_eq_some_iff.1 h with h | ⟨hbase, h⟩
    · exact .grammar hname hcanonical h
    · obtain ⟨p, hsplit, h⟩ := Option.bind_eq_some_iff.1 h
      exact .domain hname hcanonical hbase hsplit h
  · intro h
    cases h with
    | registered h => rw [h, Option.some_or]
    | canonical hname h => rw [hname, Option.none_or, h, Option.some_or]
    | grammar hname hcanonical h =>
      rw [hname, Option.none_or, hcanonical, Option.none_or, h, Option.some_or]
    | domain hname hcanonical hbase hsplit h =>
      rw [hname, Option.none_or, hcanonical, Option.none_or, hbase, Option.none_or, hsplit,
        Option.bind_some, h]

/-- What holds of all that stands in the four places holds of what a look-up gives. -/
theorem of_lookUp {α : Type} {P : α → Prop} {registered base : NameTable α}
    {alias? : Text → Option Text} {ofDomain : Text → Text → Option α}
    (hregistered : ∀ e ∈ registered.entries, P e.2) (hbase : ∀ e ∈ base.entries, P e.2)
    (hdomains : ∀ domain name x, ofDomain domain name = some x → P x) {name : Text} {x : α}
    (h : lookUp registered base alias? ofDomain name = some x) : P x := by
  cases lookUp_eq_some_iff.1 h with
  | registered h => exact hregistered _ (NameTable.findEntry_eq_some_mem h)
  | canonical hname h => exact hregistered _ (NameTable.findEntry_eq_some_mem h)
  | grammar hname hcanonical h => exact hbase _ (NameTable.findEntry_eq_some_mem h)
  | domain hname hcanonical hno hsplit h => exact hdomains _ _ _ h

theorem of_directive? {P : Directive → Prop} {r : Registry}
    (hregistered : ∀ e ∈ r.directives.entries, P e.2)
    (hbase : ∀ e ∈ r.baseDirectives.entries, P e.2)
    (hdomains : ∀ d ∈ r.domains.entries, ∀ e ∈ d.2.directives.entries, P e.2) {name : Text}
    {d : Directive} (h : r.directive? name = some d) : P d := by
  refine of_lookUp hregistered hbase (fun domain name x hx => ?_) h
  obtain ⟨e, he, f, hf, rfl⟩ := Domains.exists_of_directive? hx
  exact hdomains e he f hf

theorem of_role? {P : Role → Prop} {r : Registry} (hregistered : ∀ e ∈ r.roles.entries, P e.2)
    (hbase : ∀ e ∈ r.baseRoles.entries, P e.2)
    (hdomains : ∀ d ∈ r.domains.entries, ∀ e ∈ d.2.roles.entries, P e.2) {name : Text} {role : Role}
    (h : r.role? name = some role) : P role := by
  refine of_lookUp hregistered hbase (fun domain name x hx => ?_) h
  obtain ⟨e, he, f, hf, rfl⟩ := Domains.exists_of_role? hx
  exact hdomains e he f hf

end Registry

end StructuredText

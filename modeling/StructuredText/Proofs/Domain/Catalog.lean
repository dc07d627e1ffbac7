import StructuredText.Domain.Catalog
import StructuredText.Proofs.List
import StructuredText.Proofs.NameTable

/-!
# The catalog lists what look-ups find

A look-up in a domain goes through the lineage from the nearest domain on and takes the first hit; the
catalog lays the tables of the same domains over one another. Both come to the same
(`find?_overlay`), so that the catalog lists under a domain's name what a look-up in the domain finds,
its own or inherited, and nothing else (`mem_directives_catalog`, `mem_roles_catalog`). The statements
need that every domain stands under its own name, as `Domains.register` puts it.
-/

namespace StructuredText

/-- **Tables laid over one another answer as the first of them that knows the name.** -/
theorem find?_overlay {α : Type} (tables : List (NameTable α)) (k : Text) :
    (overlay tables).find? k = tables.findSome? fun t => t.find? k := by
  induction tables with
  | nil => rfl
  | cons t tables ih =>
    have hstep : overlay (t :: tables) = (overlay tables).insertAll t.entries := rfl
    rw [hstep, NameTable.find?_insertAll_entries, ih, List.findSome?_cons]
    cases t.find? k with
    | some v => rfl
    | none => rfl

namespace Domains

/-- Whether every domain stands under its own name. -/
def WellNamed (ds : Domains) : Prop := ∀ e ∈ ds.entries, e.2.name = e.1

theorem wellNamed_empty : WellNamed ∅ := fun _ he => by cases he

theorem WellNamed.register {ds : Domains} (h : ds.WellNamed) (d : Domain) :
    (ds.register d).WellNamed := by
  intro e he
  rcases NameTable.mem_insertEntry he with rfl | he
  · rfl
  · exact h e he

theorem find?_of_mem_lineage {ds : Domains} {name : Text} {d : Domain}
    (h : d ∈ ds.lineage name) : ∃ d', ds.find? name = some d' := by
  cases hd : ds.find? name with
  | none =>
    rw [lineage] at h
    split at h
    · cases h
    · next hs => rw [hd] at hs; cases hs
  | some d' => exact ⟨d', rfl⟩

theorem find?_of_findSome?_lineage {α : Type} {ds : Domains} {f : Domain → Option α} {name : Text}
    {x : α} (h : (ds.lineage name).findSome? f = some x) : ∃ d, ds.find? name = some d := by
  obtain ⟨holder, hholder, -⟩ := List.exists_of_findSome?_eq_some h
  exact find?_of_mem_lineage hholder

/-- What the domains contribute from one of their tables. -/
theorem mem_flatMap_entriesOf {α : Type} {ds : Domains} (hnamed : ds.WellNamed) {default : Text}
    {table : Domain → NameTable α} {e : CatalogEntry α} :
    e ∈ (ds.entries.map Prod.snd).flatMap (ds.entriesOf default table) ↔
      e.isDefault = decide (e.domain = default) ∧
        ((ds.lineage e.domain).findSome? fun d => (table d).find? e.name) = some e.item := by
  have hoverlay : ∀ name k, (overlay ((ds.lineage name).map table)).find? k =
      (ds.lineage name).findSome? fun d => (table d).find? k := fun name k => by
    rw [find?_overlay, List.findSome?_map]
    rfl
  rw [List.mem_flatMap]
  constructor
  · rintro ⟨d, hd, he⟩
    obtain ⟨f, hf, rfl⟩ := List.mem_map.1 he
    exact ⟨rfl, (hoverlay _ _).symm.trans (NameTable.find?_eq_some_iff.2 hf)⟩
  · rintro ⟨hdefault, hfind⟩
    obtain ⟨d, hd⟩ := find?_of_findSome?_lineage hfind
    have hmem := NameTable.find?_eq_some_iff.1 hd
    have hname : d.name = e.domain := hnamed _ hmem
    refine ⟨d, List.mem_map.2 ⟨_, hmem, rfl⟩, List.mem_map.2 ⟨(e.name, e.item), ?_, ?_⟩⟩
    · rw [← NameTable.find?_eq_some_iff, hname, hoverlay, hfind]
    · rw [hname, ← hdefault]

/-- **The catalog lists the directives that look-ups in the domains find.** -/
theorem mem_directives_catalog {ds : Domains} (hnamed : ds.WellNamed) {default : Text}
    {e : CatalogEntry Directive} :
    e ∈ (ds.catalog default).directives ↔
      e.isDefault = decide (e.domain = default) ∧ ds.directive? e.domain e.name = some e.item :=
  mem_flatMap_entriesOf hnamed

/-- **The catalog lists the roles that look-ups in the domains find.** -/
theorem mem_roles_catalog {ds : Domains} (hnamed : ds.WellNamed) {default : Text}
    {e : CatalogEntry Role} :
    e ∈ (ds.catalog default).roles ↔
      e.isDefault = decide (e.domain = default) ∧ ds.role? e.domain e.name = some e.item :=
  mem_flatMap_entriesOf hnamed

/-- What a look-up in a domain finds, the catalog lists. -/
theorem exists_mem_catalog {ds : Domains} (hnamed : ds.WellNamed) (default : Text)
    {domain name : Text} {d : Directive} (h : ds.directive? domain name = some d) :
    ∃ e ∈ (ds.catalog default).directives, e.domain = domain ∧ e.name = name :=
  ⟨⟨domain, name, d, decide (domain = default)⟩, (mem_directives_catalog hnamed).2 ⟨rfl, h⟩, rfl,
    rfl⟩

/-! ## Each entry once -/

/-- The entries are in the order of their domains, and those of a domain in the order of their
names. -/
theorem pairwise_flatMap_entriesOf {α : Type} {ds : Domains} (hnamed : ds.WellNamed) (default : Text)
    (table : Domain → NameTable α) :
    ((ds.entries.map Prod.snd).flatMap (ds.entriesOf default table)).Pairwise fun e f =>
      e.domain < f.domain ∨ e.domain = f.domain ∧ e.name < f.name := by
  rw [List.pairwise_flatMap, List.pairwise_map]
  constructor
  · intro d _
    exact List.pairwise_map.2 ((overlay _).ordered.imp fun hlt => Or.inr ⟨rfl, hlt⟩)
  · refine ds.ordered.imp_of_mem fun {a b} ha hb hlt e he f hf => Or.inl ?_
    obtain ⟨-, -, rfl⟩ := List.mem_map.1 he
    obtain ⟨-, -, rfl⟩ := List.mem_map.1 hf
    show a.2.name < b.2.name
    rw [hnamed a ha, hnamed b hb]
    exact hlt

/-- **The entries for a name in a domain are the one that a look-up finds, or none.** -/
theorem filter_flatMap_entriesOf {α : Type} {ds : Domains} (hnamed : ds.WellNamed)
    (default : Text) (table : Domain → NameTable α) (domain name : Text) :
    ((ds.entries.map Prod.snd).flatMap (ds.entriesOf default table)).filter
        (fun e => decide (e.domain = domain ∧ e.name = name)) =
      (((ds.lineage domain).findSome? fun d => (table d).find? name).map fun x =>
        (⟨domain, name, x, decide (domain = default)⟩ : CatalogEntry α)).toList := by
  refine List.filter_eq_toList (fun e => ?_) ?_
  · rw [mem_flatMap_entriesOf hnamed, decide_eq_true_eq, Option.map_eq_some_iff]
    constructor
    · rintro ⟨⟨hdefault, hfind⟩, rfl, rfl⟩
      refine ⟨e.item, hfind, ?_⟩
      rw [← hdefault]
    · rintro ⟨x, hfind, rfl⟩
      exact ⟨⟨rfl, hfind⟩, rfl, rfl⟩
  · -- Of two entries with one name in one domain, neither comes before the other.
    refine (pairwise_flatMap_entriesOf hnamed default table).imp fun {e f} hlt hboth => ?_
    rw [decide_eq_true_eq, decide_eq_true_eq] at hboth
    obtain ⟨⟨rfl, rfl⟩, hdomain, hname⟩ := hboth
    rcases hlt with hlt | ⟨-, hlt⟩
    · rw [hdomain] at hlt
      exact List.lt_irrefl _ hlt
    · rw [hname] at hlt
      exact List.lt_irrefl _ hlt

/-- There is an entry for a name in a domain exactly if the domain is known and a look-up succeeds. -/
theorem exists_mem_entriesOf_iff {α : Type} {ds : Domains} (hnamed : ds.WellNamed) (default : Text)
    (table : Domain → NameTable α) (domain name : Text) :
    (∃ e ∈ (ds.entries.map Prod.snd).flatMap (ds.entriesOf default table),
        e.domain = domain ∧ e.name = name) ↔
      (ds.find? domain).isSome = true ∧
        ((ds.lineage domain).findSome? fun d => (table d).find? name).isSome = true := by
  constructor
  · rintro ⟨e, he, rfl, rfl⟩
    obtain ⟨-, hfind⟩ := (mem_flatMap_entriesOf hnamed).1 he
    obtain ⟨d, hd⟩ := find?_of_findSome?_lineage hfind
    rw [hd, hfind]
    exact ⟨rfl, rfl⟩
  · rintro ⟨-, hfind⟩
    obtain ⟨x, hx⟩ := Option.isSome_iff_exists.1 hfind
    exact ⟨⟨domain, name, x, decide (domain = default)⟩,
      (mem_flatMap_entriesOf hnamed).2 ⟨rfl, hx⟩, rfl, rfl⟩

/-- The domains, registered from first to last. -/
def ofList (domains : List Domain) : Domains := domains.foldl register ∅

theorem wellNamed_ofList (domains : List Domain) : (ofList domains).WellNamed := by
  have hfold : ∀ (domains : List Domain) {ds : Domains}, ds.WellNamed →
      (domains.foldl register ds).WellNamed := by
    intro domains
    induction domains with
    | nil => exact fun h => h
    | cons d domains ih => exact fun h => ih (h.register d)
  exact hfold domains wellNamed_empty

/-- **The catalog is what the domains resolve.** It has an entry for a name in a domain exactly if the
domain is known and a look-up of the name in it succeeds. There is then one such entry; it holds what
the look-up finds, and it is marked exactly if the domain is the default one. -/
theorem catalog_ofList (domains : List Domain) (default domain name : Text) :
    ((∃ e ∈ ((ofList domains).catalog default).directives, e.domain = domain ∧ e.name = name) ↔
      ((ofList domains).find? domain).isSome = true ∧
        ((ofList domains).directive? domain name).isSome = true) ∧
    ((ofList domains).catalog default).directives.filter
        (fun e => decide (e.domain = domain ∧ e.name = name)) =
      (((ofList domains).directive? domain name).map fun d =>
        (⟨domain, name, d, decide (domain = default)⟩ : CatalogEntry Directive)).toList ∧
    ((∃ e ∈ ((ofList domains).catalog default).roles, e.domain = domain ∧ e.name = name) ↔
      ((ofList domains).find? domain).isSome = true ∧
        ((ofList domains).role? domain name).isSome = true) ∧
    ((ofList domains).catalog default).roles.filter
        (fun e => decide (e.domain = domain ∧ e.name = name)) =
      (((ofList domains).role? domain name).map fun role =>
        (⟨domain, name, role, decide (domain = default)⟩ : CatalogEntry Role)).toList := by
  have hnamed := wellNamed_ofList domains
  exact ⟨exists_mem_entriesOf_iff hnamed default Domain.directives domain name,
    filter_flatMap_entriesOf hnamed default Domain.directives domain name,
    exists_mem_entriesOf_iff hnamed default Domain.roles domain name,
    filter_flatMap_entriesOf hnamed default Domain.roles domain name⟩

end Domains

end StructuredText

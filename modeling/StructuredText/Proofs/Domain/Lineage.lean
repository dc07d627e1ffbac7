import Mathlib.Data.List.Perm.Subperm
import StructuredText.Proofs.Domain.Catalog

/-!
# The lineage of a domain

A chain of domains is followed from a name on: the domain of this name comes first, and after each
domain the one that it extends (`Follows`). Such a chain can go round in circles for ever. It cannot
if no name comes twice in it, and the lineage is the longest such chain: it ends only where there is
nothing to go on with but a domain that is on it already (`Halts`), and every other chain without a
repeated name is a beginning of it (`prefix_lineage`).

The lineage is found by taking each domain out of the collection as it is met. What is left then
answers as the whole collection does, except for the names on the chain so far; this is what the
inductions below carry.
-/

namespace StructuredText

namespace Domains

/-- A chain of domains that goes on under the name `next`, if there is one: each is the domain of the
name under which the chain goes on, and it goes on under the name of what that domain extends. -/
inductive Follows (ds : Domains) : (next : Option Text) → (chain : List Domain) → Prop where
  | stop (next : Option Text) : Follows ds next []
  | step {name : Text} {d : Domain} {chain : List Domain} (hd : ds.find? name = some d)
      (hchain : Follows ds d.parent chain) : Follows ds (some name) (d :: chain)

/-- The last domain of the chain extends nothing, or an unknown domain, or one on the chain. -/
def Halts (ds : Domains) (chain : List Domain) : Prop :=
  ∀ d, chain.getLast? = some d → d.parent = none ∨ ∃ parent, d.parent = some parent ∧
    (ds.find? parent = none ∨ ∃ e ∈ chain, e.name = parent)

variable {ds : Domains} {name : Text} {d : Domain}

/-! ## One step of the walk -/

theorem lineage_of_none (h : ds.find? name = none) : ds.lineage name = [] := by
  rw [lineage]
  split
  · rfl
  · next hd =>
    rw [h] at hd
    cases hd

theorem lineage_of_some (h : ds.find? name = some d) :
    ds.lineage name = d :: match d.parent with
      | none => []
      | some parent => lineage (ds.erase name) parent := by
  rw [lineage]
  split
  · next hd =>
    rw [h] at hd
    cases hd
  · next d' hd =>
    rw [h] at hd
    cases hd
    rfl

theorem lineage_eq_nil_iff : ds.lineage name = [] ↔ ds.find? name = none := by
  constructor
  · intro h
    cases hd : ds.find? name with
    | none => rfl
    | some d =>
      rw [lineage_of_some hd] at h
      cases h
  · exact lineage_of_none

/-- What is found after a domain was taken out is found in the whole collection, under another
name. -/
theorem find?_of_erase {k : Text} (h : NameTable.find? (ds.erase k) name = some d) :
    name ≠ k ∧ ds.find? name = some d := by
  rw [NameTable.find?_erase] at h
  split at h
  · cases h
  · next hne => exact ⟨hne, h⟩

/-- What is unknown after a domain was taken out is unknown, or it is that domain. -/
theorem find?_eq_none_of_erase {k : Text} (h : NameTable.find? (ds.erase k) name = none) :
    name = k ∨ ds.find? name = none := by
  rw [NameTable.find?_erase] at h
  split at h
  · next heq => exact Or.inl heq
  · exact Or.inr h

theorem WellNamed.erase (h : ds.WellNamed) (k : Text) : WellNamed (ds.erase k) :=
  fun e he => h e (List.mem_filter.1 he).1

theorem WellNamed.name_eq (h : ds.WellNamed) (hd : ds.find? name = some d) : d.name = name :=
  h _ (NameTable.find?_eq_some_iff.1 hd)

/-! ## What the walk gives -/

theorem Follows.of_erase {k : Text} {next : Option Text} {chain : List Domain}
    (h : Follows (ds.erase k) next chain) : Follows ds next chain := by
  induction h with
  | stop next => exact .stop next
  | step hd _ ih => exact .step (find?_of_erase hd).2 ih

theorem follows_lineage (ds : Domains) (name : Text) :
    Follows ds (some name) (ds.lineage name) := by
  fun_induction lineage ds name with
  | case1 => exact .stop _
  | case2 ds name d hd ih =>
    refine .step hd ?_
    cases hp : d.parent with
    | none => exact .stop _
    | some parent => exact (ih parent).of_erase

/-- The domains on a chain are known under their names. -/
theorem Follows.find?_of_mem (hnamed : ds.WellNamed) {next : Option Text} {chain : List Domain}
    (h : Follows ds next chain) (hd : d ∈ chain) : ds.find? d.name = some d := by
  induction h with
  | stop => cases hd
  | step hfind _ ih =>
    rcases List.mem_cons.1 hd with rfl | hd
    · rw [hnamed.name_eq hfind, hfind]
    · exact ih hd

/-- **No name comes twice in a lineage.** -/
theorem nodup_lineage (hnamed : ds.WellNamed) (name : Text) :
    ((ds.lineage name).map Domain.name).Nodup := by
  fun_induction lineage ds name with
  | case1 => exact List.nodup_nil
  | case2 ds name d hd ih =>
    rw [List.map_cons, List.nodup_cons]
    cases hp : d.parent with
    | none => exact ⟨List.not_mem_nil, List.nodup_nil⟩
    | some parent =>
      refine ⟨?_, ih parent (hnamed.erase name)⟩
      intro hmem
      obtain ⟨e, he, hname⟩ := List.mem_map.1 hmem
      -- The domain was taken out before the walk went on, so that it is not met again.
      have hfind := (follows_lineage (ds.erase name) parent).find?_of_mem (hnamed.erase name) he
      exact (find?_of_erase hfind).1 (hname.trans (hnamed.name_eq hd))

/-- **A lineage ends only where it cannot go on.** -/
theorem halts_lineage (hnamed : ds.WellNamed) (name : Text) : ds.Halts (ds.lineage name) := by
  fun_induction lineage ds name with
  | case1 =>
    intro d hd
    cases hd
  | case2 ds name d hd ih =>
    intro last hlast
    cases hp : d.parent with
    | none =>
      rw [hp] at hlast
      cases hlast
      exact Or.inl hp
    | some parent =>
      rw [hp] at hlast
      dsimp only at hlast ⊢
      -- A name that is unknown to what is left is unknown, or it is that of `d`.
      have hunknown : ∀ p, NameTable.find? (ds.erase name) p = none →
          ds.find? p = none ∨ ∃ e ∈ d :: lineage (ds.erase name) parent, e.name = p := by
        intro p hnone
        rcases find?_eq_none_of_erase hnone with rfl | hnone
        · exact Or.inr ⟨d, List.mem_cons_self .., hnamed.name_eq hd⟩
        · exact Or.inl hnone
      by_cases hrest : lineage (ds.erase name) parent = []
      · rw [hrest] at hlast
        cases hlast
        exact Or.inr ⟨parent, hp, hunknown parent (lineage_eq_nil_iff.1 hrest)⟩
      · obtain ⟨e, rest, he⟩ := List.exists_cons_of_ne_nil hrest
        rw [he, List.getLast?_cons_cons, ← he] at hlast
        rcases ih parent (hnamed.erase name) last hlast with hnone | ⟨p, hlastp, hend⟩
        · exact Or.inl hnone
        · refine Or.inr ⟨p, hlastp, ?_⟩
          rcases hend with hnone | ⟨e', he', hname⟩
          · exact hunknown p hnone
          · exact Or.inr ⟨e', List.mem_cons_of_mem _ he', hname⟩

/-- A chain goes on in what is left of a collection if it does not come back to what was taken out. -/
theorem Follows.erase {k : Text} {next : Option Text} {chain : List Domain}
    (hnamed : ds.WellNamed) (h : Follows ds next chain) (hk : k ∉ chain.map Domain.name) :
    Follows (ds.erase k) next chain := by
  induction h with
  | stop next => exact .stop next
  | @step name d chain hd _ ih =>
    rw [List.map_cons, List.mem_cons, not_or, hnamed.name_eq hd] at hk
    refine .step ?_ (ih hk.2)
    rw [NameTable.find?_erase, if_neg (fun h => hk.1 h.symm), hd]

/-- **Every chain without a repeated name is a beginning of the lineage.** -/
theorem prefix_lineage (hnamed : ds.WellNamed) {chain : List Domain}
    (h : Follows ds (some name) chain) (hnodup : (chain.map Domain.name).Nodup) :
    chain <+: ds.lineage name := by
  fun_induction lineage ds name generalizing chain with
  | case1 ds name hd =>
    cases h with
    | stop => exact List.nil_prefix
    | step hd' _ =>
      rw [hd] at hd'
      cases hd'
  | case2 ds name d hd ih =>
    cases h with
    | stop => exact List.nil_prefix
    | step hd' hchain =>
      rw [hd] at hd'
      cases hd'
      rw [List.map_cons, List.nodup_cons, hnamed.name_eq hd] at hnodup
      refine List.cons_prefix_cons.2 ⟨rfl, ?_⟩
      cases hp : d.parent with
      | none =>
        rw [hp] at hchain
        cases hchain
        exact List.nil_prefix
      | some parent =>
        rw [hp] at hchain
        exact ih parent (hnamed.erase name) (hchain.erase hnamed hnodup.1) hnodup.2

/-! ## Domains that were registered one after the other -/

/-- A name stands for the last domain that was registered under it. -/
theorem find?_ofList (domains : List Domain) (name : Text) :
    (ofList domains).find? name = domains.reverse.find? fun d => d.name = name := by
  have hfold : ∀ (domains : List Domain) (ds : Domains),
      NameTable.find? (domains.foldl register ds) name =
        (domains.reverse.find? fun d => d.name = name).or (ds.find? name) := by
    intro domains
    induction domains with
    | nil => exact fun _ => rfl
    | cons d domains ih =>
      intro ds
      rw [List.foldl_cons, ih, register, NameTable.find?_insert, List.reverse_cons,
        List.find?_append]
      cases domains.reverse.find? fun d => d.name = name with
      | some e => rfl
      | none =>
        by_cases hname : d.name = name
        · simp [hname]
        · have hname' : ¬name = d.name := fun h => hname h.symm
          simp [hname, hname']
  rw [ofList, hfold]
  exact Option.or_none

/-- **The lineage is the longest chain without a repeated name.** It begins with the domain that is
registered under the name and goes on with what each domain extends; it ends only at a domain that
extends nothing, or something unknown, or a domain that is on the chain. It is never longer than the
number of domains, and it is empty exactly if no domain has the name. -/
theorem lineage_ofList (domains : List Domain) (name : Text) :
    Follows (ofList domains) (some name) ((ofList domains).lineage name) ∧
      (((ofList domains).lineage name).map Domain.name).Nodup ∧
      (ofList domains).Halts ((ofList domains).lineage name) ∧
      (∀ chain, Follows (ofList domains) (some name) chain → (chain.map Domain.name).Nodup →
        chain <+: (ofList domains).lineage name) ∧
      ((ofList domains).lineage name).length ≤ (ofList domains).size ∧
      ((ofList domains).lineage name = [] ↔ ∀ d ∈ domains, d.name ≠ name) := by
  have hnamed := wellNamed_ofList domains
  have hfollows := follows_lineage (ofList domains) name
  have hnodup := nodup_lineage hnamed name
  refine ⟨hfollows, hnodup, halts_lineage hnamed name, fun chain => prefix_lineage hnamed, ?_, ?_⟩
  · -- The names on the chain are names of the collection, and none comes twice.
    have hsubset : ((ofList domains).lineage name).map Domain.name ⊆ (ofList domains).names := by
      intro k hk
      obtain ⟨d, hd, rfl⟩ := List.mem_map.1 hk
      rw [← NameTable.isSome_find?_iff, hfollows.find?_of_mem hnamed hd]
      rfl
    have hlength := (hnodup.subperm hsubset).length_le
    rwa [List.length_map, NameTable.names, List.length_map] at hlength
  · rw [lineage_eq_nil_iff, find?_ofList, List.find?_eq_none]
    simp only [List.mem_reverse, decide_eq_true_eq, ne_eq]

/-- Domains that go round in a circle, which does not come back to the first of them; one of them was
registered twice, and extends what it did the second time. -/
def circle : List Domain :=
  [{ name := "a", parent := some ("b" : String) }, { name := "b" },
    { name := "c", parent := some ("b" : String) }, { name := "b", parent := some ("c" : String) }]

/-- The lineage goes once round the circle, and no chain without a repeated name goes further. -/
theorem lineage_ofList_circle :
    ((ofList circle).lineage "a").map Domain.name = ["a".toList, "b".toList, "c".toList] ∧
      ∀ chain, Follows (ofList circle) (some "a".toList) chain →
        (chain.map Domain.name).Nodup → chain.length ≤ 3 := by
  have hnames : ((ofList circle).lineage "a").map Domain.name =
      ["a".toList, "b".toList, "c".toList] := by cbv
  refine ⟨hnames, ?_⟩
  intro chain hchain hnodup
  obtain ⟨-, -, -, hbegins, -, -⟩ := lineage_ofList circle "a"
  have hlength := (hbegins chain hchain hnodup).length_le
  have hthree : ((ofList circle).lineage "a").length = 3 := by
    rw [← List.length_map Domain.name, hnames]
    rfl
  omega

end Domains

end StructuredText

import StructuredText.FileTree
import StructuredText.Proofs.List

/-!
# The nearest file of a name

The directories around a place are its beginnings, and the search for a file of a name goes through
them from the innermost outwards. So it finds the file in the deepest of them that has one
(`nearest?_eq_some_iff`), and nothing if none has one (`nearest?_eq_none_iff`).
-/

namespace StructuredText

namespace FileTree

theorem mem_ancestors_iff {d directory : Place} : d ∈ ancestors directory ↔ d <+: directory := by
  induction directory generalizing d with
  | nil => rw [ancestors, List.mem_singleton, List.prefix_nil]
  | cons name names ih =>
    rw [ancestors, List.mem_append, List.mem_map, List.mem_singleton]
    constructor
    · rintro (⟨d', hd', rfl⟩ | rfl)
      · exact List.cons_prefix_cons.2 ⟨rfl, ih.1 hd'⟩
      · exact List.nil_prefix
    · intro h
      cases d with
      | nil => exact Or.inr rfl
      | cons first d =>
        obtain ⟨rfl, hd⟩ := List.cons_prefix_cons.1 h
        exact Or.inl ⟨d, ih.2 hd, rfl⟩

/-- The innermost directory comes first. -/
theorem pairwise_ancestors (directory : Place) :
    (ancestors directory).Pairwise fun d d' => d'.length < d.length := by
  induction directory with
  | nil => exact List.pairwise_singleton ..
  | cons name names ih =>
    rw [ancestors, List.pairwise_append, List.pairwise_map]
    refine ⟨?_, List.pairwise_singleton .., ?_⟩
    · refine ih.imp ?_
      intro d d' hlt
      rw [List.length_cons, List.length_cons]
      omega
    · intro d hd d' hd'
      obtain ⟨rest, -, rfl⟩ := List.mem_map.1 hd
      rw [List.mem_singleton.1 hd', List.length_nil, List.length_cons]
      omega

variable {tree : FileTree} {name : Text} {directory place : Place}

/-- **The file that is found stands in the deepest directory that has one of the name.** -/
theorem nearest?_eq_some_iff :
    tree.nearest? name directory = some place ↔
      ∃ d, d <+: directory ∧ place = d ++ [name] ∧ tree.isPresent (d ++ [name]) = true ∧
        ∀ d', d' <+: directory → d.length < d'.length → tree.isPresent (d' ++ [name]) = false := by
  have hfind : ∀ d, (ancestors directory).find? (tree.isPresent ∘ (· ++ [name])) = some d ↔
      d <+: directory ∧ tree.isPresent (d ++ [name]) = true ∧
        ∀ d', d' <+: directory → d.length < d'.length →
          tree.isPresent (d' ++ [name]) = false := by
    intro d
    rw [List.find?_eq_some_iff_of_pairwise (pairwise_ancestors directory), mem_ancestors_iff]
    simp only [mem_ancestors_iff, Function.comp_apply]
  rw [nearest?, List.find?_map, Option.map_eq_some_iff]
  constructor
  · rintro ⟨d, hd, rfl⟩
    obtain ⟨hfront, hpresent, hdeepest⟩ := (hfind d).1 hd
    exact ⟨d, hfront, rfl, hpresent, hdeepest⟩
  · rintro ⟨d, hfront, rfl, hpresent, hdeepest⟩
    exact ⟨d, (hfind d).2 ⟨hfront, hpresent, hdeepest⟩, rfl⟩

/-- **Nothing is found if no directory around has a file of the name.** -/
theorem nearest?_eq_none_iff :
    tree.nearest? name directory = none ↔
      ∀ d, d <+: directory → tree.isPresent (d ++ [name]) = false := by
  rw [nearest?, List.find?_map, Option.map_eq_none_iff, List.find?_eq_none]
  simp only [mem_ancestors_iff, Function.comp_apply, Bool.not_eq_true]

end FileTree

end StructuredText

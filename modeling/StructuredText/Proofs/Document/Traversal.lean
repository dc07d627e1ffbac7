import StructuredText.Document.Traversal

/-!
# What a traversal meets

A traversal of blocks meets each of them with all that is nested in it (`visit_eq_flatMap`), so that
membership in it is decided block by block.
-/

namespace StructuredText

namespace Block

@[simp] theorem visit_nil : visit [] = [] := by rw [visit]

theorem visit_cons (b : Block) (bs : List Block) : visit (b :: bs) = b :: visit (b.children ++ bs) := by
  rw [visit]

theorem visit_append (as bs : List Block) : visit (as ++ bs) = visit as ++ visit bs := by
  induction hn : countAll as using Nat.strongRecOn generalizing as with
  | _ n ih =>
    subst hn
    cases as with
    | nil => simp
    | cons a as =>
      -- The first block is replaced by its children, which are fewer blocks in all.
      have hlt : countAll (a.children ++ as) < countAll (a :: as) := by
        rw [countAll_append, countAll, count_eq]
        omega
      rw [List.cons_append, visit_cons, ← List.append_assoc, ih _ hlt _ rfl, visit_cons,
        List.cons_append]

/-- **A traversal meets each block, and then what is nested in it.** -/
theorem visit_eq_flatMap (bs : List Block) :
    visit bs = bs.flatMap fun b => b :: visit b.children := by
  induction bs with
  | nil => simp
  | cons b bs ih => rw [visit_cons, visit_append, ih, List.flatMap_cons, List.cons_append]

theorem mem_visit_iff {x : Block} {bs : List Block} :
    x ∈ visit bs ↔ ∃ b ∈ bs, x = b ∨ x ∈ visit b.children := by
  rw [visit_eq_flatMap, List.mem_flatMap]
  simp only [List.mem_cons]

end Block

theorem Document.mem_blocks_of_mem {d : Document} {b : Block} (h : b ∈ d.children) :
    b ∈ d.blocks :=
  Block.mem_visit_iff.2 ⟨b, h, Or.inl rfl⟩

theorem Document.head?_blocks {b : Block} (bs : List Block) :
    (Document.mk (b :: bs)).blocks.head? = some b := by
  rw [Document.blocks, Block.visit_cons, List.head?_cons]

end StructuredText

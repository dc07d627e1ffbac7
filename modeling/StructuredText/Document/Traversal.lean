import StructuredText.Document.Basic

/-!
# Traversal

The blocks of a document in document order, nested ones after the block that holds them. The
traversal keeps the blocks still to be visited in one list: it takes the first and puts its
children in front of the others. It ends because the blocks on the list get fewer, counted with all
that is nested in them.
-/

namespace StructuredText

mutual

/-- The number of blocks in a block, itself included. -/
def Block.count : Block → Nat
  | .quote _ bs => 1 + Block.countAll bs
  | .element _ _ _ bs => 1 + Block.countAll bs
  | .paragraph .. => 1
  | .comment .. => 1
  | .directive .. => 1
  | .extension .. => 1

/-- The number of blocks in a list of blocks, all nested ones included. -/
def Block.countAll : List Block → Nat
  | [] => 0
  | b :: bs => Block.count b + Block.countAll bs

end

namespace Block

theorem countAll_append (as bs : List Block) : countAll (as ++ bs) = countAll as + countAll bs := by
  induction as with
  | nil => simp [countAll]
  | cons a as ih => simp only [List.cons_append, countAll, ih]; omega

theorem count_eq (b : Block) : b.count = 1 + countAll b.children := by
  cases b <;> simp [count, children, countAll]

/-- The blocks met from a list of blocks still to be visited. -/
def visit : List Block → List Block
  | [] => []
  | b :: pending => b :: visit (b.children ++ pending)
termination_by pending => countAll pending
decreasing_by
  simp only [countAll_append, countAll, count_eq]
  omega

end Block

namespace Document

/-- All blocks in document order. -/
def blocks (d : Document) : List Block := Block.visit d.children

/-- All inline nodes of all paragraphs in document order. -/
def inlines (d : Document) : List Inline := d.blocks.flatMap Block.inlines

end Document

end StructuredText

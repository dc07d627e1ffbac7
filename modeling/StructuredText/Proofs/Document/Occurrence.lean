import StructuredText.Proofs.Document.Traversal

/-!
# Where blocks occur

A block occurs in a list of blocks if it is one of them or occurs in what is nested in one. Other
than a traversal of a document, this looks into the nodes that keep an invocation; the invocations
that are passed on the way down tell where the block is.
-/

namespace StructuredText

/-- The block `b` occurs in the blocks, inside the content of the given invocations, the outermost
first. -/
inductive Block.Occurs (b : Block) : (path : List Invocation) → List Block → Prop where
  | here {bs : List Block} (h : b ∈ bs) : Occurs b [] bs
  | quote {path : List Invocation} {bs inner : List Block} {line : Nat}
      (h : Block.quote line inner ∈ bs) (hin : Occurs b path inner) : Occurs b path bs
  | element {path : List Invocation} {bs inner : List Block} {tag : Text}
      {attributes : List (Text × Text)} {text : Option Text}
      (h : Block.element tag attributes text inner ∈ bs) (hin : Occurs b path inner) :
      Occurs b path bs
  | directive {path : List Invocation} {bs inner : List Block} {inv : Invocation} {raw : Bool}
      (h : Block.directive inv raw inner ∈ bs) (hin : Occurs b path inner) :
      Occurs b (inv :: path) bs

theorem Block.not_occurs_nil {b : Block} {path : List Invocation} : ¬b.Occurs path [] := by
  intro h
  cases h with
  | here h => cases h
  | quote h => cases h
  | element h => cases h
  | directive h => cases h

/-- What a traversal meets occurs, outside of all kept invocations. -/
theorem Block.occurs_of_mem_visit {b : Block} {bs : List Block} (h : b ∈ visit bs) :
    b.Occurs [] bs := by
  induction hn : countAll bs using Nat.strongRecOn generalizing bs with
  | _ n ih =>
    subst hn
    obtain ⟨a, ha, rfl | hin⟩ := mem_visit_iff.1 h
    · exact .here ha
    · have hlt : countAll a.children < countAll bs := by
        obtain ⟨front, back, rfl⟩ := List.append_of_mem ha
        rw [countAll_append, countAll, count_eq]
        omega
      have hocc := ih _ hlt hin rfl
      -- A traversal goes on only into quotes and elements.
      cases a with
      | quote line inner => exact .quote ha hocc
      | element tag attributes text inner => exact .element ha hocc
      | paragraph line is => exact absurd hocc not_occurs_nil
      | comment line text => exact absurd hocc not_occurs_nil
      | directive inv raw inner => exact absurd hocc not_occurs_nil
      | extension tag inv attributes inner => exact absurd hocc not_occurs_nil

end StructuredText

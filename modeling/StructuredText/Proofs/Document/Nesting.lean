import StructuredText.Proofs.Document.Occurrence

/-!
# How deeply directives are nested

The directives around a block are those whose content it occurs in. Blocks nest within a number if
fewer directives than that are around each one whose content is parsed (`Block.NestsWithin`); quotes
do not count, nor does a directive that is kept raw. Whether blocks do is decided block by block
(`nestsWithin_iff_forall`), and a directive around them takes one from the number
(`nestsWithin_directive`).
-/

namespace StructuredText

namespace Block

/-- Whether the block `b` occurs in what is nested in a block. -/
def OccursInside (b : Block) (path : List Invocation) : Block → Prop
  | quote _ inner => b.Occurs path inner
  | element _ _ _ inner => b.Occurs path inner
  | directive inv _ inner => ∃ rest, path = inv :: rest ∧ b.Occurs rest inner
  | _ => False

/-- A block occurs in some blocks if it is one of them or occurs inside of one. -/
theorem occurs_iff_exists {b : Block} {path : List Invocation} {bs : List Block} :
    b.Occurs path bs ↔ ∃ a ∈ bs, (path = [] ∧ b = a) ∨ b.OccursInside path a := by
  constructor
  · intro h
    cases h with
    | here h => exact ⟨b, h, Or.inl ⟨rfl, rfl⟩⟩
    | quote h hin => exact ⟨_, h, Or.inr hin⟩
    | element h hin => exact ⟨_, h, Or.inr hin⟩
    | directive h hin => exact ⟨_, h, Or.inr ⟨_, rfl, hin⟩⟩
  · rintro ⟨a, ha, ⟨rfl, rfl⟩ | h⟩
    · exact .here ha
    · cases a with
      | quote line inner => exact .quote ha h
      | element tag attributes text inner => exact .element ha h
      | directive inv raw inner =>
        obtain ⟨rest, rfl, hin⟩ := h
        exact .directive ha hin
      | paragraph line is => exact h.elim
      | comment line text => exact h.elim
      | extension tag inv attributes inner => exact h.elim

theorem occurs_singleton_iff {b a : Block} {path : List Invocation} :
    b.Occurs path [a] ↔ (path = [] ∧ b = a) ∨ b.OccursInside path a := by
  rw [occurs_iff_exists]
  simp only [List.mem_singleton, exists_eq_left]

/-- Whether fewer than `k` directives are around each directive whose content is parsed. -/
def NestsWithin (k : Nat) (bs : List Block) : Prop :=
  ∀ inv children path, (directive inv false children).Occurs path bs → path.length < k

variable {k : Nat} {bs : List Block}

theorem nestsWithin_iff_forall : NestsWithin k bs ↔ ∀ b ∈ bs, NestsWithin k [b] := by
  constructor
  · intro h b hb inv children path hocc
    exact h inv children path (occurs_iff_exists.2 ⟨b, hb, occurs_singleton_iff.1 hocc⟩)
  · intro h inv children path hocc
    obtain ⟨b, hb, hocc⟩ := occurs_iff_exists.1 hocc
    exact h b hb inv children path (occurs_singleton_iff.2 hocc)

theorem nestsWithin_nil : NestsWithin k [] :=
  nestsWithin_iff_forall.2 fun _ hb => by cases hb

theorem nestsWithin_append {as : List Block} :
    NestsWithin k (as ++ bs) ↔ NestsWithin k as ∧ NestsWithin k bs := by
  rw [nestsWithin_iff_forall, List.forall_mem_append, ← nestsWithin_iff_forall,
    ← nestsWithin_iff_forall]

/-- A block in which nothing is nested. -/
theorem nestsWithin_leaf {a : Block} (h : ∀ b path, ¬OccursInside b path a)
    (hne : ∀ inv children, directive inv false children ≠ a) : NestsWithin k [a] := by
  intro inv children path hocc
  rcases occurs_singleton_iff.1 hocc with ⟨-, ha⟩ | hin
  · exact absurd ha (hne inv children)
  · exact absurd hin (h _ path)

theorem nestsWithin_paragraph (line : Nat) (is : List Inline) :
    NestsWithin k [paragraph line is] :=
  nestsWithin_leaf (fun _ _ => id) fun _ _ h => by cases h

theorem nestsWithin_comment (line : Nat) (text : Text) : NestsWithin k [comment line text] :=
  nestsWithin_leaf (fun _ _ => id) fun _ _ h => by cases h

theorem nestsWithin_ofText (tag text : Text) : NestsWithin k [ofText tag text] :=
  nestsWithin_leaf (fun _ _ => not_occurs_nil) fun _ _ h => by cases h

theorem nestsWithin_raw (inv : Invocation) : NestsWithin k [directive inv true []] :=
  nestsWithin_leaf (fun _ _ ⟨_, _, hin⟩ => not_occurs_nil hin) fun _ _ h => by cases h

/-- **Quotes do not count.** -/
theorem nestsWithin_quote {line : Nat} : NestsWithin k [quote line bs] ↔ NestsWithin k bs := by
  constructor
  · intro h inv children path hocc
    exact h inv children path (.quote (List.mem_singleton_self _) hocc)
  · intro h inv children path hocc
    rcases occurs_singleton_iff.1 hocc with ⟨-, ha⟩ | hin
    · cases ha
    · exact h inv children path hin

/-- **A directive counts**, even one without content. -/
theorem nestsWithin_directive {inv : Invocation} :
    NestsWithin (k + 1) [directive inv false bs] ↔ NestsWithin k bs := by
  constructor
  · intro h inv' children path hocc
    have hlt := h inv' children (inv :: path) (.directive (List.mem_singleton_self _) hocc)
    rw [List.length_cons] at hlt
    omega
  · intro h inv' children path hocc
    rcases occurs_singleton_iff.1 hocc with ⟨rfl, -⟩ | ⟨rest, rfl, hin⟩
    · exact Nat.succ_pos k
    · exact Nat.succ_lt_succ (h inv' children rest hin)

theorem not_nestsWithin_zero_directive {inv : Invocation} :
    ¬NestsWithin 0 [directive inv false bs] := fun h =>
  Nat.not_lt_zero _ (h inv bs [] (.here (List.mem_singleton_self _)))

end Block

end StructuredText

import StructuredText.Block.Chunk
import StructuredText.Proofs.Block.DirectiveMarker
import StructuredText.Proofs.List
import StructuredText.Proofs.Text.Margin

/-!
# Where chunks stand

A chunk is a run of neighbouring lines, and its index says where they begin
(`exists_drop_of_mem_chunksFrom`); its first and last lines are not blank. A line that begins explicit
markup and the lines that continue it are one chunk (`chunks_of_block`), and so are an indented line
and those that continue it (`chunksFrom_of_indented`).
-/

namespace StructuredText

open Text (EndsFilled endsFilled_dropTrailingBlanks dropTrailingBlanks_eq_self
  prefix_dropTrailingBlanks)

theorem prefix_blockLines (l : Text) (ls : List Text) : blockLines l ls <+: l :: ls :=
  List.cons_prefix_cons.2 ⟨rfl, (prefix_dropTrailingBlanks _).trans (List.takeWhile_prefix _)⟩

/-- **Where a chunk stands.** It begins with a line that is not blank, and goes on to the end of the
paragraph or with the lines that continue the block. Its index counts the lines before it. -/
theorem exists_drop_of_mem_chunksFrom {literal : Bool} {index : Nat} {ls : List Text} {c : Chunk}
    (h : c ∈ chunksFrom literal index ls) :
    ∃ k l below, c.start = index + k ∧ ls.drop k = l :: below ∧ Text.isBlank l = false ∧
      (c.kind = .paragraph ∧ c.lines = l :: (below.takeWhile fun x => !Text.isBlank x) ∨
        c.kind ≠ .paragraph ∧ c.lines = blockLines l below) := by
  fun_induction chunksFrom literal index ls with
  | case1 => cases h
  | case2 literal index l ls _ ih =>
    obtain ⟨k, first, below, hk, hdrop, hlines⟩ := ih h
    exact ⟨k + 1, first, below, by omega, by rwa [List.drop_succ_cons], hlines⟩
  | case3 literal index l ls hb _ ih =>
    rcases List.mem_cons.1 h with rfl | h
    · have hkind : (if literal then ChunkKind.literal else .quote) ≠ .paragraph := by
        cases literal <;> decide
      exact ⟨0, l, ls, rfl, rfl, by simpa using hb, Or.inr ⟨hkind, rfl⟩⟩
    · obtain ⟨k, first, below, hk, hdrop, hlines⟩ := ih h
      refine ⟨(ls.takeWhile Text.continuesBlock).length + k + 1, first, below, by omega, ?_, hlines⟩
      rwa [List.drop_cons_takeWhile]
  | case4 literal index l ls hb _ _ ih =>
    rcases List.mem_cons.1 h with rfl | h
    · have hkind : ChunkKind.explicit ≠ .paragraph := by decide
      exact ⟨0, l, ls, rfl, rfl, by simpa using hb, Or.inr ⟨hkind, rfl⟩⟩
    · obtain ⟨k, first, below, hk, hdrop, hlines⟩ := ih h
      refine ⟨(ls.takeWhile Text.continuesBlock).length + k + 1, first, below, by omega, ?_, hlines⟩
      rwa [List.drop_cons_takeWhile]
  | case5 literal index l ls hb _ _ paragraph ih =>
    rcases List.mem_cons.1 h with rfl | h
    · exact ⟨0, l, ls, rfl, rfl, by simpa using hb, Or.inl ⟨rfl, rfl⟩⟩
    · obtain ⟨k, first, below, hk, hdrop, hlines⟩ := ih h
      refine ⟨(ls.takeWhile fun l => !Text.isBlank l).length + k + 1, first, below, ?_, ?_, hlines⟩
      · simp only [paragraph, List.length_cons] at hk
        omega
      · rwa [List.drop_cons_takeWhile]

/-- **A chunk is a run of the lines it was cut from**, and its index counts the lines before it. -/
theorem prefix_drop_of_mem_chunksFrom {literal : Bool} {index : Nat} {ls : List Text} {c : Chunk}
    (h : c ∈ chunksFrom literal index ls) :
    ∃ k, c.start = index + k ∧ c.lines <+: ls.drop k := by
  obtain ⟨k, l, below, hk, hdrop, -, ⟨-, hlines⟩ | ⟨-, hlines⟩⟩ := exists_drop_of_mem_chunksFrom h
  · refine ⟨k, hk, ?_⟩
    rw [hdrop, hlines]
    exact List.cons_prefix_cons.2 ⟨rfl, List.takeWhile_prefix _⟩
  · refine ⟨k, hk, ?_⟩
    rw [hdrop, hlines]
    exact prefix_blockLines l below

/-- A chunk begins with a line that is not blank, and does not end with a blank one. -/
theorem lines_of_mem_chunksFrom {literal : Bool} {index : Nat} {ls : List Text} {c : Chunk}
    (h : c ∈ chunksFrom literal index ls) :
    ∃ l below, c.lines = l :: below ∧ Text.isBlank l = false ∧ EndsFilled below := by
  obtain ⟨-, l, below, -, -, hb, ⟨-, hlines⟩ | ⟨-, hlines⟩⟩ := exists_drop_of_mem_chunksFrom h
  · refine ⟨l, _, hlines, hb, Text.endsFilled_of_all fun x hx => ?_⟩
    simpa using List.of_mem_takeWhile hx
  · exact ⟨l, _, hlines, hb, endsFilled_dropTrailingBlanks _⟩

/-- The lines that are cut into chunks keep what holds of each of them. -/
theorem mem_of_mem_lines {ls : List Text} {c : Chunk} (h : c ∈ chunks ls) {l : Text}
    (hl : l ∈ c.lines) : l ∈ ls :=
  (sublist_of_mem_chunksFrom h).subset hl

theorem getElem?_of_mem_chunks {ls : List Text} {c : Chunk} (h : c ∈ chunks ls) {i : Nat} {l : Text}
    (hl : c.lines[i]? = some l) : ls[c.start + i]? = some l := by
  obtain ⟨k, hk, below, hbelow⟩ := prefix_drop_of_mem_chunksFrom h
  rw [hk, Nat.zero_add, ← List.getElem?_drop, ← hbelow,
    List.getElem?_append_left (List.getElem?_eq_some_iff.1 hl).1, hl]

/-- A chunk that begins with a line of explicit markup is explicit markup. -/
theorem kind_of_isExplicit {literal : Bool} {index : Nat} {ls : List Text} {c : Chunk}
    (h : c ∈ chunksFrom literal index ls) {line : Text} (hline : c.lines.head? = some line)
    (he : isExplicit line = true) : c.kind = .explicit := by
  fun_induction chunksFrom literal index ls with
  | case1 => cases h
  | case2 literal index l ls _ ih => exact ih h
  | case3 literal index l ls _ hi ih =>
    rcases List.mem_cons.1 h with rfl | h
    · cases hline
      rw [indentation_of_isExplicit he] at hi
      omega
    · exact ih h
  | case4 literal index l ls _ _ _ ih =>
    rcases List.mem_cons.1 h with rfl | h
    · rfl
    · exact ih h
  | case5 literal index l ls _ _ hplain paragraph ih =>
    rcases List.mem_cons.1 h with rfl | h
    · cases hline
      exact absurd he hplain
    · exact ih h

/-- Explicit markup that the lines begin with is their first chunk. -/
theorem exists_chunks_eq_cons {l : Text} (h : isExplicit l = true) (ls : List Text) :
    ∃ index, chunks (l :: ls) = ⟨.explicit, 0, blockLines l ls⟩ ::
      chunksFrom false index (ls.dropWhile Text.continuesBlock) := by
  have hi := indentation_of_isExplicit h
  rw [chunks, chunksFrom, if_neg (by simp [isBlank_of_isExplicit h]), if_neg (by omega), if_pos h]
  exact ⟨_, rfl⟩

/-- A block ends with its first line if the next line that is not blank is not indented. -/
theorem blockLines_of_stop {l : Text} {rest : List Text}
    (h : ∀ m, rest.find? (fun m => !Text.isBlank m) = some m → Text.indentation m = 0) :
    blockLines l rest = [l] := by
  have hblank : ∀ m ∈ rest.takeWhile Text.continuesBlock, Text.isBlank m = true := by
    induction rest with
    | nil =>
      intro m hm
      cases hm
    | cons r rest ih =>
      cases hr : Text.isBlank r with
      | true =>
        have hcontinues : Text.continuesBlock r = true := by rw [Text.continuesBlock, hr, Bool.true_or]
        rw [List.takeWhile_cons_of_pos hcontinues]
        refine List.forall_mem_cons.2 ⟨hr, ih fun m hm => h m ?_⟩
        rwa [List.find?_cons_of_neg (by simp [hr])]
      | false =>
        have hflush : Text.indentation r = 0 := h r (List.find?_cons_of_pos (by simp [hr]))
        have hstops : ¬Text.continuesBlock r = true := by simp [Text.continuesBlock, hr, hflush]
        rw [List.takeWhile_cons_of_neg hstops]
        intro m hm
        cases hm
  have hnone : Text.dropTrailingBlanks ([] ++ rest.takeWhile Text.continuesBlock) = [] :=
    Text.dropTrailingBlanks_append hblank
  rw [List.nil_append] at hnone
  rw [blockLines, hnone]

/-- **Explicit markup and the lines that continue it are one chunk.** -/
theorem chunks_of_block {l : Text} {ls : List Text} (h : isExplicit l = true)
    (hc : ∀ x ∈ ls, Text.continuesBlock x = true) (hend : EndsFilled ls) :
    chunks (l :: ls) = [⟨.explicit, 0, l :: ls⟩] := by
  have htake : ls.takeWhile Text.continuesBlock = ls := List.takeWhile_eq_self_iff.2 hc
  have hdrop : ls.dropWhile Text.continuesBlock = [] := List.dropWhile_eq_nil_iff.2 hc
  obtain ⟨index, hchunks⟩ := exists_chunks_eq_cons h ls
  rw [hchunks, hdrop, chunksFrom, blockLines, htake, dropTrailingBlanks_eq_self hend]

/-- **An indented line and the lines that continue its block are one chunk**, but for blank lines at
the end: a literal block if one has been announced, and else a quote. -/
theorem chunksFrom_of_indented (literal : Bool) (index : Nat) {l : Text} {ls : List Text}
    (hb : Text.isBlank l = false) (hi : 0 < Text.indentation l)
    (hc : ∀ x ∈ ls, Text.continuesBlock x = true) :
    chunksFrom literal index (l :: ls) =
      [⟨if literal then .literal else .quote, index, Text.dropTrailingBlanks (l :: ls)⟩] := by
  have htake : ls.takeWhile Text.continuesBlock = ls := List.takeWhile_eq_self_iff.2 hc
  have hdrop : ls.dropWhile Text.continuesBlock = [] := List.dropWhile_eq_nil_iff.2 hc
  rw [chunksFrom, if_neg (by simp [hb]), if_pos hi, hdrop, chunksFrom, blockLines, htake,
    Text.dropTrailingBlanks_cons hb]

end StructuredText

import Mathlib.Data.List.Permutation
import StructuredText.Proofs.Block.Boundary
import StructuredText.Proofs.Parser.Shift

/-!
# Parsing one document after the other

A blank line and a line that is not indented put an end to all that stands open. So a source that
consists of two sources, the second of which begins flush, is parsed one after the other: its blocks
are those of the first and then those of the second, further down, and its error is that of the first,
or else that of the second, further down (`parse_append`).

That the second is not parsed differently for standing further down is `blocks_add`; what is left is
that the chunks of the lines are those of either part (`chunksFrom_append`).
-/

namespace StructuredText

open Text (StartsAnew)

namespace Parser

section Blocks

variable (p : Parser) (nested : Nested)

/-- The blocks of chunks further down. -/
theorem mapM_chunksFrom (quoted : Nested) (offset k : Nat) (ls : List Text) :
    (chunksFrom false k ls).mapM (p.chunkBlocks nested quoted offset) =
      (chunks ls).mapM (p.chunkBlocks nested quoted (offset + k)) := by
  have hchunk : ∀ c : Chunk, p.chunkBlocks nested quoted offset { c with start := c.start + k } =
      p.chunkBlocks nested quoted (offset + k) c := by
    intro c
    have hstart : offset + (c.start + k) = offset + k + c.start := by omega
    unfold chunkBlocks
    dsimp only
    rw [hstart]
  have hchunks := chunksFrom_add false 0 k ls
  rw [Nat.zero_add] at hchunks
  rw [hchunks, List.mapM_map, ← chunks]
  exact Except.mapM_congr fun c _ => hchunk c

/-- Blank lines in front only move what is below them. -/
theorem blocks_blanks {bs : List Text} (h : ∀ l ∈ bs, Text.isBlank l = true) (ls : List Text)
    (offset : Nat) : p.blocks nested (bs ++ ls) offset = p.blocks nested ls (offset + bs.length) := by
  rw [blocks_eq, blocks_eq, chunks, chunksFrom_blanks _ _ h, Nat.zero_add, mapM_chunksFrom]

/-- **Lines that start anew are parsed after the lines before them**, and only if these can be. -/
theorem blocks_append {rest : List Text} (h : StartsAnew rest) (ls : List Text) (offset : Nat) :
    p.blocks nested (ls ++ rest) offset =
      (do
        let before ← p.blocks nested ls offset
        let after ← p.blocks nested rest (offset + ls.length)
        return before ++ after) := by
  have hchunks : chunks (ls ++ rest) = chunks ls ++ chunksFrom false ls.length rest := by
    rw [chunks, chunksFrom_append h, Nat.zero_add, chunks]
  rw [blocks_eq, blocks_eq, blocks_eq, hchunks, List.mapM_append,
    mapM_chunksFrom p nested _ offset ls.length]
  cases (chunks ls).mapM (p.chunkBlocks nested (p.blocks nested) offset) with
  | error e => rfl
  | ok before =>
    cases (chunks rest).mapM (p.chunkBlocks nested (p.blocks nested) (offset + ls.length)) with
    | error e => rfl
    | ok after =>
      show Except.ok (before ++ after).flatten = Except.ok (before.flatten ++ after.flatten)
      rw [List.flatten_append]

end Blocks

end Parser

namespace Passthrough

/-- **Documents are parsed one after the other.** If a source that begins flush follows another one
and a blank line, what is parsed of it comes after what is parsed of the other one, moved down by the
lines before it; an error in the other one is reported first. -/
theorem parse_append {e : Extensions} {r : Registry} (hr : registry e = .ok r)
    (config : ParserConfig) (s₁ : Text) {s₂ : Text} (h : s₂.BeginsFlush) :
    Parser.parse ⟨r, config⟩ (s₁ ++ '\n' :: '\n' :: s₂) =
      match Parser.parse ⟨r, config⟩ s₁, Parser.parse ⟨r, config⟩ s₂ with
      | .error e, _ => .error e
      | .ok _, .error e => .error (e.shift (s₁.count '\n' + 2))
      | .ok d₁, .ok d₂ =>
        .ok ⟨d₁.children ++ Block.shiftAll (s₁.count '\n' + 2) d₂.children⟩ := by
  obtain ⟨n, hlines, hlength, hanew⟩ := Text.exists_normalLines_append h s₁
  have hblank : ∀ l ∈ List.replicate (n + 1) ([] : Text), Text.isBlank l = true := fun l hl => by
    rw [List.eq_of_mem_replicate hl]
    rfl
  have hkept := registry_keepsDirectives hr
  have hroles := nativeRoles_registry hr
  have hnested := Parser.shifts_nestedWithin (p := ⟨r, config⟩) hkept hroles config.maxDepth
  -- The lines of the second source stand below those of the first and the blank ones.
  have hshift := Parser.blocks_add (p := ⟨r, config⟩) hkept hroles hnested (Text.normalLines s₂) 0
    (s₁.count '\n' + 2)
  rw [Nat.zero_add] at hshift
  simp only [Parser.parse, Parser.blocksWithin_eq]
  rw [hlines, Parser.blocks_append _ _ hanew, Parser.blocks_blanks _ _ hblank, Nat.zero_add,
    List.length_replicate, hlength, hshift]
  cases Parser.blocks ⟨r, config⟩ _ (Text.normalLines s₁) 0 with
  | error e => rfl
  | ok before =>
    cases Parser.blocks ⟨r, config⟩ _ (Text.normalLines s₂) 0 with
    | error e => rfl
    | ok after => rfl

/-- A paragraph that announces a literal block, and a comment in place of one. -/
theorem parse_append_announced :
    ∃ r, registry {} = .ok r ∧ Text.BeginsFlush ".. a" ∧
      Parser.parse ⟨r, { fileText := fun _ => .error [] }⟩ ("Code::" ++ '\n' :: '\n' :: ".. a") =
        .ok ⟨[.paragraph 1 [.text "Code:"], .comment 3 ".. a"]⟩ := by
  obtain ⟨r, hr⟩ := exists_registry_default
  have hflush : Text.BeginsFlush ".. a" := by
    intro l hl
    cases hl
    decide
  have hfirst : Parser.parse ⟨r, { fileText := fun _ => .error [] }⟩ "Code::" =
      .ok ⟨[.paragraph 1 [.text "Code:"]]⟩ := by
    have hchunks : chunks (Text.normalLines "Code::") = [⟨.paragraph, 0, ["Code::"]⟩] := by cbv
    have hannounce : literalAnnouncement (Text.ofLines ["Code::"]) = ("Code:".toList, true) := by
      decide
    have hsegments : segments (Text.escape "Code:") = [.text "Code:"] := by cbv
    rw [Parser.parse_eq_ok_iff, Parser.blocks_of_chunk hchunks, Parser.chunkBlocks_paragraph rfl,
      Parser.paragraphBlocks]
    dsimp only
    rw [hannounce, if_neg (by decide), inlineNodes, hsegments]
    rfl
  have hsecond : Parser.parse ⟨r, { fileText := fun _ => .error [] }⟩ ".. a" =
      .ok ⟨[.comment 1 ".. a"]⟩ := by
    have hchunks : chunks (Text.normalLines ".. a") = [⟨.explicit, 0, [".. a"]⟩] := by cbv
    have hmarker : directiveMarker? (([".. a"] : List Text).headD []) = none := by decide
    rw [Parser.parse_eq_ok_iff, Parser.blocks_of_chunk hchunks, Parser.chunkBlocks_explicit rfl,
      Parser.explicitBlocks_comment hmarker]
    rfl
  refine ⟨r, hr, hflush, ?_⟩
  rw [parse_append hr _ _ hflush, hfirst, hsecond]
  rfl

end Passthrough

end StructuredText

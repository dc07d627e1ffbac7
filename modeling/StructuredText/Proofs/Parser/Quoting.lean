import StructuredText.Proofs.Parser.Composition
import StructuredText.Proofs.Text.Indented

/-!
# Parsing a text that was moved to the right

A text with a line that begins flush, moved to the right, is one quote: each of its lines is indented
or blank, so it is one chunk, and out of its margin that chunk is the lines of the text again. What is
parsed inside a quote is parsed at the same depth and keeps its lines, so the blocks in the quote and
the errors are those of the text (`parse_indentLines`). This holds whatever the directives and roles
do, since both parses hand the same lines at the same index to them.

Structure:
* blank lines at the end are of no account (`blocks_append_blanks`);
* lines moved to the right, from the first that is not blank, are one quote
  (`chunksFrom_of_indented`);
* `blocks_map_indentBy` puts the two together, with `blocks_blanks` for blank lines in front.
-/

namespace StructuredText

open Text (isBlank indentation continuesBlock dropTrailingBlanks)

namespace Parser

section Blocks

variable (p : Parser) (nested : Nested)

/-- Blank lines at the end are of no account. -/
theorem blocks_append_blanks {bs : List Text} (h : ∀ l ∈ bs, isBlank l = true) (ls : List Text)
    (offset : Nat) : p.blocks nested (ls ++ bs) offset = p.blocks nested ls offset := by
  have hanew : Text.StartsAnew bs := by
    refine ⟨fun l hl => h l (List.mem_of_head? hl), fun l hl => ?_⟩
    have hb := List.find?_some hl
    rw [h l (List.mem_of_find?_eq_some hl)] at hb
    cases hb
  have hnone := chunksFrom_blanks false ls.length h []
  rw [List.append_nil, chunksFrom] at hnone
  have hchunks : chunks (ls ++ bs) = chunks ls := by
    rw [chunks, chunksFrom_append hanew, Nat.zero_add, hnone, List.append_nil, chunks]
  rw [blocks_eq, blocks_eq, hchunks]

theorem blocks_dropTrailingBlanks (ls : List Text) (offset : Nat) :
    p.blocks nested (dropTrailingBlanks ls) offset = p.blocks nested ls offset := by
  obtain ⟨bs, hbs, hls⟩ := Text.exists_blanks_of_dropTrailingBlanks ls
  conv_rhs => rw [hls]
  rw [blocks_append_blanks p nested hbs]

section IndentBy

variable {n : Nat} (hn : 1 ≤ n) {ls : List Text} (hls : Text.AtMargin ls)

include hn hls

/-- Lines the first of which is not blank, moved to the right. -/
theorem blocks_map_indentBy_of_head {l : Text} (hl : ls.head? = some l) (hb : isBlank l = false)
    (offset : Nat) : p.blocks nested (ls.map (indentBy n)) offset =
      (p.blocks nested ls offset).map fun bs => [.quote (offset + 1) bs] := by
  obtain ⟨below, rfl⟩ := List.head?_eq_some_iff.1 hl
  have hi : 0 < indentation (indentBy n l) := by
    rw [Text.indentation_indentBy _ (Text.ne_nil_of_not_isBlank hb)]
    omega
  have hchunks : chunks ((l :: below).map (indentBy n)) =
      [⟨.quote, 0, (dropTrailingBlanks (l :: below)).map (indentBy n)⟩] := by
    rw [List.map_cons, chunks, chunksFrom_of_indented false 0 (by rw [Text.isBlank_indentBy, hb]) hi
      (continuesBlock_of_mem_map_indentBy hn below), ← List.map_cons,
      Text.dropTrailingBlanks_map_indentBy]
    rfl
  -- The line that begins flush is still there, so there is no margin but what was added.
  rw [blocks_of_chunk hchunks, chunkBlocks_quote rfl, Text.dropMargin_map_indentBy,
    hls.dropTrailingBlanks.dropMargin_eq, blocks_dropTrailingBlanks]
  rfl

/-- **Lines moved to the right are a quote of the blocks that they were before.** -/
theorem blocks_map_indentBy (offset : Nat) :
    p.blocks nested (ls.map (indentBy n)) offset =
      (p.blocks nested ls offset).map fun bs =>
        [.quote (offset + ls.findIdx (fun l => !isBlank l) + 1) bs] := by
  obtain ⟨front, rest, rfl, hfront, hrest⟩ : ∃ front rest, ls = front ++ rest ∧
      (∀ l ∈ front, isBlank l = true) ∧ ∀ l, rest.head? = some l → isBlank l = false :=
    ⟨ls.takeWhile isBlank, ls.dropWhile isBlank, List.takeWhile_append_dropWhile.symm,
      fun _ => List.of_mem_takeWhile, fun _ => List.head_dropWhile_stop⟩
  have hmargin : Text.AtMargin rest := .of_append hfront hls
  have hl : rest.head? = some (rest.head hmargin.ne_nil) := List.head?_eq_some_head _
  have hindex : (front ++ rest).findIdx (fun l => !isBlank l) = front.length :=
    List.findIdx_append_stop (fun l hl => by rw [hfront l hl, Bool.not_true])
      fun l hl => by rw [hrest l hl, Bool.not_false]
  rw [List.map_append, blocks_blanks p nested (Text.isBlank_of_mem_map_indentBy hfront),
    blocks_blanks p nested hfront, List.length_map, hindex,
    blocks_map_indentBy_of_head p nested hn hmargin hl (hrest _ hl)]

end IndentBy

end Blocks

/-- **A document moved to the right is one quote**, with the same lines in it and the same error. -/
theorem parse_indentLines (p : Parser) {n : Nat} (hn : 1 ≤ n) {c : Text} (htab : '\t' ∉ c)
    (hflush : c.HasFlushLine) :
    p.parse (c.indentLines n) =
      (p.parse c).map fun d =>
        ⟨[.quote ((Text.lines c).findIdx (fun l => !isBlank l) + 1) d.children]⟩ := by
  have hblocks := blocks_map_indentBy p (p.nestedWithin p.config.maxDepth) hn (hflush.atMargin htab) 0
  rw [parse, parse, blocksWithin_eq, Text.normalLines_indentLines n htab, hblocks, Nat.zero_add,
    Text.findIdx_normalLines]
  cases p.blocks (p.nestedWithin p.config.maxDepth) (Text.normalLines c) 0 with
  | error e => rfl
  | ok bs => rfl

/-- A quote and a comment below a blank line, moved to the right. -/
theorem parse_indentLines_quote :
    (1 ≤ 3 ∧ '\t' ∉ ("\n  .. a\n.. b" : Text) ∧ Text.HasFlushLine "\n  .. a\n.. b") ∧
      parse ⟨.empty, { fileText := fun _ => .error [] }⟩ (Text.indentLines 3 "\n  .. a\n.. b") =
        .ok ⟨[.quote 2 [.quote 2 [.comment 2 ".. a"], .comment 3 ".. b"]]⟩ := by
  have htab : '\t' ∉ ("\n  .. a\n.. b" : Text) := by decide
  have hflush : Text.HasFlushLine "\n  .. a\n.. b" := ⟨".. b", by decide, by decide, by decide⟩
  refine ⟨⟨by decide, htab, hflush⟩, ?_⟩
  have hchunks : chunks (Text.normalLines "\n  .. a\n.. b") =
      [⟨.quote, 1, ["  .. a"]⟩, ⟨.explicit, 2, [".. b"]⟩] := by cbv
  have hquoted : chunks (Text.dropMargin ["  .. a"]) = [⟨.explicit, 0, [".. a"]⟩] := by cbv
  have hplain : parse ⟨.empty, { fileText := fun _ => .error [] }⟩ "\n  .. a\n.. b" =
      .ok ⟨[.quote 2 [.comment 2 ".. a"], .comment 3 ".. b"]⟩ := by
    rw [parse_eq_ok_iff, blocks_eq, hchunks, List.mapM_cons, chunkBlocks_quote rfl,
      blocks_of_chunk hquoted, chunkBlocks_explicit rfl, explicitBlocks_comment (by decide),
      List.mapM_cons, chunkBlocks_explicit rfl, explicitBlocks_comment (by decide)]
    rfl
  have hindex : (Text.lines "\n  .. a\n.. b").findIdx (fun l => !isBlank l) = 1 := by decide
  rw [parse_indentLines _ (by decide) htab hflush, hplain, hindex]
  rfl

end Parser

end StructuredText

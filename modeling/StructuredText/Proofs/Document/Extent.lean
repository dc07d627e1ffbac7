import StructuredText.Proofs.Document.Lines

/-!
# The lines that a block takes up

The chunks of a document do not overlap (`pairwise_chunksFrom`), and each gives one block at most. So
the lines that the blocks of a document report ascend, and explicit markup that is kept as written is
kept as it stands: its text is that of its lines, none of them is used for anything else, and it goes
on as far as it can (`keptVerbatim_of_parse`).

Structure: each block of a document is put beside the chunk that it was made of
(`exists_beside_of_blocks`). What is claimed of blocks then is a statement on chunks, and these are
known by the lines alone.
-/

namespace StructuredText

open Text (isBlank indentation continuesBlock normalLines ofLines)

/-! ## Chunks -/

theorem le_start_of_mem_chunksFrom {literal : Bool} {index : Nat} {ls : List Text} {c : Chunk}
    (h : c ∈ chunksFrom literal index ls) : index ≤ c.start := by
  obtain ⟨k, hk, -⟩ := prefix_drop_of_mem_chunksFrom h
  omega

/-- What comes behind a block begins behind its last line. -/
theorem length_blockLines_le_start {literal : Bool} {index : Nat} {l : Text} {ls rest : List Text}
    {c : Chunk}
    (h : c ∈ chunksFrom literal (index + 1 + (ls.takeWhile continuesBlock).length) rest) :
    index + (blockLines l ls).length ≤ c.start := by
  have hstart := le_start_of_mem_chunksFrom h
  have hlength := (dropTrailingBlanks_sublist (ls.takeWhile continuesBlock)).length_le
  rw [blockLines, List.length_cons]
  omega

/-- **Chunks do not overlap.** Each begins behind the last line of those before it. -/
theorem pairwise_chunksFrom (literal : Bool) (index : Nat) (ls : List Text) :
    (chunksFrom literal index ls).Pairwise fun c c' => c.start + c.lines.length ≤ c'.start := by
  fun_induction chunksFrom literal index ls with
  | case1 => exact .nil
  | case2 literal index l ls _ ih => exact ih
  | case3 literal index l ls _ _ ih =>
    exact List.pairwise_cons.2 ⟨fun c hc => length_blockLines_le_start hc, ih⟩
  | case4 literal index l ls _ _ _ ih =>
    exact List.pairwise_cons.2 ⟨fun c hc => length_blockLines_le_start hc, ih⟩
  | case5 literal index l ls _ _ _ paragraph ih =>
    exact List.pairwise_cons.2 ⟨fun c hc => le_start_of_mem_chunksFrom hc, ih⟩

/-- What stands below a block: blank lines, and then what does not continue it. -/
theorem exists_drop_blockLines (l : Text) (below : List Text) :
    ∃ blanks, (∀ b ∈ blanks, isBlank b = true) ∧
      (l :: below).drop (blockLines l below).length =
        blanks ++ below.dropWhile continuesBlock := by
  obtain ⟨blanks, hblanks, htake⟩ :=
    Text.exists_blanks_of_dropTrailingBlanks (below.takeWhile continuesBlock)
  have hbelow : l :: below =
      blockLines l below ++ (blanks ++ below.dropWhile continuesBlock) := by
    rw [blockLines, List.cons_append, ← List.append_assoc, ← htake,
      List.takeWhile_append_dropWhile]
  have hdrop := congrArg (List.drop (blockLines l below).length) hbelow
  rw [List.drop_left] at hdrop
  exact ⟨blanks, hblanks, hdrop⟩

/-- **A block goes on as far as it can**: the first line below it that is not blank is not
indented. -/
theorem indentation_below_blockLines {l x : Text} {below : List Text}
    (h : ((l :: below).drop (blockLines l below).length).find? (fun l => !isBlank l) = some x) :
    indentation x = 0 := by
  obtain ⟨blanks, hblanks, hdrop⟩ := exists_drop_blockLines l below
  have hnone : blanks.find? (fun l => !isBlank l) = none :=
    List.find?_eq_none.2 fun b hb => by simp [hblanks b hb]
  rw [hdrop, List.find?_append, hnone, Option.none_or] at h
  cases hrest : below.dropWhile continuesBlock with
  | nil =>
    rw [hrest] at h
    cases h
  | cons y rest =>
    have hstop : continuesBlock y = false := List.head_dropWhile_stop (by rw [hrest]; rfl)
    obtain ⟨hfilled, hflush⟩ : isBlank y = false ∧ indentation y = 0 := by
      simpa [continuesBlock] using hstop
    rw [hrest, List.find?_cons_of_pos (by rw [hfilled]; rfl)] at h
    cases h
    exact hflush

/-- Explicit markup is the line at its index, with the lines below that continue its block. -/
theorem exists_drop_of_mem_explicit {ls : List Text} {c : Chunk} (hc : c ∈ chunks ls)
    (hk : c.kind = .explicit) :
    ∃ l below, ls.drop c.start = l :: below ∧ c.lines = blockLines l below := by
  obtain ⟨k, l, below, hstart, hdrop, -, ⟨hparagraph, -⟩ | ⟨-, hlines⟩⟩ :=
    exists_drop_of_mem_chunksFrom hc
  · rw [hk] at hparagraph
    cases hparagraph
  · rw [hstart, Nat.zero_add]
    exact ⟨l, below, hdrop, hlines⟩

/-! ## Blocks beside their chunks -/

namespace Block

/-- The line that a block reports, if it reports one. -/
def line? : Block → Option Nat
  | paragraph line _ => some line
  | quote line _ => some line
  | comment line _ => some line
  | directive inv _ _ => some inv.line
  | element .. => none
  | extension .. => none

theorem line?_of_origin? {b : Block} {line : Nat} {text : Text}
    (h : b.origin? = some (line, text)) : b.line? = some line := by
  cases b with
  | comment line text => cases h; rfl
  | directive inv raw children => cases h; rfl
  | paragraph line children => cases h
  | quote line children => cases h
  | element tag attributes text children => cases h
  | extension tag inv attributes children => cases h

/-- Whether the block can be made of a chunk of lines, the first of which has the index `offset`: it
reports the first line of the chunk, if any, and explicit markup keeps the text of the chunk. -/
structure MadeOf (b : Block) (offset : Nat) (c : Chunk) : Prop where
  line : ∀ line, b.line? = some line → line = offset + c.start + 1
  text : ∀ line text, b.origin? = some (line, text) → c.kind = .explicit ∧ text = ofLines c.lines

end Block

namespace Parser

variable {p : Parser} {nested : Nested}

/-- Explicit markup gives one block, which keeps its line and its text. -/
theorem exists_origin_of_explicitBlocks (hkept : p.registry.KeepsDirectives) {index : Nat}
    {lines : List Text} {bs : List Block} (h : p.explicitBlocks nested index lines = .ok bs) :
    ∃ b, bs = [b] ∧ b.origin? = some (index + 1, ofLines lines) := by
  rcases comment_or_directive_of_explicitBlocks hkept h with rfl | ⟨_, _, inv, _, hr, -, rfl⟩
  · exact ⟨_, rfl, rfl⟩
  · cases hr
    exact ⟨_, rfl, rfl⟩

/-- A chunk gives no block or one. -/
theorem madeOf_of_chunkBlocks (hkept : p.registry.KeepsDirectives) {quoted : Nested} {offset : Nat}
    {c : Chunk} {bs : List Block} (h : p.chunkBlocks nested quoted offset c = .ok bs) :
    bs = [] ∨ ∃ b, bs = [b] ∧ b.MadeOf offset c := by
  cases hk : c.kind with
  | quote =>
    rw [chunkBlocks_quote hk] at h
    obtain ⟨inner, -, rfl⟩ := Except.map_eq_ok_iff.1 h
    refine Or.inr ⟨_, rfl, fun line hline => ?_, fun line text htext => by cases htext⟩
    cases hline
    rfl
  | explicit =>
    rw [chunkBlocks_explicit hk] at h
    obtain ⟨b, rfl, horigin⟩ := exists_origin_of_explicitBlocks hkept h
    refine Or.inr ⟨b, rfl, fun line hline => ?_, fun line text htext => ?_⟩
    · rw [Block.line?_of_origin? horigin] at hline
      cases hline
      rfl
    · rw [horigin] at htext
      cases htext
      exact ⟨hk, rfl⟩
  | paragraph =>
    rw [chunkBlocks_paragraph hk] at h
    simp only [paragraphBlocks] at h
    split at h
    · cases h
      exact Or.inl rfl
    · obtain ⟨is, -, rfl⟩ := Except.map_eq_ok_iff.1 h
      refine Or.inr ⟨_, rfl, fun line hline => ?_, fun line text htext => by cases htext⟩
      cases hline
      rfl
  | literal =>
    rw [chunkBlocks_literal hk] at h
    cases h
    refine Or.inr ⟨literalBlock c.lines, rfl, fun line hline => ?_, fun line text htext => ?_⟩
    · cases hline
    · cases htext

/-- Blocks of lines, the first of which has the index `offset`, each beside the chunk that it was made
of. The chunks are in order and do not overlap. -/
structure Beside (lines : List Text) (offset : Nat) (pairs : List (Chunk × Block)) : Prop where
  chunk : ∀ q ∈ pairs, q.1 ∈ chunks lines
  made : ∀ q ∈ pairs, q.2.MadeOf offset q.1
  apart : pairs.Pairwise fun q q' => q.1.start + q.1.lines.length ≤ q'.1.start

/-- **Every block of a document stands beside a chunk.** -/
theorem exists_beside_of_blocks (hkept : p.registry.KeepsDirectives) {lines : List Text}
    {offset : Nat} {bs : List Block} (h : p.blocks nested lines offset = .ok bs) :
    ∃ pairs, Beside lines offset pairs ∧ pairs.map Prod.snd = bs := by
  rw [blocks_eq] at h
  obtain ⟨parsed, hparsed, h⟩ := Except.bind_eq_ok_iff.1 h
  cases h
  obtain ⟨pairs, hsnd, hfst, hmade⟩ :=
    Except.exists_pairs_of_mapM_eq_ok hparsed fun c bs hbs => madeOf_of_chunkBlocks hkept hbs
  refine ⟨pairs, ⟨fun q hq => hfst.subset (List.mem_map_of_mem hq), hmade, ?_⟩, hsnd⟩
  exact List.pairwise_map.1 ((pairwise_chunksFrom false 0 lines).sublist hfst)

namespace Beside

variable {lines : List Text} {offset : Nat} {pairs : List (Chunk × Block)}

theorem length_pos (h : Beside lines offset pairs) {q : Chunk × Block} (hq : q ∈ pairs) :
    0 < q.1.lines.length := by
  obtain ⟨l, below, hlines, -, -⟩ := lines_of_mem_chunksFrom (h.chunk q hq)
  rw [hlines, List.length_cons]
  exact Nat.succ_pos _

/-- **The lines that the blocks report ascend.** -/
theorem pairwise_line? (h : Beside lines offset pairs) :
    ((pairs.map Prod.snd).filterMap Block.line?).Pairwise (· < ·) := by
  rw [List.filterMap_map, List.pairwise_filterMap]
  refine h.apart.imp_of_mem fun {q q'} hq hq' hle line hline line' hline' => ?_
  have hpos := h.length_pos hq
  rw [(h.made q hq).line line hline, (h.made q' hq').line line' hline']
  omega

/-- No block but `q`'s own begins in the lines of `q`. -/
theorem lt_or_le_of_line? {front back : List (Chunk × Block)} {q : Chunk × Block}
    (h : Beside lines offset (front ++ q :: back)) {other : Block}
    (hother : other ∈ front.map Prod.snd ++ back.map Prod.snd) {line : Nat}
    (hline : other.line? = some line) :
    line < offset + q.1.start + 1 ∨ offset + q.1.start + 1 + q.1.lines.length ≤ line := by
  obtain ⟨-, hback, hfront⟩ := List.pairwise_append.1 h.apart
  rcases List.mem_append.1 hother with hother | hother
  · obtain ⟨q', hq', rfl⟩ := List.mem_map.1 hother
    have hmem : q' ∈ front ++ q :: back := List.mem_append_left _ hq'
    have hle := hfront q' hq' q (List.mem_cons_self ..)
    have hpos := h.length_pos hmem
    rw [(h.made q' hmem).line line hline]
    omega
  · obtain ⟨q', hq', rfl⟩ := List.mem_map.1 hother
    have hmem : q' ∈ front ++ q :: back := List.mem_append_right _ (List.mem_cons_of_mem _ hq')
    have hle := (List.pairwise_cons.1 hback).1 q' hq'
    rw [(h.made q' hmem).line line hline]
    omega

end Beside

end Parser

/-! ## What is kept -/

/-- The text is that of the lines from the one with the number `line` on, as many as it has: the last
of them is not blank, and the next one that is not blank is not indented. -/
structure KeptVerbatim (ls : List Text) (line : Nat) (text : Text) : Prop where
  pos : 1 ≤ line
  within : line - 1 + (Text.lines text).length ≤ ls.length
  text_eq : text = ofLines ((ls.drop (line - 1)).take (Text.lines text).length)
  filled : ∃ last, (Text.lines text).getLast? = some last ∧ isBlank last = false
  flush : ∀ next, (ls.drop (line - 1 + (Text.lines text).length)).find? (fun l => !isBlank l) =
    some next → indentation next = 0

theorem keptVerbatim_of_mem_chunks {ls : List Text} (hls : ∀ l ∈ ls, Text.IsLine l) {c : Chunk}
    (hc : c ∈ chunks ls) (hk : c.kind = .explicit) :
    Text.lines (ofLines c.lines) = c.lines ∧
      KeptVerbatim ls (c.start + 1) (ofLines c.lines) := by
  obtain ⟨first, rest, hlines, hfirst, hrest⟩ := lines_of_mem_chunksFrom hc
  have hfilled : Text.EndsFilled c.lines := by
    rw [hlines]
    exact hrest.cons hfirst
  have hne : c.lines ≠ [] := by
    rw [hlines]
    exact List.cons_ne_nil _ _
  have hread : Text.lines (ofLines c.lines) = c.lines := by
    refine Text.lines_ofLines (fun l hl => (hls l (mem_of_mem_lines hc hl)).noNewline) fun he => ?_
    have hblank := hfilled [] he
    rw [Text.isBlank_nil] at hblank
    cases hblank
  obtain ⟨l, below, hdrop, hblock⟩ := exists_drop_of_mem_explicit hc hk
  have hprefix : c.lines <+: ls.drop c.start := by
    rw [hdrop, hblock]
    exact prefix_blockLines l below
  refine ⟨hread, Nat.le_add_left 1 _, ?_, ?_, ?_, ?_⟩
  · have hle := hprefix.length_le
    have hpos := List.length_pos_of_ne_nil hne
    rw [List.length_drop] at hle
    rw [hread]
    omega
  · rw [hread, Nat.add_sub_cancel, ← List.prefix_iff_eq_take.1 hprefix]
  · rw [hread]
    exact ⟨_, List.getLast?_eq_some_getLast hne, hfilled _ (List.getLast?_eq_some_getLast hne)⟩
  · intro next hnext
    rw [hread, Nat.add_sub_cancel, ← List.drop_drop, hdrop, hblock] at hnext
    exact indentation_below_blockLines hnext

namespace Passthrough

/-- **Explicit markup is kept as it stands.** The lines that the blocks of a document report ascend.
The text of a comment or of a directive is that of the lines of the source from the reported one on,
it goes on as far as it can, and no other block begins within these lines. -/
theorem keptVerbatim_of_parse {e : Extensions} {r : Registry} (hr : registry e = .ok r)
    (config : ParserConfig) {source : Text} {d : Document}
    (hd : Parser.parse ⟨r, config⟩ source = .ok d) :
    (d.children.filterMap Block.line?).Pairwise (· < ·) ∧
    ∀ before b after, d.children = before ++ b :: after →
      ∀ line text, b.origin? = some (line, text) →
        KeptVerbatim (normalLines source) line text ∧
        ∀ other ∈ before ++ after, ∀ start, other.line? = some start →
          start < line ∨ line + (Text.lines text).length ≤ start := by
  obtain ⟨pairs, hbeside, hsnd⟩ :=
    Parser.exists_beside_of_blocks (registry_keepsDirectives hr) (Parser.parse_eq_ok_iff.1 hd)
  constructor
  · rw [← hsnd]
    exact hbeside.pairwise_line?
  · intro before b after hchildren line text horigin
    rw [hchildren] at hsnd
    obtain ⟨front, rest, rfl, rfl, hrest⟩ := List.map_eq_append_iff.1 hsnd
    obtain ⟨q, back, rfl, rfl, rfl⟩ := List.map_eq_cons_iff.1 hrest
    have hq : q ∈ front ++ q :: back := List.mem_append_right _ (List.mem_cons_self ..)
    -- The line and the text of the block are those of its chunk.
    have hline := (hbeside.made q hq).line line (Block.line?_of_origin? horigin)
    obtain ⟨hk, rfl⟩ := (hbeside.made q hq).text line text horigin
    obtain ⟨hread, hkept⟩ := keptVerbatim_of_mem_chunks
      (fun l hl => Text.isLine_of_mem_normalLines hl) (hbeside.chunk q hq) hk
    rw [Nat.zero_add] at hline
    subst hline
    refine ⟨hkept, fun other hother start hstart => ?_⟩
    have hapart := hbeside.lt_or_le_of_line? hother hstart
    rwa [Nat.zero_add, ← hread] at hapart

/-- A directive between a paragraph and a comment, with blank lines inside of it and below. -/
def spacedSource : Text := "T\n\n.. only:: x\n\n   y\n\n\n.. c\n   d"

def spacedInvocation : Invocation :=
  { name := "only"
    arguments := ["x"]
    options := ∅
    content := ["y"]
    line := 3
    contentOffset := 4
    blockText := ".. only:: x\n\n   y" }

theorem parse_spacedSource {r : Registry} (hr : registry {} = .ok r) (config : ParserConfig) :
    Parser.parse ⟨r, config⟩ spacedSource = .ok
      ⟨[.paragraph 1 [.text "T"], .directive spacedInvocation true [], .comment 8 ".. c\n   d"]⟩ := by
  have hlines : normalLines spacedSource =
      "T".toList :: ["", ".. only:: x", "", "   y", "", "", ".. c", "   d"] := by decide
  have hannounces : announcesLiteral ["T"] = false := by decide
  have hbelow : chunksFrom false 1 ["", ".. only:: x", "", "   y", "", "", ".. c", "   d"] =
      [⟨.explicit, 2, [".. only:: x", "", "   y"]⟩, ⟨.explicit, 7, [".. c", "   d"]⟩] := by cbv
  have hchunks : chunks (normalLines spacedSource) =
      [⟨.paragraph, 0, ["T"]⟩, ⟨.explicit, 2, [".. only:: x", "", "   y"]⟩,
        ⟨.explicit, 7, [".. c", "   d"]⟩] := by
    rw [hlines, chunks, chunksFrom, if_neg (by decide), if_neg (by decide), if_neg (by decide)]
    show ⟨.paragraph, 0, ["T"]⟩ :: chunksFrom (announcesLiteral ["T"]) 1 _ = _
    rw [hannounces]
    exact congrArg _ hbelow
  have hparagraph : Parser.paragraphBlocks ⟨r, config⟩ 0 ["T"] =
      .ok [.paragraph 1 [.text "T"]] := by
    have hannounce : literalAnnouncement (ofLines ["T"]) = ("T".toList, false) := by decide
    have hsegments : segments (Text.escape "T") = [.text "T"] := by cbv
    simp only [Parser.paragraphBlocks, hannounce, inlineNodes, hsegments]
    rfl
  have hdirective : ∀ nested, Parser.explicitBlocks ⟨r, config⟩ nested 2
      [".. only:: x", "", "   y"] = .ok [.directive spacedInvocation true []] := by
    intro nested
    have hmarker : directiveMarker? (".. only:: x" : Text) = some ("only".toList, "x".toList) := by
      decide
    have hdivide : Directive.only.shape.withAnyOption.divide
        ("x".toList :: Text.dropMargin ["", "   y"]) 2 = .ok ⟨["x"], ∅, ["y"], 4⟩ := by cbv
    rw [Parser.explicitBlocks_cons hmarker, Parser.directiveBlocks_kept (directive?_only hr),
      hdivide]
    rfl
  have hcomment : ∀ nested, Parser.explicitBlocks ⟨r, config⟩ nested 7 [".. c", "   d"] =
      .ok [.comment 8 ".. c\n   d"] := fun nested =>
    Parser.explicitBlocks_comment (by decide)
  rw [Parser.parse_eq_ok_iff, Parser.blocks_eq, hchunks, List.mapM_cons, List.mapM_cons,
    List.mapM_cons, List.mapM_nil, Parser.chunkBlocks_paragraph rfl, Parser.chunkBlocks_explicit rfl,
    Parser.chunkBlocks_explicit rfl]
  simp only [Nat.zero_add, hparagraph, hdirective, hcomment]
  rfl

/-- The blocks stand on the lines 1, 3 and 8; the directive has the lines 3 to 5. -/
theorem keptVerbatim_of_parse_spacedSource :
    ∃ (r : Registry) (d : Document), registry {} = .ok r ∧
      Parser.parse ⟨r, { fileText := fun _ => .error [] }⟩ spacedSource = .ok d ∧
      d.children.filterMap Block.line? = [1, 3, 8] ∧
      (d.children.filterMap Block.line?).Pairwise (· < ·) ∧
      ∃ before b after, d.children = before ++ b :: after ∧
        b.origin? = some (3, ".. only:: x\n\n   y".toList) ∧
        KeptVerbatim (normalLines spacedSource) 3 ".. only:: x\n\n   y" ∧
        ∀ other ∈ before ++ after, ∀ start, other.line? = some start → start < 3 ∨ 6 ≤ start := by
  obtain ⟨r, hr⟩ := exists_registry_default
  have hd := parse_spacedSource hr { fileText := fun _ => .error [] }
  obtain ⟨hlines, hkept⟩ := keptVerbatim_of_parse hr _ hd
  have hdirective := hkept [.paragraph 1 [.text "T"]] (.directive spacedInvocation true [])
    [.comment 8 ".. c\n   d"] rfl 3 ".. only:: x\n\n   y" rfl
  exact ⟨r, _, hr, hd, rfl, hlines, _, _, _, rfl, rfl, hdirective.1, hdirective.2⟩

end Passthrough

end StructuredText

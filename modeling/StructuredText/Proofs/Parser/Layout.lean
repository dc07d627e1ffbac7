import StructuredText.Proofs.Directive.Native
import StructuredText.Proofs.Parser.Quoting
import StructuredText.Proofs.Parser.Runs
import StructuredText.Proofs.Text.Layout

/-!
# What a parse does not see

A parse depends on the layout of a source only (`parse_eq_of_layout_eq`): on its lines as they are
read, without the blank ones at the end. So sources that differ in line ends, in white space at the end
of lines, in tabs and the spaces that they stand for, or in blank lines at the end are parsed in the
same way, with the same lines and the same error (`parse_eq_of_sameLayout`).

Nor does it matter how far the body of a directive is moved to the right. The block of the directive is
taken out of its margin before it is divided, so the body is the same whatever its margin was. Only the
text of the block is kept as it was written, and the library's own directives do nothing with it but
keep it (`run_blockText`): the parse differs in this text alone (`parse_directiveSource`).
-/

namespace StructuredText

open Text (dropTrailingBlanks layout normalLine normalLines ofLines isBlank)

/-! ## Layout -/

namespace Parser

theorem parse_eq_blocks_layout (p : Parser) (s : Text) :
    p.parse s =
      (p.blocks (p.nestedWithin p.config.maxDepth) (layout s) 0).map Document.mk := by
  rw [parse, blocksWithin_eq, layout, blocks_dropTrailingBlanks]

theorem parse_eq_of_layout_eq (p : Parser) {s t : Text} (h : layout s = layout t) :
    p.parse s = p.parse t := by
  rw [parse_eq_blocks_layout, parse_eq_blocks_layout, h]

/-- **A parse depends only on the lines that are read.** These lines, written one below the other, are
parsed as the source is, and so is every source that differs from it only in ways that reading does not
see. -/
theorem parse_eq_of_sameLayout (p : Parser) (s : Text) :
    p.parse (ofLines (normalLines s)) = p.parse s ∧
      ∀ t, Text.SameLayout s t → p.parse t = p.parse s :=
  ⟨p.parse_eq_of_layout_eq (Text.layout_ofLines_normalLines s),
    fun _ h => p.parse_eq_of_layout_eq h.layout_eq.symm⟩

/-- A tab, two line ends, white space and a blank line. -/
theorem parse_eq_of_sameLayout_comments :
    Text.SameLayout ".. a\tb\n..\n c" ".. a    b\r\n.. \n c\n\n" ∧
      parse ⟨.empty, { fileText := fun _ => .error [] }⟩ ".. a    b\r\n.. \n c\n\n" =
        .ok ⟨[.comment 1 ".. a    b", .comment 2 "..\n c"]⟩ := by
  have htab : Text.Respells ".. a\tb\n..\n c" ".. a    b\n..\n c" := .tab ".. a" "b\n..\n c"
  have hreturn : Text.Respells ".. a    b\n..\n c" ".. a    b\r\n..\n c" :=
    .carriageReturn ".. a    b" "..\n c"
  have hspace : Text.Respells ".. a    b\r\n..\n c" ".. a    b\r\n.. \n c" :=
    .lineEnd ".. a    b\r\n.." " c" (List.forall_mem_singleton.2 ⟨isWhite_space, by decide⟩)
  have hblank : Text.Respells ".. a    b\r\n.. \n c" ".. a    b\r\n.. \n c\n\n" :=
    .textEnd ".. a    b\r\n.. \n c"
      (List.forall_mem_cons.2 ⟨isWhite_newline, List.forall_mem_singleton.2 isWhite_newline⟩)
  have hsame : Text.SameLayout ".. a\tb\n..\n c" ".. a    b\r\n.. \n c\n\n" :=
    .trans _ _ _ (.rel _ _ htab) (.trans _ _ _ (.rel _ _ hreturn)
      (.trans _ _ _ (.rel _ _ hspace) (.rel _ _ hblank)))
  have hchunks : chunks (normalLines ".. a\tb\n..\n c") =
      [⟨.explicit, 0, [".. a    b"]⟩, ⟨.explicit, 1, ["..", " c"]⟩] := by cbv
  have hparse : parse ⟨.empty, { fileText := fun _ => .error [] }⟩ ".. a\tb\n..\n c" =
      .ok ⟨[.comment 1 ".. a    b", .comment 2 "..\n c"]⟩ := by
    rw [parse_eq_ok_iff, blocks_eq, hchunks, List.mapM_cons, chunkBlocks_explicit rfl,
      explicitBlocks_comment (by decide), List.mapM_cons, chunkBlocks_explicit rfl,
      explicitBlocks_comment (by decide)]
    rfl
  exact ⟨hsame, ((parse_eq_of_sameLayout _ _).2 _ hsame).trans hparse⟩

end Parser

/-! ## The text of a block -/

/-- The block, with another text of the invocation that it keeps, if it keeps one. -/
def Block.withBlockText (text : Text) : Block → Block
  | directive inv raw children => directive { inv with blockText := text } raw children
  | b => b

/-- **The library's own directives make one block**, and keep the text of the invocation in it or do
nothing with it. -/
theorem Directive.run_blockText {d : Directive} (hd : d.IsNative) (inv : Invocation) (ctx : Context)
    (text : Text) :
    (∃ failure, d.run inv ctx = .error failure ∧
        d.run { inv with blockText := text } ctx = .error failure) ∨
      ∃ b, d.run inv ctx = .ok [b] ∧
        d.run { inv with blockText := text } ctx = .ok [b.withBlockText text] := by
  cases d with
  | element tag shape expansion =>
    -- An element is made of the other parts of the invocation.
    have hsame : (element tag shape expansion).run { inv with blockText := text } ctx =
        (element tag shape expansion).run inv ctx := by
      cases expansion <;> rfl
    have hrun : (∃ failure, (element tag shape expansion).run inv ctx = .error failure) ∨
        ∃ attributes content children, (element tag shape expansion).run inv ctx =
          .ok [.element tag attributes content children] := by
      cases expansion with
      | body =>
        simp only [run]
        cases parseContent inv ctx with
        | error failure => exact Or.inl ⟨failure, rfl⟩
        | ok children => exact Or.inr ⟨_, _, children, rfl⟩
      | included =>
        simp only [run]
        cases parseIncluded inv ctx with
        | error failure => exact Or.inl ⟨failure, rfl⟩
        | ok children => exact Or.inr ⟨_, _, children, rfl⟩
      | literal => exact Or.inr ⟨_, _, _, rfl⟩
      | empty => exact Or.inr ⟨_, _, _, rfl⟩
    rw [hsame]
    rcases hrun with ⟨failure, h⟩ | ⟨attributes, content, children, h⟩
    · exact Or.inl ⟨failure, h, h⟩
    · exact Or.inr ⟨_, h, h⟩
  | passthrough shape raw =>
    cases raw with
    | true => exact Or.inr ⟨_, rfl, rfl⟩
    | false =>
      have hcontent : parseContent { inv with blockText := text } ctx = parseContent inv ctx := rfl
      simp only [run, Bool.false_eq_true, if_false, hcontent]
      cases parseContent inv ctx with
      | error failure => exact Or.inl ⟨failure, rfl, rfl⟩
      | ok children => exact Or.inr ⟨_, rfl, rfl⟩
  | custom shape run => exact absurd hd id

namespace Parser

/-- The text of a block is at most kept in the one block that a directive makes. -/
theorem directiveBlocks_blockText {p : Parser} (hnative : p.registry.NativeDirectives)
    (nested : Nested) (name : Text) (lines : List Text) (text text' : Text) (index : Nat) :
    (∃ e, p.directiveBlocks nested name lines text index = .error e ∧
        p.directiveBlocks nested name lines text' index = .error e) ∨
      ∃ b, p.directiveBlocks nested name lines text index = .ok [b] ∧
        p.directiveBlocks nested name lines text' index = .ok [b.withBlockText text'] := by
  cases hd : p.registry.directive? name with
  | none => exact Or.inl ⟨_, directiveBlocks_unknown hd, directiveBlocks_unknown hd⟩
  | some d =>
    rw [directiveBlocks, directiveBlocks, hd]
    dsimp only
    rw [invocation, invocation]
    cases d.shape.divide lines index with
    | error cause => exact Or.inl ⟨_, rfl, rfl⟩
    | ok parts =>
      dsimp only
      rcases Directive.run_blockText (hnative name d hd) (keptInvocation name text index parts)
        (p.context nested (index + 1)) text' with ⟨failure, h, h'⟩ | ⟨b, h, h'⟩
      · refine Or.inl ⟨failureError name (index + 1) failure, ?_, ?_⟩
        · exact Except.mapError_eq_error_iff.2 ⟨failure, h, rfl⟩
        · exact Except.mapError_eq_error_iff.2 ⟨failure, h', rfl⟩
      · exact Or.inr ⟨b, Except.mapError_eq_ok_iff.2 h, Except.mapError_eq_ok_iff.2 h'⟩

end Parser

/-! ## The body of a directive -/

/-- The line with `n` spaces in front, unless it is blank. -/
def indentFilled (n : Nat) (l : Text) : Text := if isBlank l then l else List.replicate n ' ' ++ l

/-- A line, and below it the lines of a body that is moved to the right by `n` spaces. -/
def directiveSource (marker : Text) (n : Nat) (body : List Text) : Text :=
  ofLines (marker :: body.map (indentFilled n))

example : directiveSource ".. note::" 2 ["", "a", " b"] = ".. note::\n\n  a\n   b".toList := by decide

theorem normalLine_indentFilled (n : Nat) {l : Text} (ht : '\t' ∉ l) :
    normalLine (indentFilled n l) = indentBy n (normalLine l) := by
  rw [indentFilled]
  cases hb : isBlank l with
  | true =>
    have hnil : normalLine l = [] := by
      have htrimmed : Text.Trimmed (normalLine l) := fun c hc => Text.isWhite_getLast_trimEnd hc
      exact htrimmed.eq_nil_of_isBlank ((Text.isBlank_normalLine l).trans hb)
    rw [if_pos rfl, hnil, Text.indentBy_nil]
  | false =>
    rw [if_neg Bool.false_ne_true, Text.normalLine_replicate_append n ht]

section DirectiveSource

variable {marker name rest : Text} (hline : '\n' ∉ marker)
  (hmarker : directiveMarker? (normalLine marker) = some (name, rest)) {body : List Text}
  (hbody : ∀ l ∈ body, '\n' ∉ l ∧ '\t' ∉ l)

include hline hmarker hbody

/-- Such a source is read as the marker and the lines of the body, moved to the right. -/
theorem layout_directiveSource (n : Nat) :
    layout (directiveSource marker n body) =
      normalLine marker :: (dropTrailingBlanks (body.map normalLine)).map (indentBy n) := by
  have hlines : ∀ l ∈ marker :: body.map (indentFilled n), '\n' ∉ l := by
    intro l hl
    rcases List.mem_cons.1 hl with rfl | hl
    · exact hline
    · obtain ⟨m, hm, rfl⟩ := List.mem_map.1 hl
      have hplain := (hbody m hm).1
      rw [indentFilled]
      split
      · exact hplain
      · simpa using hplain
  have hmap : (body.map (indentFilled n)).map normalLine = (body.map normalLine).map (indentBy n) := by
    rw [List.map_map, List.map_map]
    exact List.map_congr_left fun l hl => normalLine_indentFilled n (hbody l hl).2
  rw [directiveSource, Text.layout_ofLines hlines, List.map_cons, hmap,
    Text.dropTrailingBlanks_cons (isBlank_of_isExplicit (isExplicit_of_directiveMarker? hmarker)),
    Text.dropTrailingBlanks_map_indentBy]

/-- Its blocks are those of the directive, whose block is the body out of its margin. -/
theorem Parser.parse_directiveSource_eq (p : Parser) {n : Nat} (hn : 1 ≤ n) :
    p.parse (directiveSource marker n body) =
      (p.directiveBlocks (p.nestedWithin p.config.maxDepth) name
        (rest :: Text.dropMargin (dropTrailingBlanks (body.map normalLine)))
        (ofLines (layout (directiveSource marker n body))) 0).map Document.mk := by
  have hfilled := Text.endsFilled_dropTrailingBlanks (body.map normalLine)
  rw [parse_eq_blocks_layout, layout_directiveSource hline hmarker hbody,
    blocks_of_marker hmarker (continuesBlock_of_mem_map_indentBy hn _) (hfilled.map_indentBy n),
    Text.dropMargin_map_indentBy]

/-- **How far the body of a directive is moved to the right does not matter.** Two such sources give
the same error, or one block each; these are the same but for the text of the invocation that they
keep, if they keep it. -/
theorem Parser.parse_directiveSource {p : Parser} (hnative : p.registry.NativeDirectives) {n m : Nat}
    (hn : 1 ≤ n) (hm : 1 ≤ m) :
    (∃ e, p.parse (directiveSource marker n body) = .error e ∧
        p.parse (directiveSource marker m body) = .error e) ∨
      ∃ b, p.parse (directiveSource marker n body) = .ok ⟨[b]⟩ ∧
        p.parse (directiveSource marker m body) =
          .ok ⟨[b.withBlockText (ofLines (layout (directiveSource marker m body)))]⟩ := by
  rw [p.parse_directiveSource_eq hline hmarker hbody hn,
    p.parse_directiveSource_eq hline hmarker hbody hm]
  rcases directiveBlocks_blockText hnative (p.nestedWithin p.config.maxDepth) name
    (rest :: Text.dropMargin (dropTrailingBlanks (body.map normalLine)))
    (ofLines (layout (directiveSource marker n body)))
    (ofLines (layout (directiveSource marker m body))) 0 with ⟨e, h, h'⟩ | ⟨b, h, h'⟩
  · exact Or.inl ⟨e, by rw [h]; rfl, by rw [h']; rfl⟩
  · exact Or.inr ⟨b, by rw [h]; rfl, by rw [h']; rfl⟩

end DirectiveSource

/-- A comment with an indented line, in the body of a remark that is moved by one space and by four. -/
theorem Parser.parse_directiveSource_remark :
    remarkParser.registry.NativeDirectives ∧ '\n' ∉ (".. remark::" : Text) ∧
      directiveMarker? (normalLine ".. remark::") = some ("remark".toList, []) ∧
      (∀ l ∈ ([[], ".. a", "  b"] : List Text), '\n' ∉ l ∧ '\t' ∉ l) ∧ 1 ≤ 1 ∧ 1 ≤ 4 ∧
      remarkParser.parse (directiveSource ".. remark::" 1 [[], ".. a", "  b"]) =
        .ok ⟨[.directive ⟨"remark", [], ∅, [".. a", "  b"], 1, 2, ".. remark::\n\n .. a\n   b"⟩ false
          [.comment 3 ".. a\n  b"]]⟩ ∧
      remarkParser.parse (directiveSource ".. remark::" 4 [[], ".. a", "  b"]) =
        .ok ⟨[.directive ⟨"remark", [], ∅, [".. a", "  b"], 1, 2,
          ".. remark::\n\n    .. a\n      b"⟩ false [.comment 3 ".. a\n  b"]]⟩ := by
  have hnative : remarkParser.registry.NativeDirectives := by
    refine Registry.nativeDirectives_of_entries (by decide) (by decide) (by decide)
  have hmarker : directiveMarker? (normalLine ".. remark::") = some ("remark".toList, []) := by decide
  have hbody : ∀ l ∈ ([[], ".. a", "  b"] : List Text), '\n' ∉ l ∧ '\t' ∉ l := by decide
  have hchunks : chunks [".. a", "  b"] = [⟨.explicit, 0, [".. a", "  b"]⟩] := by cbv
  have hchildren : remarkParser.nestedWithin remarkParser.config.maxDepth [".. a", "  b"] 2 =
      .ok [.comment 3 ".. a\n  b"] := by
    show remarkParser.nestedWithin 16 _ _ = _
    rw [nestedWithin, blocksWithin_eq, blocks_of_chunk hchunks, chunkBlocks_explicit rfl,
      explicitBlocks_comment (by decide)]
    rfl
  have hlines : normalLines (directiveSource ".. remark::" 1 [[], ".. a", "  b"]) =
      ([".. remark::", [], " .. a", "   b"] : List Text) := by cbv
  have hd : remarkParser.registry.directive? "remark" =
      some (.passthrough { content := true } false) := by cbv
  have hdivide : Shape.divide (Shape.withAnyOption { content := true })
      ([] :: Text.dropMargin [[], " .. a", "   b"]) 0 = .ok ⟨[], ∅, [".. a", "  b"], 2⟩ := by cbv
  have hparse := parse_of_kept_marker hlines hmarker (by decide) (by decide) hd hdivide hchildren
  refine ⟨hnative, by decide, hmarker, hbody, by decide, by decide, hparse, ?_⟩
  rcases parse_directiveSource (by decide) hmarker hbody hnative (n := 1) (m := 4) (by decide)
    (by decide) with ⟨e, h, -⟩ | ⟨b, h, h'⟩
  · rw [hparse] at h
    cases h
  · rw [hparse] at h
    cases h
    rw [h']
    have htext : ofLines (layout (directiveSource ".. remark::" 4 [[], ".. a", "  b"])) =
        ".. remark::\n\n    .. a\n      b".toList := by cbv
    rw [htext]
    rfl

end StructuredText

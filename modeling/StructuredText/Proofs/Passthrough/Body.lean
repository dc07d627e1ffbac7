import StructuredText.Proofs.Invocation.Rendering
import StructuredText.Proofs.Parser.Comparison
import StructuredText.Proofs.Parser.Quoting

/-!
# The body of a directive

A text below the marker of a directive that is kept and parses its content is parsed as it would be as
a document, two lines further down (`parse_bodySource`): after the marker and a blank line there is
nothing that the shape could take for an argument or an option, however the text begins.

Structure:
* the lines of the block, out of their margin, are the marker's, a blank one and those of the text
  (`blocks_body`), and its division leaves them alone (`divide_body`);
* blank lines around the content only move it (`nestedWithin_content`);
* content stands further down (`blocks_add`) and has one level less, but the same number of levels is
  left for what is nested in it (`nestedWithin_withMaximum`).
-/

namespace StructuredText

open Text (isBlank dropTrailingBlanks normalLines)

/-- The marker of a directive, a blank line, and a text moved to the right below it. -/
def bodySource (name : Text) (n : Nat) (t : Text) : Text :=
  markerHead name ++ '\n' :: '\n' :: t.indentLines n

example : bodySource "note" 2 "a\n\nb" = ".. note::\n\n  a\n  \n  b".toList := by decide

/-! ## Its lines -/

theorem normalLines_bodySource {name : Text} (hname : IsDirectiveName name) (n : Nat) {t : Text}
    (ht : '\t' ∉ t) :
    normalLines (bodySource name n t) =
      markerHead name :: [] :: (normalLines t).map (indentBy n) := by
  have hblank := Text.normalLines_cons Text.isLine_nil (t.indentLines n)
  rw [List.nil_append] at hblank
  rw [bodySource, Text.normalLines_cons (Invocation.isLine_markerHead hname), hblank,
    Text.normalLines_indentLines n ht]

/-- A block that has nothing but content is divided accordingly. -/
theorem divide_body {shape : Shape} (htakes : shape.takesArguments = false)
    (hcontent : shape.content = true) {body : List Text} (hend : Text.EndsFilled body)
    (hne : body ≠ []) (index : Nat) :
    shape.withAnyOption.divide ([] :: [] :: body) index =
      .ok ⟨[], ∅, body.dropWhile isBlank, index + 2 + (body.takeWhile isBlank).length⟩ := by
  have hfilled : Text.EndsFilled ([[], []] ++ body) := hend.append hne
  have hself : dropTrailingBlanks ([] :: [] :: body) = [] :: [] :: body :=
    Text.dropTrailingBlanks_eq_self hfilled
  refine Shape.divide_withAnyOption_eq_ok_iff.2 ⟨[], [], [] :: body, index + 1, ?_, ?_, ?_, ?_, ?_,
    readFields_nil _ _, ?_, ?_, ?_, fun _ => hcontent⟩
  · rw [Shape.blockBody, hself]
    rfl
  · intro l hl
    cases hl
  · intro l hl
    cases hl
  · intro l hl
    cases hl
  · intro l hl
    cases hl
    rfl
  · rw [Shape.argumentsIn, htakes]
    rfl
  · rw [Shape.contentAfter, htakes]
    rfl
  · rw [Shape.contentAfter, htakes]
    rfl

namespace Parser

/-- Content is parsed without the blank lines around it, from where it begins. -/
theorem nestedWithin_content (p : Parser) (levels : Nat) (ls : List Text) (offset : Nat) :
    p.nestedWithin (levels + 1) ((dropTrailingBlanks ls).dropWhile isBlank)
        (offset + ((dropTrailingBlanks ls).takeWhile isBlank).length) =
      p.blocks (p.nestedWithin levels) ls offset := by
  have hblanks := blocks_blanks p (p.nestedWithin levels)
    (fun _ => List.of_mem_takeWhile (p := isBlank) (l := dropTrailingBlanks ls))
    ((dropTrailingBlanks ls).dropWhile isBlank) offset
  rw [List.takeWhile_append_dropWhile] at hblanks
  rw [nestedWithin, blocksWithin_eq, ← hblanks, blocks_dropTrailingBlanks]

/-- **A directive with nothing but a body is its node**, around the blocks of the body's lines two
lines further down. -/
theorem blocks_body {p : Parser} {name : Text} {shape : Shape} (hname : IsDirectiveName name)
    (hd : p.registry.directive? name = some (.passthrough shape false))
    (htakes : shape.takesArguments = false) (hcontent : shape.content = true) {n : Nat} (hn : 1 ≤ n)
    {ls : List Text} (hls : Text.AtMargin ls) (levels offset : Nat) :
    ∃ inv, inv.name = name ∧ inv.arguments = [] ∧ inv.options = ∅ ∧
      p.blocks (p.nestedWithin (levels + 1)) (markerHead name :: [] :: ls.map (indentBy n)) offset =
        (p.blocks (p.nestedWithin levels) ls (offset + 2)).map fun bs =>
          [.directive inv false bs] := by
  obtain ⟨bs, hbs, hsplit⟩ := Text.exists_blanks_of_dropTrailingBlanks ls
  have hbody := hls.dropTrailingBlanks
  have hend := Text.endsFilled_dropTrailingBlanks ls
  have hcontentAt := nestedWithin_content p levels ls (offset + 2)
  generalize dropTrailingBlanks ls = body at hsplit hbody hend hcontentAt
  -- The lines that are not blank at the end are one block.
  have hlines : markerHead name :: [] :: ls.map (indentBy n) =
      (markerHead name :: ([] :: body).map (indentBy n)) ++ bs.map (indentBy n) := by
    rw [hsplit, List.map_append]
    rfl
  have hmarker : directiveMarker? (markerHead name) = some (name, []) := by
    rw [← List.append_nil (markerHead name)]
    exact directiveMarker?_append hname rfl
  have hfilled : Text.EndsFilled ([] :: body) := by
    show Text.EndsFilled ([[]] ++ body)
    exact hend.append hbody.ne_nil
  refine ⟨keptInvocation name (Text.ofLines (markerHead name :: ([] :: body).map (indentBy n)))
    offset ⟨[], ∅, body.dropWhile isBlank, offset + 2 + (body.takeWhile isBlank).length⟩,
    rfl, rfl, rfl, ?_⟩
  rw [hlines, blocks_append_blanks p _ (Text.isBlank_of_mem_map_indentBy hbs),
    blocks_of_marker hmarker (continuesBlock_of_mem_map_indentBy hn _) (hfilled.map_indentBy n),
    Text.dropMargin_map_indentBy, hbody.cons_nil.dropMargin_eq, directiveBlocks_kept hd,
    divide_body htakes hcontent hend hbody.ne_nil]
  dsimp only
  rw [if_neg Bool.false_ne_true, hcontentAt]

/-- **A body is parsed as a document of its own.** -/
theorem parse_bodySource {r : Registry} (hkept : r.KeepsDirectives) (hroles : r.NativeRoles)
    {name : Text} {shape : Shape} (hname : IsDirectiveName name)
    (hd : r.directive? name = some (.passthrough shape false))
    (htakes : shape.takesArguments = false) (hcontent : shape.content = true) {n : Nat} (hn : 1 ≤ n)
    {c : Text} (htab : '\t' ∉ c) (hflush : c.HasFlushLine) (config : ParserConfig) {m : Nat}
    (hm : 1 ≤ m) :
    (∀ d, parse ⟨r, { config with maxDepth := m - 1 }⟩ c = .ok d →
      ∃ inv, inv.name = name ∧ inv.arguments = [] ∧ inv.options = ∅ ∧
        parse ⟨r, { config with maxDepth := m }⟩ (bodySource name n c) =
          .ok ⟨[.directive inv false (Block.shiftAll 2 d.children)]⟩) ∧
    ∀ e, ¬e.IsDepth → parse ⟨r, { config with maxDepth := m - 1 }⟩ c = .error e →
      parse ⟨r, { config with maxDepth := m }⟩ (bodySource name n c) = .error (e.shift 2) := by
  obtain ⟨k, rfl⟩ := Nat.exists_eq_add_of_le' hm
  obtain ⟨inv, hname', harguments, hoptions, hbody⟩ :=
    blocks_body (p := ⟨r, { config with maxDepth := k + 1 }⟩) hname hd htakes hcontent hn
      (hflush.atMargin htab) k 0
  -- The text is parsed two lines further down, and with a limit that is higher by one.
  have hshift := blocks_add (p := ⟨r, { config with maxDepth := k + 1 }⟩) hkept hroles
    (shifts_nestedWithin (p := ⟨r, { config with maxDepth := k + 1 }⟩) hkept hroles k)
    (normalLines c) 0 2
  have hlimit := nestedWithin_withMaximum hkept { config with maxDepth := k }
    { config with maxDepth := k + 1 } (k + 1) (normalLines c) 0
  rw [nestedWithin, nestedWithin, blocksWithin_eq, blocksWithin_eq] at hlimit
  rw [hshift, hlimit, ← normalLines_bodySource hname n htab] at hbody
  refine ⟨fun d hparse => ⟨inv, hname', harguments, hoptions, ?_⟩, fun e hdepth hparse => ?_⟩
  · rw [parse_eq_ok_iff] at hparse ⊢
    dsimp only at hparse ⊢
    rw [Nat.add_sub_cancel] at hparse
    rw [hbody, hparse]
    rfl
  · rw [parse_eq_error_iff] at hparse ⊢
    dsimp only at hparse ⊢
    rw [Nat.add_sub_cancel] at hparse
    rw [hbody, hparse, Except.mapError_error, ParseError.withMaximum_eq_self hdepth]
    rfl

/-- A quote and a comment below `glossary`, and a directive that lacks its argument. -/
theorem parse_bodySource_glossary :
    ∃ r shape, r.KeepsDirectives ∧ r.NativeRoles ∧ IsDirectiveName "glossary" ∧
      r.directive? "glossary" = some (.passthrough shape false) ∧ shape.takesArguments = false ∧
      shape.content = true ∧ 1 ≤ 2 ∧ ('\t' ∉ ("  .. a\n\n.. b" : Text)) ∧
      Text.HasFlushLine "  .. a\n\n.. b" ∧ ('\t' ∉ (".. only::" : Text)) ∧
      Text.HasFlushLine ".. only::" ∧ 1 ≤ 1 ∧
      (∃ inv, inv.name = "glossary".toList ∧ inv.arguments = [] ∧ inv.options = ∅ ∧
        parse ⟨r, { Passthrough.fileless with maxDepth := 1 }⟩
            (bodySource "glossary" 2 "  .. a\n\n.. b") =
          .ok ⟨[.directive inv false [.quote 3 [.comment 3 ".. a"], .comment 5 ".. b"]]⟩) ∧
      parse ⟨r, { Passthrough.fileless with maxDepth := 1 }⟩ (bodySource "glossary" 2 ".. only::") =
        .error (.directive "only" 3 (.block (.tooFewArguments 1 0))) := by
  obtain ⟨r, hr⟩ := Passthrough.exists_registry_default
  have hkept := Passthrough.registry_keepsDirectives hr
  have hroles := Passthrough.nativeRoles_registry hr
  have hmarker : directiveMarker? (".. glossary::" : Text) = some ("glossary".toList, []) := by decide
  have hname := (of_directiveMarker? hmarker).1
  have hd := Passthrough.directive?_glossary hr
  have hflush : Text.HasFlushLine "  .. a\n\n.. b" := ⟨".. b", by decide, by decide, by decide⟩
  have hflush' : Text.HasFlushLine ".. only::" := ⟨".. only::", by decide, by decide, by decide⟩
  have hblocks : parse ⟨r, { Passthrough.fileless with maxDepth := 0 }⟩ "  .. a\n\n.. b" =
      .ok ⟨[.quote 1 [.comment 1 ".. a"], .comment 3 ".. b"]⟩ := by
    have hchunks : chunks (normalLines "  .. a\n\n.. b") =
        [⟨.quote, 0, ["  .. a"]⟩, ⟨.explicit, 2, [".. b"]⟩] := by cbv
    have hquoted : chunks (Text.dropMargin ["  .. a"]) = [⟨.explicit, 0, [".. a"]⟩] := by cbv
    rw [parse_eq_ok_iff, blocks_eq, hchunks, List.mapM_cons, chunkBlocks_quote rfl,
      blocks_of_chunk hquoted, chunkBlocks_explicit rfl, explicitBlocks_comment (by decide),
      List.mapM_cons, chunkBlocks_explicit rfl, explicitBlocks_comment (by decide)]
    rfl
  have herror : parse ⟨r, { Passthrough.fileless with maxDepth := 0 }⟩ ".. only::" =
      .error (.directive "only" 1 (.block (.tooFewArguments 1 0))) := by
    have hlines : normalLines ".. only::" = [".. only::".toList] := by decide
    have hmarker : directiveMarker? (".. only::" : Text) = some ("only".toList, []) := by decide
    have hdivide : Directive.only.shape.withAnyOption.divide ([] :: Text.dropMargin []) 0 =
        .error (.tooFewArguments 1 0) := by cbv
    rw [parse_of_marker hlines hmarker (by decide) (by decide),
      directiveBlocks_kept (Passthrough.directive?_only hr), hdivide]
    rfl
  have hdepth : ¬ParseError.IsDepth (.directive "only" 1 (.block (.tooFewArguments 1 0))) := by
    rintro ⟨line, maximum, h⟩
    cases h
  have hparse := (parse_bodySource hkept hroles hname hd rfl rfl (n := 2) (by decide) (by decide)
    hflush Passthrough.fileless (m := 1) (Nat.le_refl 1)).1 _ hblocks
  have hfails := (parse_bodySource hkept hroles hname hd rfl rfl (n := 2) (by decide) (by decide)
    hflush' Passthrough.fileless (m := 1) (Nat.le_refl 1)).2 _ hdepth herror
  exact ⟨r, _, hkept, hroles, hname, hd, rfl, rfl, by decide, by decide, hflush, by decide, hflush',
    by decide, hparse, hfails⟩

end Parser

end StructuredText

import StructuredText.Proofs.Block.Chunk
import StructuredText.Proofs.Block.DirectiveMarker
import StructuredText.Proofs.Invocation.RoundTrip
import StructuredText.Proofs.Parser.Blocks

/-!
# Parsing a written invocation

The written form of an invocation that fits a shape is read line by line as it was written
(`normalLines_render`), and these lines are one block, which is divided as the written block of its
parts (`parse_render`).
-/

namespace StructuredText

open Text

namespace Invocation

/-- The line of the marker with the first line of the arguments. -/
def markerLine (inv : Invocation) : Text :=
  if firstLine (join [' '] inv.arguments) = [] then markerHead inv.name
  else markerHead inv.name ++ ' ' :: firstLine (join [' '] inv.arguments)

/-- The lines of the written form. -/
def writtenLines (inv : Invocation) : List Text :=
  inv.markerLine :: (linesBelow inv.arguments inv.options inv.content).map (indentBy 3)

theorem render_eq (inv : Invocation) : inv.render = ofLines inv.writtenLines := by
  have hmarker : inv.markerLines =
      inv.markerLine :: (laterLines (join [' '] inv.arguments)).map (indentBy 3) := by
    rw [markerLines, hangingLines, cutAt_eq_cons]
    rfl
  have hoptions : inv.options.entries.flatMap optionLines =
      (inv.options.entries.flatMap fieldLines).map (indentBy 3) := by
    rw [List.map_flatMap]
    exact List.flatMap_congr fun e _ => optionLines_eq e
  have hcontent : inv.contentLines = (contentBlock inv.content).map (indentBy 3) := by
    unfold contentLines contentBlock
    split
    · rfl
    · rfl
  rw [render, hmarker, hoptions, hcontent, writtenLines, linesBelow, List.map_append,
    List.map_append]
  rfl

theorem isLine_markerHead {name : Text} (hname : IsDirectiveName name) :
    IsLine (markerHead name) := by
  have h := NameRest.noTab hname
  refine ⟨?_, ?_, fun c hc => ?_⟩
  · simp only [markerHead, List.mem_append, List.mem_cons, List.not_mem_nil, or_false, not_or]
    exact ⟨⟨by decide, h.1⟩, by decide⟩
  · simp only [markerHead, List.mem_append, List.mem_cons, List.not_mem_nil, or_false, not_or]
    exact ⟨⟨by decide, h.2⟩, by decide⟩
  · rw [markerHead, List.getLast?_append] at hc
    cases hc
    exact isWhite_colon

theorem isLine_markerLine {inv : Invocation} (hname : IsDirectiveName inv.name)
    (hfirst : IsLine (firstLine (join [' '] inv.arguments))) : IsLine inv.markerLine := by
  have hhead := isLine_markerHead hname
  unfold markerLine
  split
  · exact hhead
  · next hne =>
    rw [← List.singleton_append, ← List.append_assoc]
    refine IsLine.append ⟨?_, ?_⟩ hfirst hne
    · simpa using hhead.noNewline
    · simpa using hhead.noTab

theorem exists_markerLine (inv : Invocation) : ∃ t, inv.markerLine = markerHead inv.name ++ t := by
  unfold markerLine
  split
  · exact ⟨[], (List.append_nil _).symm⟩
  · exact ⟨_, rfl⟩

/-- Whatever stands below it, the marker's line is read as it was written. -/
theorem exists_normalLines_render {inv : Invocation} (h : IsLine inv.markerLine) :
    ∃ ls, normalLines inv.render = inv.markerLine :: ls := by
  have hne : inv.markerLine ≠ [] := by
    obtain ⟨t, ht⟩ := inv.exists_markerLine
    rw [ht, markerHead]
    simp
  rw [render_eq, writtenLines]
  -- The line ends with the text, or at the newline before the next one.
  cases (linesBelow inv.arguments inv.options inv.content).map (indentBy 3) with
  | nil => exact ⟨[], normalLines_ofLines (by simpa using h) (by simpa using hne)⟩
  | cons l ls =>
    rw [ofLines_cons_cons, normalLines_cons h]
    exact ⟨_, rfl⟩

section Fits

variable {shape : Shape} {inv : Invocation}

theorem endsFilled_writtenLines (h : shape.Fits inv.arguments inv.options inv.content) :
    EndsFilled ((linesBelow inv.arguments inv.options inv.content).map (indentBy 3)) :=
  h.endsFilled_linesBelow.map_indentBy 3

/-- The written form is read as the lines that were written. -/
theorem normalLines_render (hname : IsDirectiveName inv.name)
    (h : shape.Fits inv.arguments inv.options inv.content) :
    normalLines inv.render = inv.writtenLines := by
  rw [render_eq]
  have hmarker := inv.exists_markerLine
  obtain ⟨t, ht⟩ := hmarker
  have hfilled : isBlank inv.markerLine = false := by
    rw [ht, isBlank_of_isExplicit (isExplicit_markerHead _ _)]
  refine normalLines_ofLines (fun l hl => ?_) fun hlast => ?_
  · rcases List.mem_cons.1 hl with rfl | hl
    · exact isLine_markerLine hname h.isLine_firstLine
    · obtain ⟨m, hm, rfl⟩ := List.mem_map.1 hl
      exact isLine_indentBy (h.isLine_linesBelow m hm)
  · have hb := (endsFilled_writtenLines h).cons hfilled [] hlast
    rw [isBlank_nil] at hb
    cases hb

theorem directiveMarker?_markerLine (hname : IsDirectiveName inv.name)
    (h : shape.FitsArguments inv.arguments) :
    directiveMarker? inv.markerLine = some (inv.name, firstLine (join [' '] inv.arguments)) := by
  refine directiveMarker?_marker hname fun hspace => ?_
  by_cases hne : inv.arguments = []
  · rw [hne] at hspace
    cases hspace
  · obtain ⟨c, r, hfirst, hc⟩ := beginsWord_firstLine (h.beginsWord_join hne)
    rw [hfirst] at hspace
    cases hspace
    rw [isWhite_space] at hc
    cases hc

/-- **Parsing the written form divides the written block.** -/
theorem parse_render (p : Parser) (hname : IsDirectiveName inv.name)
    (h : shape.Fits inv.arguments inv.options inv.content) :
    p.parse inv.render =
      (p.directiveBlocks (p.nestedWithin p.config.maxDepth) inv.name
        (writtenBlock inv.arguments inv.options inv.content) inv.render 0).map Document.mk := by
  rw [Parser.parse_of_marker (normalLines_render hname h) (directiveMarker?_markerLine hname
    h.fitsArguments) (continuesBlock_of_mem_map_indentBy (by decide) _) (endsFilled_writtenLines h),
    dropMargin_map_indentBy, render_eq]
  rfl

end Fits

end Invocation

end StructuredText

import StructuredText.Proofs.Passthrough.RoundTrip

/-!
# Canonical invocations

For a name under which a raw passthrough is registered, writing an invocation and parsing it loses
nothing if its arguments and options are in the form that reading gives them (`Canonical`) and its
content is one that the written form can hold (`CanonicalContent`). The condition on the content is
exact: `parse_render_iff_canonicalContent`.

Nothing is assumed on what else the parser knows. The written form begins with the line of the
marker, whatever stands in the content, so that its first block is that of the registered name.
-/

namespace StructuredText

open Text

namespace Text

/-- A text of one line, without tabs and without white space at either end. -/
structure IsPhrase (t : Text) : Prop where
  ne_nil : t ≠ []
  noNewline : '\n' ∉ t
  noTab : '\t' ∉ t
  trimmed : trim t = t

/-- Trimming leaves a text alone only if it neither begins nor ends with white space. -/
theorem of_trim_eq_self {t : Text} (h : trim t = t) (hne : t ≠ []) :
    BeginsWord t ∧ ∀ c, t.getLast? = some c → isWhite c = false := by
  -- Neither of the two trimmings can have removed anything.
  have hlen := congrArg List.length h
  have hend : (trim t).length ≤ (trimStart t).length := (prefix_trimEnd _).length_le
  have hstart : trimStart t = t :=
    (trimStart_suffix t).eq_of_length (Nat.le_antisymm (length_trimStart_le t) (by omega))
  refine ⟨?_, fun c hc => ?_⟩
  · cases t with
    | nil => exact absurd rfl hne
    | cons c r => exact ⟨c, r, rfl, isWhite_head_trimStart hstart⟩
  · rw [← h] at hc
    exact isWhite_getLast_trimEnd hc

theorem IsLine.trimEnd_eq {l : Text} (h : IsLine l) : trimEnd l = l := trimEnd_eq_self h.trimmed

end Text

/-- An option's value as it is read: trimmed and without tabs, in lines none of which is blank or
ends with white space. If there are several, a line after the first is not indented. -/
structure IsCanonicalValue (v : Text) : Prop where
  ne_nil : v ≠ []
  trimmed : trim v = v
  noTab : '\t' ∉ v
  lines : ∀ l ∈ cutAt '\n' v, isBlank l = false ∧ trimEnd l = l
  aligned : laterLines v ≠ [] → ∃ l ∈ laterLines v, indentation l = 0

theorem IsCanonicalValue.isFieldValue {v : Text} (h : IsCanonicalValue v) : IsFieldValue v := by
  refine ⟨(of_trim_eq_self h.trimmed h.ne_nil).1, fun l hl => ?_⟩
  obtain ⟨hb, ht⟩ := h.lines l hl
  refine ⟨isLine_of_trimEnd ⟨sep_not_mem_of_mem_cutAt hl, fun htab => ?_, ht⟩, hb⟩
  exact h.noTab (mem_of_mem_cutAt hl htab)

theorem IsCanonicalValue.margin_laterLines {v : Text} (h : IsCanonicalValue v) :
    margin (laterLines v) = 0 := by
  by_cases hnil : laterLines v = []
  · rw [hnil]
    rfl
  · obtain ⟨l, hl, hi⟩ := h.aligned hnil
    exact margin_eq_zero hl (mem_laterLines h.isFieldValue hl).2 hi

namespace Invocation

/-- Arguments and options in the form that reading gives them. -/
structure Canonical (shape : Shape) (inv : Invocation) : Prop where
  required_le : shape.required ≤ inv.arguments.length
  le_max : inv.arguments.length ≤ shape.maxArguments
  words : ∀ a ∈ inv.arguments.dropLast, IsWord a
  last_argument : ∀ a, inv.arguments.getLast? = some a → IsWord a ∨
    shape.finalWhitespace = true ∧ inv.arguments.length = shape.maxArguments ∧ IsPhrase a
  not_field : isField (join [' '] inv.arguments) = false
  names : ∀ e ∈ inv.options.entries, IsFieldName e.1 ∧ '\n' ∉ e.1 ∧ '\t' ∉ e.1
  values : ∀ e ∈ inv.options.entries, ∀ v, e.2 = some v → IsCanonicalValue v

/-- Content that the written form can hold: lines, of which neither the first nor the last is blank.
Without options, some line has to show the margin. -/
structure CanonicalContent (shape : Shape) (inv : Invocation) : Prop where
  allowed : shape.content = false → inv.content = []
  lines : ∀ l ∈ inv.content, '\n' ∉ l ∧ '\t' ∉ l ∧ trimEnd l = l
  first : ∀ l, inv.content.head? = some l → isBlank l = false
  last : ∀ l, inv.content.getLast? = some l → isBlank l = false
  no_margin : inv.options.entries = [] → inv.content ≠ [] →
    ∃ l ∈ inv.content, isBlank l = false ∧ indentation l = 0

section Canonical

variable {shape : Shape} {inv : Invocation}

theorem Canonical.fitsArguments (h : inv.Canonical shape) : shape.FitsArguments inv.arguments := by
  refine ⟨h.required_le, h.le_max, ?_⟩
  -- Only the last argument can be more than a word.
  rcases List.eq_nil_or_concat inv.arguments with hnil | ⟨front, last, hconcat⟩
  · rw [hnil]
    exact Or.inl (by simp)
  · have hwords := h.words
    have hlast := h.last_argument last
    rw [hconcat, List.concat_eq_append] at hwords hlast ⊢
    rw [List.dropLast_concat] at hwords
    rcases hlast (by simp) with hword | ⟨hfinal, hcount, hphrase⟩
    · left
      intro w hw
      rcases List.mem_append.1 hw with hw | hw
      · exact hwords w hw
      · rwa [List.mem_singleton.1 hw]
    · obtain ⟨hbegins, hends⟩ := of_trim_eq_self hphrase.trimmed hphrase.ne_nil
      exact Or.inr ⟨hfinal, hcount, front, last, rfl, hwords, hbegins, hends⟩

/-- The arguments are written on one line. -/
theorem Canonical.isLine_join (h : inv.Canonical shape) : IsLine (join [' '] inv.arguments) := by
  rcases List.eq_nil_or_concat inv.arguments with hnil | ⟨front, last, hconcat⟩
  · rw [hnil]
    exact isLine_nil
  · have hwords := h.words
    have hlast := h.last_argument last
    rw [hconcat, List.concat_eq_append] at hwords hlast ⊢
    rw [List.dropLast_concat] at hwords
    obtain ⟨u, hu, hplain⟩ := exists_join_append hwords last
    rw [hu]
    rcases hlast (by simp) with hword | ⟨-, -, hphrase⟩
    · exact hword.isLine.append hplain hword.ne_nil
    · refine IsLine.append hplain ⟨hphrase.noNewline, hphrase.noTab, ?_⟩ hphrase.ne_nil
      exact (of_trim_eq_self hphrase.trimmed hphrase.ne_nil).2

theorem Canonical.laterLines_eq (h : inv.Canonical shape) :
    laterLines (join [' '] inv.arguments) = [] :=
  laterLines_of_noNewline h.isLine_join.noNewline

theorem Canonical.firstLine_eq (h : inv.Canonical shape) :
    firstLine (join [' '] inv.arguments) = join [' '] inv.arguments :=
  firstLine_of_noNewline h.isLine_join.noNewline

theorem Canonical.fits (h : inv.Canonical shape) (hc : inv.CanonicalContent shape) :
    shape.Fits inv.arguments inv.options inv.content := by
  refine ⟨h.fitsArguments, ?_, ?_, fun e he => ?_, fun l hl => isLine_of_trimEnd (hc.lines l hl),
    hc.first, hc.last, fun hne => ?_⟩
  · rw [h.firstLine_eq]
    exact h.isLine_join
  · rw [h.laterLines_eq]
    simp
  · obtain ⟨hname, hnewline, htab⟩ := h.names e he
    exact ⟨hname, hnewline, htab, fun v hv => (h.values e he v hv).isFieldValue⟩
  · cases hallowed : shape.content with
    | true => rfl
    | false => exact absurd (hc.allowed hallowed) hne

theorem Canonical.stable (h : inv.Canonical shape) (hc : inv.CanonicalContent shape) :
    Stable inv.arguments inv.options inv.content := by
  refine ⟨?_, fun e he v hv => (h.values e he v hv).margin_laterLines, fun hopt => ?_⟩
  · rw [h.firstLine_eq]
    exact h.not_field
  · rw [h.laterLines_eq, List.nil_append]
    by_cases hnil : inv.content = []
    · rw [hnil]
      rfl
    · obtain ⟨l, hl, hb, hi⟩ := hc.no_margin hopt hnil
      exact margin_eq_zero hl hb hi

/-- Content that fits and is stable can be held by the written form. -/
theorem Canonical.canonicalContent (h : inv.Canonical shape)
    (hfits : shape.Fits inv.arguments inv.options inv.content)
    (hstable : Stable inv.arguments inv.options inv.content) : inv.CanonicalContent shape := by
  refine ⟨fun hno => ?_, fun l hl => ?_, hfits.content_head, hfits.content_end,
    fun hopt hne => ?_⟩
  · by_cases hnil : inv.content = []
    · exact hnil
    · have hyes := hfits.content_allowed hnil
      rw [hno] at hyes
      cases hyes
  · have hline := hfits.content_lines l hl
    exact ⟨hline.noNewline, hline.noTab, hline.trimEnd_eq⟩
  · have hmargin := hstable.no_margin hopt
    rw [h.laterLines_eq, List.nil_append] at hmargin
    obtain ⟨l, ls, hcontent⟩ := List.exists_cons_of_ne_nil hne
    have hhead := hfits.content_head l (by rw [hcontent, List.head?_cons])
    have hmem : l ∈ inv.content := by
      rw [hcontent]
      exact List.mem_cons_self ..
    obtain ⟨m, hm, hb, hi⟩ := exists_margin ⟨l, hmem, hhead⟩
    exact ⟨m, hm, hb, hi.trans hmargin⟩

end Canonical

end Invocation

namespace Parser

variable {p : Parser} {shape : Shape} {inv : Invocation}

/-- If parsing a written form gives the invocation, its parts fit the shape. -/
theorem fits_of_parse_render (hname : IsDirectiveName inv.name)
    (hknown : p.registry.directive? inv.name = some (.passthrough shape true))
    (h : inv.Canonical shape) {inv' : Invocation}
    (hparse : p.parse inv.render = .ok ⟨[.directive inv' true []]⟩)
    (harguments : inv'.arguments = inv.arguments) (hoptions : inv'.options = inv.options)
    (hcontent : inv'.content = inv.content) :
    shape.Fits inv.arguments inv.options inv.content := by
  have hmarker := Invocation.directiveMarker?_markerLine hname h.fitsArguments
  have hline : IsLine inv.markerLine :=
    Invocation.isLine_markerLine hname (by rw [h.firstLine_eq]; exact h.isLine_join)
  obtain ⟨ls, hlines⟩ := Invocation.exists_normalLines_render hline
  have hblocks := parse_eq_ok_iff.1 hparse
  rw [hlines] at hblocks
  obtain ⟨below, bs', bs'', hbelow, hdirective, heq⟩ := exists_directiveBlocks hmarker hblocks
  obtain ⟨parts, children, hdivide, -, rfl⟩ := (directiveBlocks_kept_eq_ok_iff hknown).1 hdirective
  -- There is one block, so it is the one of the marker's line.
  rw [List.singleton_append, List.cons.injEq, Block.directive.injEq] at heq
  obtain ⟨⟨rfl, -, -⟩, -⟩ := heq
  obtain ⟨before, fields, tail, start, hd⟩ := Shape.divide_withAnyOption_eq_ok_iff.1 hdivide
  have hread : ∀ l ∈ inv.markerLine :: below, IsLine l := by
    intro l hl
    have hmem : l ∈ normalLines inv.render := by
      rw [hlines]
      exact (List.cons_prefix_cons.2 ⟨rfl, hbelow⟩).subset hl
    exact isLine_of_mem_normalLines hmem
  have hfits := (hd.fits (isLine_block hread hmarker)).1
  rw [← harguments, ← hoptions, ← hcontent]
  exact hfits

end Parser

namespace Passthrough

/-- **A canonical invocation is found again exactly if its content is canonical**: one node comes
back, and it differs at most in where it stands. -/
theorem parse_render_iff_canonicalContent (r : Registry) (config : ParserConfig) (shape : Shape)
    (inv : Invocation) (hname : IsDirectiveName inv.name) (h : inv.Canonical shape) :
    (∃ k, Parser.parse ⟨r.registerDirective inv.name (.passthrough shape true), config⟩
      inv.render = .ok ⟨[.directive
        { inv with line := 1, contentOffset := k, blockText := inv.render } true []]⟩) ↔
    inv.CanonicalContent shape := by
  have hknown : (Parser.mk (r.registerDirective inv.name (.passthrough shape true))
      config).registry.directive? inv.name = some (.passthrough shape true) :=
    Registry.directive?_registerDirective r inv.name _
  constructor
  · rintro ⟨k, hparse⟩
    have hfits := Parser.fits_of_parse_render hname hknown h hparse rfl rfl rfl
    have hstable := Parser.stable_of_parse_render hname hknown hfits hparse
      (Document.head?_blocks []) rfl rfl rfl
    exact h.canonicalContent hfits hstable
  · intro hc
    obtain ⟨k, hparse⟩ := Parser.parse_render_of_stable hname hknown (h.fits hc) (h.stable hc)
    exact ⟨k, hparse [] rfl⟩

/-- Every kind of part at once: a title with spaces, a value of two lines and a flag, and content
with a blank line and an indented one. -/
def mixedInvocation : Invocation :=
  { name := "x-y"
    arguments := ["a", "b c"]
    options := ⟨[("k l", some "1\n2"), ("f", none)], by decide⟩
    content := ["q", "", "  r"]
    line := 0
    contentOffset := 0
    blockText := [] }

theorem parse_render_mixedInvocation :
    ∃ k, Parser.parse
        ⟨Registry.empty.registerDirective "x-y"
          (.passthrough { required := 1, optional := 1, finalWhitespace := true, content := true }
            true), { fileText := fun _ => .error [] }⟩ mixedInvocation.render =
      .ok ⟨[.directive { mixedInvocation with
        line := 1, contentOffset := k, blockText := mixedInvocation.render } true []]⟩ := by
  have hmarker : directiveMarker? ".. x-y::" = some (("x-y" : Text), ([] : Text)) := by decide
  refine (parse_render_iff_canonicalContent .empty { fileText := fun _ => .error [] }
    { required := 1, optional := 1, finalWhitespace := true, content := true } mixedInvocation
    (of_directiveMarker? hmarker).1 ?_).2 ?_
  · refine ⟨by decide, by decide, fun a ha => ?_, fun a ha => ?_, by decide, fun e he => ?_,
      fun e he v hv => ?_⟩
    · rw [List.mem_singleton.1 ha]
      exact isWord_of_all (by decide) rfl
    · cases ha
      exact Or.inr ⟨rfl, rfl, by decide, by decide, by decide, by decide⟩
    · rcases List.mem_cons.1 he with rfl | he
      · exact ⟨⟨by decide, by decide, by decide, by decide⟩, by decide, by decide⟩
      · rw [List.mem_singleton.1 he]
        exact ⟨⟨by decide, by decide, by decide, by decide⟩, by decide, by decide⟩
    · rcases List.mem_cons.1 he with rfl | he
      · cases hv
        exact ⟨by decide, by decide, by decide, by decide, by decide⟩
      · rw [List.mem_singleton.1 he] at hv
        cases hv
  · exact ⟨by decide, by decide, by decide, by decide, by decide⟩

end Passthrough

end StructuredText

import StructuredText.Proofs.Invocation.Arguments

/-!
# Which invocations survive being written and read

The parts that a division gives are of a certain form (`Shape.Fits`, `Divides.fits`). Written out and
divided again, such parts are not always found again: the written form moves lines to other margins,
and the division may take a line for something else. `Stable` says when neither happens, and
`divide_written_iff` that this is the exact condition.
-/

namespace StructuredText

open Text

/-- The parts that the division of a block into lines can give. -/
structure Shape.Fits (shape : Shape) (arguments : List Text) (options : Options)
    (content : List Text) : Prop where
  fitsArguments : shape.FitsArguments arguments
  isLine_firstLine : IsLine (firstLine (join [' '] arguments))
  laterLines_plain : ∀ l ∈ laterLines (join [' '] arguments),
    IsLine l ∧ isBlank l = false ∧ isField l = false
  isOption : ∀ e ∈ options.entries, IsOption e
  content_lines : ∀ l ∈ content, IsLine l
  content_head : ∀ l, content.head? = some l → isBlank l = false
  content_end : EndsFilled content
  content_allowed : content ≠ [] → shape.content = true

/-- When parts keep their meaning in the written form: the first line of the arguments does not
look like an option, and no lines that are read out of their common margin have one. -/
structure Stable (arguments : List Text) (options : Options) (content : List Text) : Prop where
  firstLine_plain : isField (firstLine (join [' '] arguments)) = false
  values_aligned : ValuesAligned options.entries
  no_margin : options.entries = [] → margin (laterLines (join [' '] arguments) ++ content) = 0

namespace Shape

variable {shape : Shape}

/-- **The parts of a block fit the shape**, and the later lines of its arguments are lines of it. -/
theorem Divides.fits {lines : List Text} {offset : Nat} {before fields tail : List Text}
    {start : Nat} {parts : Parts}
    (h : shape.Divides lines offset before fields tail start parts)
    (hlines : ∀ l ∈ lines, IsLine l) :
    shape.Fits parts.arguments parts.options parts.content ∧
      laterLines (join [' '] parts.arguments) <:+ before.tail := by
  have hmem : ∀ l ∈ before ++ fields ++ tail, IsLine l := fun l hl => hlines l (h.mem_lines hl)
  have hbefore : ∀ l ∈ before, IsLine l ∧ isBlank l = false := fun l hl =>
    ⟨hmem l (by simp [hl]), (h.before_plain l hl).1⟩
  have hfields : ∀ l ∈ fields, IsLine l ∧ isBlank l = false := fun l hl =>
    ⟨hmem l (by simp [hl]), h.fields_filled l hl⟩
  obtain ⟨harguments, hfirst, hlater⟩ := argumentsIn_spec hbefore h.arguments
  obtain ⟨es, hes, hoptions⟩ := isOption_of_readFields hfields h.options
  obtain ⟨hend, hcontent⟩ := h.contentAfter_spec
  have hsuffix := h.content_suffix
  refine ⟨⟨harguments, hfirst, fun l hl => ?_, fun e he => ?_, fun l hl => ?_, fun l hl => ?_,
    hend.of_suffix hsuffix, h.permitted⟩, hlater⟩
  · have hl : l ∈ before := List.mem_of_mem_tail (hlater.subset hl)
    exact ⟨(hbefore l hl).1, h.before_plain l hl⟩
  · rw [hes] at he
    exact hoptions e he
  · exact hmem l (hcontent l (hsuffix.subset hl))
  · rw [h.content] at hl
    exact List.head_dropWhile_stop hl

/-- A shape that takes no arguments has given none. -/
theorem FitsArguments.eq_nil {arguments : List Text} (h : shape.FitsArguments arguments)
    (ht : shape.takesArguments = false) : arguments = [] := by
  have hmax := h.le_max
  have hzero : ¬0 < shape.maxArguments := of_decide_eq_false ht
  exact List.length_eq_zero_iff.1 (by omega)

/-- The content is what follows the first paragraph, unless that is content itself. -/
theorem contentAfter_of_nil {before fields tail : List Text} {start : Nat}
    (h : shape.takesArguments = false → before = []) :
    shape.contentAfter before fields tail start =
      (tail.drop 1, start + (before.length + fields.length) + 1) := by
  unfold contentAfter
  rw [if_neg]
  intro hnot
  simp only [Bool.and_eq_true, Bool.not_eq_true', decide_eq_true_eq] at hnot
  exact hnot.2 (h hnot.1)

end Shape

/-! ## The written block -/

/-- The content as it stands in a block: after a blank line. -/
def contentBlock (content : List Text) : List Text :=
  if content = [] then [] else [] :: content

/-- The lines of the written parts below the line of the marker, not indented. -/
def linesBelow (arguments : List Text) (options : Options) (content : List Text) : List Text :=
  laterLines (join [' '] arguments) ++ options.entries.flatMap fieldLines ++ contentBlock content

/-- The written parts as a block is divided: the text after the marker, and the lines below it out of
their margin. -/
def writtenBlock (arguments : List Text) (options : Options) (content : List Text) : List Text :=
  firstLine (join [' '] arguments) :: dropMargin (linesBelow arguments options content)

section Written

variable {shape : Shape} {arguments : List Text} {options : Options} {content : List Text}

theorem head_contentBlock {l : Text} (h : (contentBlock content).head? = some l) :
    isBlank l = true := by
  unfold contentBlock at h
  split at h
  · cases h
  · cases h
    exact isBlank_nil

theorem endsFilled_contentBlock (h : EndsFilled content) : EndsFilled (contentBlock content) := by
  unfold contentBlock
  split
  · exact endsFilled_nil
  · next hne =>
    show EndsFilled ([[]] ++ content)
    exact h.append hne

theorem drop_contentBlock : (contentBlock content).drop 1 = content := by
  unfold contentBlock
  split
  · next h => rw [h]; rfl
  · rfl

theorem Shape.Fits.isLine_linesBelow (h : shape.Fits arguments options content) :
    ∀ l ∈ linesBelow arguments options content, IsLine l := by
  intro l hl
  rcases List.mem_append.1 hl with hl | hl
  · rcases List.mem_append.1 hl with hl | hl
    · exact (h.laterLines_plain l hl).1
    · exact (mem_flatMap_fieldLines h.isOption hl).1
  · unfold contentBlock at hl
    split at hl
    · cases hl
    · rcases List.mem_cons.1 hl with rfl | hl
      · exact isLine_nil
      · exact h.content_lines l hl

theorem Shape.Fits.endsFilled_linesBelow (h : shape.Fits arguments options content) :
    EndsFilled (linesBelow arguments options content) := by
  unfold linesBelow
  by_cases hnil : contentBlock content = []
  · rw [hnil, List.append_nil]
    refine endsFilled_of_all fun l hl => ?_
    rcases List.mem_append.1 hl with hl | hl
    · exact (h.laterLines_plain l hl).2.1
    · exact (mem_flatMap_fieldLines h.isOption hl).2
  · exact (endsFilled_contentBlock h.content_end).append hnil

/-- Blank lines do not count for the margin. -/
theorem margin_linesBelow_of_no_options (h : options.entries = []) :
    margin (linesBelow arguments options content) =
      margin (laterLines (join [' '] arguments) ++ content) := by
  have hfilter : (linesBelow arguments options content).filter (fun l => !isBlank l) =
      (laterLines (join [' '] arguments) ++ content).filter fun l => !isBlank l := by
    unfold linesBelow contentBlock
    rw [h, List.flatMap_nil, List.append_nil, List.filter_append, List.filter_append]
    split
    · next hc => rw [hc]
    · rw [List.filter_cons_of_neg (by simp [isBlank_nil])]
  rw [margin, margin, hfilter]

/-- The line of an option is not indented. -/
theorem margin_linesBelow_of_options (hfits : shape.Fits arguments options content)
    (h : options.entries ≠ []) : margin (linesBelow arguments options content) = 0 := by
  cases hes : options.entries.flatMap fieldLines with
  | nil =>
    cases hopt : options.entries with
    | nil => exact absurd hopt h
    | cons e es =>
      obtain ⟨line, first, heq, -⟩ := fieldLines_eq (hfits.isOption e (by rw [hopt]; simp))
      rw [hopt, List.flatMap_cons, heq] at hes
      cases hes
  | cons l ls =>
    obtain ⟨-, hb, hi⟩ := isField_head_fieldLines hfits.isOption (l := l) (by rw [hes]; rfl)
    refine margin_eq_zero ?_ hb hi
    unfold linesBelow
    rw [hes]
    simp

theorem dropMargin_linesBelow (hfits : shape.Fits arguments options content)
    (hm : margin (linesBelow arguments options content) = 0) :
    dropMargin (linesBelow arguments options content) = linesBelow arguments options content :=
  dropMargin_eq_self hm fun l hl hb => (hfits.isLine_linesBelow l hl).eq_nil_of_isBlank hb

/-! ## Dividing the written block -/

/-- The text after the marker as a line of the body: it is none where there are no arguments. -/
def markerText (arguments : List Text) : List Text :=
  if arguments = [] then [] else [firstLine (join [' '] arguments)]

theorem markerText_append (arguments : List Text) :
    markerText arguments ++ laterLines (join [' '] arguments) = Shape.argumentLines arguments := by
  unfold markerText Shape.argumentLines
  split
  · next h => rw [h]; rfl
  · rw [cutAt_eq_cons]
    rfl

theorem Shape.Fits.firstLine_filled (h : shape.Fits arguments options content)
    (hne : arguments ≠ []) : isBlank (firstLine (join [' '] arguments)) = false :=
  not_isBlank_of_beginsWord (beginsWord_firstLine (h.fitsArguments.beginsWord_join hne))

theorem blockBody_writtenBlock (h : shape.Fits arguments options content) (offset : Nat) :
    ∃ start, Shape.blockBody (writtenBlock arguments options content) offset =
      (markerText arguments ++ dropMargin (linesBelow arguments options content), start) := by
  have hend := endsFilled_dropMargin h.endsFilled_linesBelow
  unfold writtenBlock markerText
  by_cases hne : arguments = []
  -- Without arguments the text after the marker is blank, and no line of the body.
  · have hfirst : firstLine (join [' '] arguments) = [] := by rw [hne]; rfl
    rw [hfirst, if_pos hne, List.nil_append]
    cases hd : dropMargin (linesBelow arguments options content) with
    | nil => exact ⟨offset, rfl⟩
    | cons l ls =>
      rw [hd] at hend
      have hall : dropTrailingBlanks ([] :: l :: ls) = [] :: l :: ls :=
        dropTrailingBlanks_eq_self fun x hx => hend x (by rwa [List.getLast?_cons_cons] at hx)
      refine ⟨offset + 1, ?_⟩
      rw [Shape.blockBody, hall]
      rfl
  · have hfilled := h.firstLine_filled hne
    refine ⟨offset, ?_⟩
    rw [Shape.blockBody, dropTrailingBlanks_eq_self (hend.cons hfilled), if_neg hne]
    simp [hfilled]

theorem Shape.Fits.argumentLines_plain (h : shape.Fits arguments options content)
    (hplain : isField (firstLine (join [' '] arguments)) = false) :
    ∀ l ∈ Shape.argumentLines arguments, isBlank l = false ∧ isField l = false := by
  intro l hl
  unfold Shape.argumentLines at hl
  split at hl
  · cases hl
  · next hne =>
    rw [cutAt_eq_cons] at hl
    rcases List.mem_cons.1 hl with rfl | hl
    · exact ⟨h.firstLine_filled hne, hplain⟩
    · exact (h.laterLines_plain l hl).2

/-- Where reading does not move the lines of a written block, it finds the runs that were written. -/
theorem runs_writtenBlock (h : shape.Fits arguments options content)
    (hplain : isField (firstLine (join [' '] arguments)) = false) :
    Shape.beforeFields (Shape.argumentLines arguments ++ options.entries.flatMap fieldLines ++
        contentBlock content) = Shape.argumentLines arguments ∧
      Shape.fromFields (Shape.argumentLines arguments ++ options.entries.flatMap fieldLines ++
        contentBlock content) = options.entries.flatMap fieldLines ∧
      Shape.afterParagraph (Shape.argumentLines arguments ++ options.entries.flatMap fieldLines ++
        contentBlock content) = contentBlock content :=
  Shape.runs_append (h.argumentLines_plain hplain)
    (fun _ hl => (mem_flatMap_fieldLines h.isOption hl).2)
    (fun _ hl => (isField_head_fieldLines h.isOption hl).1)
    fun _ hl => head_contentBlock hl

theorem blockBody_of_margin (h : shape.Fits arguments options content)
    (hm : margin (linesBelow arguments options content) = 0) (offset : Nat) :
    ∃ start, Shape.blockBody (writtenBlock arguments options content) offset =
      (Shape.argumentLines arguments ++ options.entries.flatMap fieldLines ++
        contentBlock content, start) := by
  obtain ⟨start, hbody⟩ := blockBody_writtenBlock h offset
  refine ⟨start, ?_⟩
  rw [hbody, dropMargin_linesBelow h hm, ← markerText_append, linesBelow]
  simp

theorem Shape.Fits.readFields_options (h : shape.Fits arguments options content) :
    ∃ o, readFields .any ∅ (options.entries.flatMap fieldLines) = .ok o ∧
      o.entries = options.entries.map alignedOption := by
  have hdistinct : ((∅ : Options).names ++ options.entries.map Prod.fst).Nodup := options.distinct
  exact readFields_fieldLines h.isOption hdistinct

theorem dropWhile_isBlank_eq_self {ls : List Text}
    (h : ∀ l, ls.head? = some l → isBlank l = false) : ls.dropWhile isBlank = ls := by
  cases ls with
  | nil => rfl
  | cons l ls => rw [List.dropWhile_cons, if_neg (by simp [h l rfl])]

/-- **Stable parts are found again.** -/
theorem divides_writtenBlock (h : shape.Fits arguments options content)
    (hstable : Stable arguments options content) (offset : Nat) :
    ∃ start k, shape.Divides (writtenBlock arguments options content) offset
      (Shape.argumentLines arguments) (options.entries.flatMap fieldLines) (contentBlock content)
      start ⟨arguments, options, content, k⟩ := by
  -- With a margin of zero, reading leaves the lines where they were written.
  have hm : margin (linesBelow arguments options content) = 0 := by
    by_cases hopt : options.entries = []
    · rw [margin_linesBelow_of_no_options hopt]
      exact hstable.no_margin hopt
    · exact margin_linesBelow_of_options h hopt
  obtain ⟨start, hbody⟩ := blockBody_of_margin h hm offset
  obtain ⟨o, hread, ho⟩ := h.readFields_options
  have hoptions : o = options := by
    have hentries : o.entries = options.entries := by
      rw [ho, (map_alignedOption_eq_self_iff h.isOption).2 hstable.values_aligned]
    cases o
    cases options
    simp only [Options.mk.injEq]
    exact hentries
  have hafter : shape.contentAfter (Shape.argumentLines arguments)
      (options.entries.flatMap fieldLines) (contentBlock content) start =
        (content, start + ((Shape.argumentLines arguments).length +
          (options.entries.flatMap fieldLines).length) + 1) := by
    rw [Shape.contentAfter_of_nil, drop_contentBlock]
    intro ht
    rw [h.fitsArguments.eq_nil ht]
    rfl
  have hhead : content.dropWhile isBlank = content := dropWhile_isBlank_eq_self h.content_head
  refine ⟨start, _, ⟨hbody, h.argumentLines_plain hstable.firstLine_plain,
    fun _ hl => (mem_flatMap_fieldLines h.isOption hl).2,
    fun _ hl => (isField_head_fieldLines h.isOption hl).1, fun _ hl => head_contentBlock hl, ?_,
    Shape.argumentsIn_argumentLines h.fitsArguments, ?_, rfl, h.content_allowed⟩⟩
  · rw [hread, hoptions]
  · rw [hafter, hhead]

section Necessary

variable {offset : Nat} {before fields tail : List Text} {start k : Nat}

theorem firstLine_plain_of_divides (h : shape.Fits arguments options content)
    (hd : shape.Divides (writtenBlock arguments options content) offset before fields tail start
      ⟨arguments, options, content, k⟩) :
    isField (firstLine (join [' '] arguments)) = false := by
  obtain ⟨start', hbody⟩ := blockBody_writtenBlock h offset
  rw [hd.body, Prod.mk.injEq] at hbody
  cases hf : isField (firstLine (join [' '] arguments)) with
  | false => rfl
  | true =>
    have hne : arguments ≠ [] := by
      rintro rfl
      cases hf
    -- The arguments were found in a first line that is no field.
    cases before with
    | nil => exact absurd (Shape.argumentsIn_nil hd.arguments) hne
    | cons l ls =>
      have hlines := hbody.1
      rw [markerText, if_neg hne] at hlines
      have hl : l = firstLine (join [' '] arguments) := (List.cons.inj hlines).1
      rw [← hl, (hd.before_plain l (List.mem_cons_self ..)).2] at hf
      cases hf

theorem valuesAligned_of_divides (h : shape.Fits arguments options content)
    (hd : shape.Divides (writtenBlock arguments options content) offset before fields tail start
      ⟨arguments, options, content, k⟩) : ValuesAligned options.entries := by
  by_cases hopt : options.entries = []
  · intro e he
    rw [hopt] at he
    cases he
  · have hplain := firstLine_plain_of_divides h hd
    obtain ⟨start', hbody⟩ := blockBody_of_margin h (margin_linesBelow_of_options h hopt) offset
    rw [hd.body, Prod.mk.injEq] at hbody
    -- The option lines are found where they were written, and read the way they always are.
    have hruns := (Shape.runs_append hd.before_plain hd.fields_filled hd.fields_head hd.tail_head).2.1
    rw [hbody.1, (runs_writtenBlock h hplain).2.1] at hruns
    obtain ⟨o, hread, ho⟩ := h.readFields_options
    have hoptions := hd.options
    rw [← hruns, hread, Except.ok.injEq] at hoptions
    rw [← map_alignedOption_eq_self_iff h.isOption, ← ho, hoptions]

/-- Without options, the first paragraph and the rest are where they were written. -/
theorem append_of_divides (h : shape.Fits arguments options content)
    (hd : shape.Divides (writtenBlock arguments options content) offset before fields tail start
      ⟨arguments, options, content, k⟩) (hopt : options.entries = []) {f : Text → Text}
    (hf : dropMargin (linesBelow arguments options content) =
      (linesBelow arguments options content).map f) (hblank : ∀ l ∈
        linesBelow arguments options content, isBlank (f l) = isBlank l) :
    before ++ fields = markerText arguments ++ (laterLines (join [' '] arguments)).map f ∧
      tail = (contentBlock content).map f := by
  obtain ⟨start', hbody⟩ := blockBody_writtenBlock h offset
  rw [hd.body, Prod.mk.injEq, hf] at hbody
  have hbelow : linesBelow arguments options content =
      laterLines (join [' '] arguments) ++ contentBlock content := by
    rw [linesBelow, hopt, List.flatMap_nil, List.append_nil]
  rw [hbelow] at hblank hbody
  have hlines := hbody.1
  rw [List.map_append, ← List.append_assoc] at hlines
  -- Both sides are cut where the first blank line stands.
  refine List.append_inj_stop (p := fun l => !isBlank l) hlines ?_ ?_ ?_ ?_
  · intro l hl
    rcases List.mem_append.1 hl with hl | hl
    · simp [(hd.before_plain l hl).1]
    · simp [hd.fields_filled l hl]
  · intro l hl
    simp [hd.tail_head l hl]
  · intro l hl
    rcases List.mem_append.1 hl with hl | hl
    · unfold markerText at hl
      split at hl
      · cases hl
      · next hne =>
        rw [List.mem_singleton.1 hl, h.firstLine_filled hne]
        rfl
    · obtain ⟨m, hm, rfl⟩ := List.mem_map.1 hl
      rw [hblank m (List.mem_append_left _ hm), (h.laterLines_plain m hm).2.1]
      rfl
  · intro l hl
    rw [List.head?_map] at hl
    obtain ⟨m, hm, rfl⟩ := Option.map_eq_some_iff.1 hl
    rw [hblank m (List.mem_append_right _ (List.mem_of_head? hm)), head_contentBlock hm]
    rfl

section Moved

variable (h : shape.Fits arguments options content)
  (hd : shape.Divides (writtenBlock arguments options content) offset before fields tail start
    ⟨arguments, options, content, k⟩) {f : Text → Text}

include h hd

/-- The later lines of arguments that are found again have not been moved. -/
theorem map_laterLines_of_divides (hparagraph : before ++ fields =
      markerText arguments ++ (laterLines (join [' '] arguments)).map f) :
    (laterLines (join [' '] arguments)).map f = laterLines (join [' '] arguments) := by
  have hwritten : ∀ l ∈ writtenBlock arguments options content, IsLine l := by
    intro l hl
    rcases List.mem_cons.1 hl with rfl | hl
    · exact h.isLine_firstLine
    · exact isLine_of_mem_dropMargin h.isLine_linesBelow l hl
  have hlater : laterLines (join [' '] arguments) <:+ before.tail := (hd.fits hwritten).2
  by_cases hne : arguments = []
  · rw [hne]
    rfl
  · rw [markerText, if_neg hne] at hparagraph
    cases before with
    | nil => exact absurd (Shape.argumentsIn_nil hd.arguments) hne
    | cons l ls =>
      -- The later lines are the last ones before the fields, and there is room for no more.
      have hls : ls ++ fields = (laterLines (join [' '] arguments)).map f :=
        (List.cons.inj hparagraph).2
      have hlen := congrArg List.length hls
      rw [List.length_append, List.length_map] at hlen
      have hle := hlater.length_le
      rw [List.tail_cons] at hlater hle
      have hfields : fields = [] := List.length_eq_zero_iff.1 (by omega)
      rw [← hls, hfields, List.append_nil, hlater.eq_of_length (by omega)]

/-- Nor has the content, if it is found again. -/
theorem map_contentBlock_of_divides (hparagraph : before ++ fields =
      markerText arguments ++ (laterLines (join [' '] arguments)).map f)
    (htail : tail = (contentBlock content).map f) (hnil : f [] = [])
    (hblank : ∀ l ∈ linesBelow arguments options content, isBlank (f l) = isBlank l) :
    (contentBlock content).map f = contentBlock content := by
  have hbefore : shape.takesArguments = false → before = [] := by
    intro ht
    have hnone := h.fitsArguments.eq_nil ht
    subst hnone
    exact (List.append_eq_nil_iff.1 hparagraph).1
  have hfound := hd.content
  rw [Shape.contentAfter_of_nil hbefore, htail] at hfound
  dsimp only at hfound
  by_cases hne : content = []
  · rw [contentBlock, if_pos hne]
    rfl
  · have hblock : contentBlock content = [] :: content := if_neg hne
    rw [hblock] at hfound ⊢
    rw [List.map_cons, List.drop_succ_cons, List.drop_zero, dropWhile_isBlank_eq_self] at hfound
    · rw [List.map_cons, hnil, ← hfound]
    · intro l hl
      rw [List.head?_map] at hl
      obtain ⟨m, hm, rfl⟩ := Option.map_eq_some_iff.1 hl
      rw [hblank m, h.content_head m hm]
      rw [linesBelow, hblock]
      simp [List.mem_of_head? hm]

end Moved

theorem noMargin_of_divides (h : shape.Fits arguments options content)
    (hd : shape.Divides (writtenBlock arguments options content) offset before fields tail start
      ⟨arguments, options, content, k⟩) (hopt : options.entries = []) :
    margin (laterLines (join [' '] arguments) ++ content) = 0 := by
  rw [← margin_linesBelow_of_no_options hopt]
  obtain ⟨f, hf, hblank, hnil⟩ := exists_dropMargin_eq_map (linesBelow arguments options content)
  obtain ⟨hparagraph, htail⟩ := append_of_divides h hd hopt hf hblank
  have hargs := map_laterLines_of_divides h hd hparagraph
  have hcontent := map_contentBlock_of_divides h hd hparagraph htail hnil hblank
  -- Lines that are not moved when they are taken out of their margin have none.
  have hself : dropMargin (linesBelow arguments options content) =
      linesBelow arguments options content := by
    rw [hf, linesBelow, hopt, List.flatMap_nil, List.append_nil, List.map_append, hargs, hcontent]
  rw [← hself, margin_dropMargin]

end Necessary

/-- **Parts that are found again are stable.** -/
theorem stable_of_divides (h : shape.Fits arguments options content) {offset : Nat}
    {before fields tail : List Text} {start k : Nat}
    (hd : shape.Divides (writtenBlock arguments options content) offset before fields tail start
      ⟨arguments, options, content, k⟩) : Stable arguments options content :=
  ⟨firstLine_plain_of_divides h hd, valuesAligned_of_divides h hd, noMargin_of_divides h hd⟩

/-- **Dividing the written block gives back the parts, exactly if they are stable.** -/
theorem divide_written_iff (h : shape.Fits arguments options content) (offset : Nat) :
    (∃ k, shape.withAnyOption.divide (writtenBlock arguments options content) offset =
      .ok ⟨arguments, options, content, k⟩) ↔ Stable arguments options content := by
  constructor
  · rintro ⟨k, hk⟩
    obtain ⟨before, fields, tail, start, hd⟩ := Shape.divide_withAnyOption_eq_ok_iff.1 hk
    exact stable_of_divides h hd
  · intro hstable
    obtain ⟨start, k, hd⟩ := divides_writtenBlock h hstable offset
    exact ⟨k, Shape.divide_withAnyOption_eq_ok_iff.2 ⟨_, _, _, _, hd⟩⟩

end Written

end StructuredText

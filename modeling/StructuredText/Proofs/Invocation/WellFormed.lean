import StructuredText.Proofs.Invocation.Arguments
import StructuredText.Proofs.Invocation.Optionless
import StructuredText.Proofs.Shape.StandardForm

/-!
# What a directive is handed

A directive is run on the parts of its block only if they can be told apart, and then they are of the
form that its shape asks for (`Shape.Admits`). Which options the shape accepts decides where the lines
of the parts come from, and nothing else: `Shape.Sources` has what both ways to divide a block have in
common. What the parts are follows from it (`Shape.Sources.admits`), and that no argument ends in
white space if no line of the block does (`Shape.Sources.trimmed_arguments`).
-/

namespace StructuredText

open Text

namespace Shape

/-- The parts that a directive with this shape can be run on. -/
structure Admits (shape : Shape) (arguments : List Text) (options : Options)
    (content : List Text) : Prop where
  /-- As many arguments as the shape takes, each of them a word; where the shape says so, the last of
  as many as there can be is any text that begins with a word. -/
  arguments : shape.AllowsArguments arguments
  /-- No option is given twice. -/
  distinct : options.names.Nodup
  noOptions : shape.options = .none → options.entries = []
  /-- The value of a declared option is in the standard form of its kind. -/
  converted : ∀ declared, shape.options = .declared declared → ∀ e ∈ options.entries,
    ∃ kind value, OptionSpec.kind? e.1 declared = some kind ∧ kind.convert value = .ok e.2
  noContent : shape.content = false → content = []
  content_head : ∀ l, content.head? = some l → isBlank l = false
  content_last : ∀ l, content.getLast? = some l → isBlank l = false
  content_blank : ∀ l ∈ content, isBlank l = true → l = []

/-- Where the parts of a block come from, whichever options the shape accepts: `before` has the lines
of the arguments, `fields` those of the options, and `content` the lines of the content with the blank
lines at its front. -/
structure Sources (shape : Shape) (lines : List Text) (parts : Parts)
    (before fields content : List Text) : Prop where
  mem_before : ∀ l ∈ before, l ∈ lines ∧ isBlank l = false
  mem_content : ∀ l ∈ content, l ∈ lines
  /-- A blank first line of the block is no part of the content. -/
  mem_tail : ∀ l ∈ content, isBlank l = true → l ∈ lines.tail
  content_end : EndsFilled content
  fields_eq : shape.options = .none → fields = []
  arguments : shape.argumentsIn before = .ok parts.arguments
  options : readFields shape.options ∅ fields = .ok parts.options
  content_eq : parts.content = content.dropWhile isBlank
  permitted : parts.content ≠ [] → shape.content = true

variable {shape : Shape}

/-- The lines of the first paragraph are filled lines of the block. -/
theorem of_mem_paragraph {lines : List Text} {offset : Nat} {l : Text}
    (h : l ∈ (blockBody lines offset).1.takeWhile fun l => !isBlank l) :
    l ∈ lines ∧ isBlank l = false := by
  have hfilled := List.of_mem_takeWhile h
  exact ⟨mem_of_mem_blockBody ((List.takeWhile_sublist _).subset h), by simpa using hfilled⟩

/-- A blank line of the body is not the first line of the block. -/
theorem mem_tail_of_mem_blockBody {lines : List Text} {offset : Nat} {l : Text}
    (h : l ∈ (blockBody lines offset).1) (hblank : isBlank l = true) : l ∈ lines.tail := by
  unfold blockBody at h
  split at h
  · cases h
  · next first below hd =>
    obtain ⟨blanks, hlines⟩ := prefix_dropTrailingBlanks lines
    rw [hd, List.cons_append] at hlines
    have htail : below ⊆ lines.tail := by
      rw [← hlines, List.tail_cons]
      exact List.subset_append_left _ _
    split at h
    · exact htail h
    · next hfirst =>
      rcases List.mem_cons.1 h with rfl | h
      · exact absurd hblank hfirst
      · exact htail h

theorem endsFilled_blockBody (lines : List Text) (offset : Nat) :
    EndsFilled (blockBody lines offset).1 := by
  cases h : blockBody lines offset with
  | mk body start =>
    obtain ⟨-, -, -, hend⟩ := blockBody_spec h
    exact hend

/-- **Every division of a block takes the parts from such lines.** -/
theorem exists_sources_of_divide {lines : List Text} {offset : Nat} {parts : Parts}
    (h : shape.divide lines offset = .ok parts) :
    ∃ before fields content, shape.Sources lines parts before fields content := by
  have hend := endsFilled_blockBody lines offset
  have hlines : ∀ l ∈ (blockBody lines offset).1,
      l ∈ lines ∧ (isBlank l = true → l ∈ lines.tail) := fun _ hl =>
    ⟨mem_of_mem_blockBody hl, mem_tail_of_mem_blockBody hl⟩
  cases haccepts : shape.options.acceptsOptions with
  | true =>
    rw [divide_of_acceptsOptions haccepts] at h
    obtain ⟨o, hoptions, h⟩ := Except.bind_eq_ok_iff.1 h
    obtain ⟨arguments, harguments, h⟩ := Except.bind_eq_ok_iff.1 h
    obtain ⟨rfl, hpermitted⟩ := collect_eq_ok_iff.1 h
    have hbefore : ∀ l ∈ beforeFields (blockBody lines offset).1, l ∈ lines ∧ isBlank l = false :=
      fun l hl => of_mem_paragraph ((List.takeWhile_sublist _).subset hl)
    have htail : EndsFilled (afterParagraph (blockBody lines offset).1) :=
      hend.of_suffix (List.dropWhile_suffix _)
    have hcontent : ∀ l ∈ (shape.contentAfter (beforeFields (blockBody lines offset).1)
        (fromFields (blockBody lines offset).1) (afterParagraph (blockBody lines offset).1)
        (blockBody lines offset).2).1, l ∈ lines ∧ (isBlank l = true → l ∈ lines.tail) := by
      intro l hl
      refine hlines l ?_
      rw [← append_runs (blockBody lines offset).1]
      exact mem_of_mem_contentAfter hl
    refine ⟨_, _, _, hbefore, fun l hl => (hcontent l hl).1, fun l hl => (hcontent l hl).2,
      endsFilled_contentAfter (fun l hl => (hbefore l hl).2) htail, fun hnone => ?_, harguments,
      hoptions, rfl, hpermitted⟩
    rw [hnone] at haccepts
    cases haccepts
  | false =>
    have hnone : shape.options = .none := by
      cases ho : shape.options with
      | none => rfl
      | any => rw [ho] at haccepts; cases haccepts
      | declared declared => rw [ho] at haccepts; cases haccepts
    rw [divide_of_none hnone] at h
    obtain ⟨arguments, harguments, h⟩ := Except.bind_eq_ok_iff.1 h
    obtain ⟨rfl, hpermitted⟩ := collect_eq_ok_iff.1 h
    have hparagraph : ∀ l ∈ beforeFields (blockBody lines offset).1 ++
        fromFields (blockBody lines offset).1, l ∈ lines ∧ isBlank l = false := fun l hl =>
      of_mem_paragraph (by rwa [← beforeFields_append_fromFields])
    have hwhole := wholeContent_suffix shape (blockBody lines offset).1 (blockBody lines offset).2
    exact ⟨_, [], _, hparagraph, fun l hl => (hlines l (hwhole.subset hl)).1,
      fun l hl => (hlines l (hwhole.subset hl)).2, hend.of_suffix hwhole, fun _ => rfl, harguments,
      readFields_nil _ _, rfl, hpermitted⟩

end Shape

/-! ## Options in standard form -/

/-- **An option that is read has a value in standard form**, unless it was there before. -/
theorem convert_of_readFields {spec : OptionSpec} {acc o : Options} {lines : List Text}
    (h : readFields spec acc lines = .ok o) :
    ∀ e ∈ o.entries, e ∈ acc.entries ∨ ∃ value, spec.convert e.1 value = .ok e.2 := by
  replace h := fieldsRead_of_readFields h
  induction h with
  | nil acc => exact fun e he => Or.inl he
  | field hm hvalue hins _ ih =>
    intro e he
    rcases ih e he with hacc | hconvert
    · rw [Options.entries_of_insert? hins, List.mem_append, List.mem_singleton] at hacc
      rcases hacc with hacc | rfl
      · exact Or.inl hacc
      · exact Or.inr ⟨_, hvalue⟩
    · exact Or.inr hconvert

/-! ## The parts -/

section Sources

variable {shape : Shape} {lines before fields content : List Text} {parts : Parts}
  (h : shape.Sources lines parts before fields content)

include h

/-- **The parts of a block are of the form that the shape asks for**, if the blank lines below the
marker are empty. -/
theorem Shape.Sources.admits (hlines : ∀ l ∈ lines.tail, isBlank l = true → l = []) :
    shape.Admits parts.arguments parts.options parts.content where
  arguments := allowsArguments_of_argumentsIn h.arguments
  distinct := parts.options.distinct
  noOptions hnone := by
    have hoptions := h.options
    rw [h.fields_eq hnone, readFields_nil, Except.ok.injEq] at hoptions
    rw [← hoptions]
    rfl
  converted declared hdeclared e he := by
    have hoptions := h.options
    rw [hdeclared] at hoptions
    rcases convert_of_readFields hoptions e he with hnone | ⟨value, hvalue⟩
    · cases hnone
    · obtain ⟨kind, hkind, hconvert⟩ := OptionSpec.convert_declared_eq_ok_iff.1 hvalue
      exact ⟨kind, value, hkind, hconvert⟩
  noContent hno := by
    refine Decidable.byContradiction fun hne => ?_
    rw [h.permitted hne] at hno
    cases hno
  content_head l hl := by
    rw [h.content_eq] at hl
    exact List.head_dropWhile_stop hl
  content_last := by
    rw [h.content_eq]
    exact h.content_end.of_suffix (List.dropWhile_suffix _)
  content_blank l hl hb := by
    rw [h.content_eq] at hl
    exact hlines l (h.mem_tail l ((List.dropWhile_sublist _).subset hl) hb) hb

/-- **No argument ends in white space** if no line of the block does. -/
theorem Shape.Sources.trimmed_arguments (hlines : ∀ l ∈ lines, Trimmed l) :
    ∀ a ∈ parts.arguments, Trimmed a :=
  trimmed_of_argumentsIn
    (fun l hl => ⟨hlines l (h.mem_before l hl).1, (h.mem_before l hl).2⟩) h.arguments

/-- The lines of the content are lines of the block. -/
theorem Shape.Sources.mem_lines {l : Text} (hl : l ∈ parts.content) : l ∈ lines := by
  rw [h.content_eq] at hl
  exact h.mem_content l ((List.dropWhile_sublist _).subset hl)

end Sources

end StructuredText

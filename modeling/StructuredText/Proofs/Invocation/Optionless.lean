import Mathlib.Data.List.Permutation
import StructuredText.Grammar.Directives
import StructuredText.Proofs.Invocation.Division

/-!
# Opening a shape that takes no options

A shape without options takes lines that look like fields for text. Opened to any option, it reads
the first paragraph from its first field on as options, which is not always possible: the lines may
be no option block, and the lines that are left may hold too few arguments.
`Shape.exists_divide_withAnyOption_iff` says that nothing else goes wrong.

Structure: which lines are an option block (`exists_readFields_any_iff`), when arguments and content
are accepted (`exists_argumentsIn_iff`, `exists_collect_iff`), and how a shape without options
divides a block (`divide_of_none`).
-/

namespace StructuredText

open Text

/-! ## Option blocks -/

/-- The names of the fields among the lines. -/
def fieldNames (lines : List Text) : List Text := (lines.filterMap fieldMarker?).map Prod.fst

/-- Lines that can be read as options: a line that does not continue another is a field, and no name
is given twice. -/
structure IsOptionBlock (lines : List Text) : Prop where
  fields : ∀ l ∈ lines, continuesBlock l = false → isField l = true
  distinct : (fieldNames lines).Nodup

/-- A line that continues another one is no field. -/
theorem fieldMarker?_of_continuesBlock {l : Text} (h : continuesBlock l = true) :
    fieldMarker? l = none := by
  refine fieldMarker?_of_head_ne fun hhead => ?_
  obtain ⟨body, rfl⟩ := List.head?_eq_some_iff.1 hhead
  have hb : isBlank (':' :: body) = false := by simp [isBlank, isWhite_colon]
  have hi : indentation (':' :: body) = 0 := by simp [indentation]
  rw [continuesBlock, hb, hi] at h
  cases h

theorem fieldNames_cons {line name first : Text} (h : fieldMarker? line = some (name, first))
    (below : List Text) :
    fieldNames (line :: below) = name :: fieldNames (below.dropWhile continuesBlock) := by
  have hnone : (below.takeWhile continuesBlock).filterMap fieldMarker? = [] :=
    List.filterMap_eq_nil_iff.2 fun l hl =>
      fieldMarker?_of_continuesBlock (List.of_mem_takeWhile hl)
  rw [fieldNames, List.filterMap_cons_some h, List.map_cons, fieldNames]
  conv_lhs => rw [← List.takeWhile_append_dropWhile (p := continuesBlock) (l := below)]
  rw [List.filterMap_append, hnone, List.nil_append]

/-- Behind a field, the lines of its value are not asked to be fields. -/
theorem forall_isField_cons {line : Text} {field : Text × Text}
    (h : fieldMarker? line = some field) (below : List Text) :
    (∀ l ∈ line :: below, continuesBlock l = false → isField l = true) ↔
      ∀ l ∈ below.dropWhile continuesBlock, continuesBlock l = false → isField l = true := by
  constructor
  · exact fun hall l hl =>
      hall l (List.mem_cons_of_mem _ ((List.dropWhile_sublist _).subset hl))
  · intro hall l hl hstop
    rcases List.mem_cons.1 hl with rfl | hl
    · exact isField_of_fieldMarker? h
    · rw [← List.takeWhile_append_dropWhile (p := continuesBlock) (l := below)] at hl
      rcases List.mem_append.1 hl with hl | hl
      · rw [List.of_mem_takeWhile hl] at hstop
        cases hstop
      · exact hall l hl hstop

/-- **Which lines can be read as options**, after others whose names are taken. -/
theorem exists_readFields_any_iff (acc : Options) {lines : List Text}
    (hstart : ∀ l, lines.head? = some l → continuesBlock l = false) :
    (∃ o, readFields .any acc lines = .ok o) ↔
      (∀ l ∈ lines, continuesBlock l = false → isField l = true) ∧
        (acc.names ++ fieldNames lines).Nodup := by
  induction lines using fields_induction generalizing acc with
  | nil =>
    have hnames : acc.names ++ fieldNames [] = acc.names := List.append_nil _
    rw [readFields_nil, hnames]
    constructor
    · exact fun _ => ⟨fun l hl => absurd hl List.not_mem_nil, acc.distinct⟩
    · exact fun _ => ⟨acc, rfl⟩
  | notField line below hm =>
    rw [readFields_cons_of_none _ hm]
    constructor
    · rintro ⟨o, ho⟩
      cases ho
    · rintro ⟨hfields, -⟩
      have hfield := hfields line (List.mem_cons_self ..) (hstart line rfl)
      rw [isField, hm] at hfield
      cases hfield
  | field line below name first hm ih =>
    rw [readFields_any_cons hm, fieldNames_cons hm, forall_isField_cons hm]
    cases hins : acc.insert? name (fieldValue first (below.takeWhile continuesBlock)) with
    | none =>
      -- The name is taken, by a field before this one or from the start.
      constructor
      · rintro ⟨o, ho⟩
        cases ho
      · rintro ⟨-, hdistinct⟩
        have hmem := (acc.insert?_eq_none_iff name _).1 hins
        obtain ⟨-, -, hapart⟩ := List.nodup_append.1 hdistinct
        exact absurd rfl (hapart name hmem name (List.mem_cons_self ..))
    | some acc' =>
      have hnames : acc'.names = acc.names ++ [name] := by
        rw [Options.names, Options.entries_of_insert? hins, List.map_append]
        rfl
      have hrest := ih acc' fun l hl => List.head_dropWhile_stop hl
      rw [hnames, List.append_assoc] at hrest
      exact hrest

namespace Shape

/-! ## Arguments and content -/

theorem exists_argumentsIn_iff (shape : Shape) (lines : List Text) :
    (∃ arguments, shape.argumentsIn lines = .ok arguments) ↔
      (shape.takesArguments = true → shape.required ≤ (words (ofLines lines)).length ∧
        ((words (ofLines lines)).length ≤ shape.maxArguments ∨ shape.finalWhitespace = true)) := by
  unfold argumentsIn
  split
  · next htakes =>
    unfold readArguments
    dsimp only
    split
    · next hfew =>
      constructor
      · rintro ⟨arguments, h⟩
        cases h
      · exact fun h => absurd (h htakes).1 (Nat.not_le_of_lt hfew)
    · next henough =>
      split
      · next hmany =>
        split
        · next hfinal =>
          exact ⟨fun _ _ => ⟨Nat.le_of_not_lt henough, Or.inr hfinal⟩, fun _ => ⟨_, rfl⟩⟩
        · next hfinal =>
          constructor
          · rintro ⟨arguments, h⟩
            cases h
          · intro h
            rcases (h htakes).2 with hle | hfinal'
            · exact absurd hle (Nat.not_le_of_lt hmany)
            · exact absurd hfinal' hfinal
      · next hfew =>
        exact ⟨fun _ _ => ⟨Nat.le_of_not_lt henough, Or.inl (Nat.le_of_not_lt hfew)⟩,
          fun _ => ⟨_, rfl⟩⟩
  · next htakes => exact ⟨fun _ h => absurd h htakes, fun _ => ⟨[], rfl⟩⟩

theorem exists_collect_iff (shape : Shape) (content : List Text × Nat) (options : Options)
    (arguments : List Text) :
    (∃ parts, shape.collect content options arguments = .ok parts) ↔
      ((∃ l ∈ content.1, isBlank l = false) → shape.content = true) := by
  have hfilled : content.1.dropWhile isBlank ≠ [] ↔ ∃ l ∈ content.1, isBlank l = false := by
    simp only [ne_eq, List.dropWhile_eq_nil_iff, not_forall, Bool.not_eq_true, exists_prop]
  constructor
  · rintro ⟨parts, h⟩ hc
    obtain ⟨rfl, hpermitted⟩ := collect_eq_ok_iff.1 h
    exact hpermitted (hfilled.2 hc)
  · intro hpermitted
    exact ⟨_, collect_eq_ok_iff.2 ⟨rfl, fun hne => hpermitted (hfilled.1 hne)⟩⟩

/-! ## Shapes without options -/

/-- The lines from the first field on do not begin with a line that continues another. -/
theorem continuesBlock_head (body : List Text) :
    ∀ l, (fromFields body).head? = some l → continuesBlock l = false := by
  intro l hl
  have hfield : isField l = true := by simpa using List.head_dropWhile_stop hl
  cases hc : continuesBlock l with
  | false => rfl
  | true =>
    rw [isField, fieldMarker?_of_continuesBlock hc] at hfield
    cases hfield

/-- The content where no options are accepted, with the blank lines at its front and the index of the
first of these lines: what follows the paragraph of the arguments, or the whole body. -/
def wholeContent (shape : Shape) (body : List Text) (start : Nat) : List Text × Nat :=
  if shape.takesArguments then
    ((afterParagraph body).drop 1, start + (beforeFields body ++ fromFields body).length + 1)
  else (body, start)

theorem wholeContent_suffix (shape : Shape) (body : List Text) (start : Nat) :
    (shape.wholeContent body start).1 <:+ body := by
  unfold wholeContent
  split
  · exact (List.drop_suffix 1 _).trans (List.dropWhile_suffix _)
  · exact List.suffix_refl body

/-- What is content where any option is accepted is so where none is. -/
theorem mem_wholeContent {shape : Shape} {body : List Text} {start : Nat} {l : Text}
    (h : l ∈ (shape.contentAfter (beforeFields body) (fromFields body) (afterParagraph body)
      start).1) : l ∈ (shape.wholeContent body start).1 := by
  cases ht : shape.takesArguments with
  | true =>
    rw [contentAfter, ht, if_neg (by simp)] at h
    rw [wholeContent, ht, if_pos rfl]
    exact h
  | false =>
    rw [wholeContent, ht, if_neg Bool.false_ne_true]
    have hmem := mem_of_mem_contentAfter h
    rwa [append_runs] at hmem

/-- Where no options are accepted, all of the first paragraph holds the arguments. -/
theorem divide_of_none {shape : Shape} (h : shape.options = .none) (lines : List Text)
    (offset : Nat) :
    shape.divide lines offset =
      let body := (blockBody lines offset).1
      (shape.argumentsIn (beforeFields body ++ fromFields body)).bind fun arguments =>
        shape.collect (shape.wholeContent body (blockBody lines offset).2) ∅ arguments := by
  have haccepts : shape.options.acceptsOptions = false := by rw [h]; rfl
  unfold divide
  simp only [haccepts, readFields_nil, reduceIte, Bool.not_false, Bool.and_true,
    Bool.false_eq_true]
  unfold wholeContent afterParagraph argumentsIn collect
  cases blockBody lines offset with
  | mk body start =>
    dsimp only
    rw [beforeFields_append_fromFields]
    cases ht : shape.takesArguments with
    | true =>
      cases shape.readArguments _ with
      | error e => rfl
      | ok arguments =>
        dsimp only [bind, Except.bind, pure, Except.pure, throw, throwThe, MonadExceptOf.throw]
        rfl
    | false => rfl

/-- **What goes wrong where a shape without options is opened to any option.** A block that it
accepts stays accepted exactly if the lines from the first field on are an option block and, where
there are arguments, the lines before it hold as many as are required. -/
theorem exists_divide_withAnyOption_iff {shape : Shape} (hnone : shape.options = .none)
    {lines : List Text} {offset : Nat} {parts : Parts}
    (h : shape.divide lines offset = .ok parts) :
    (∃ relaxed, shape.withAnyOption.divide lines offset = .ok relaxed) ↔
      IsOptionBlock (fromFields (blockBody lines offset).1) ∧
        (shape.takesArguments = true →
          shape.required ≤
            (words (ofLines (beforeFields (blockBody lines offset).1))).length) := by
  rw [divide_of_none hnone] at h
  rw [divide_withAnyOption]
  dsimp only at h ⊢
  generalize (blockBody lines offset).1 = body at h ⊢
  generalize (blockBody lines offset).2 = start at h ⊢
  obtain ⟨arguments, harguments, hcollect⟩ := Except.bind_eq_ok_iff.1 h
  constructor
  · rintro ⟨relaxed, hrelaxed⟩
    obtain ⟨o, ho, hrelaxed⟩ := Except.bind_eq_ok_iff.1 hrelaxed
    obtain ⟨as, has, -⟩ := Except.bind_eq_ok_iff.1 hrelaxed
    obtain ⟨hfields, hdistinct⟩ := (exists_readFields_any_iff ∅ (continuesBlock_head body)).1 ⟨o, ho⟩
    exact ⟨⟨hfields, hdistinct⟩, fun htakes =>
      ((shape.exists_argumentsIn_iff _).1 ⟨as, has⟩ htakes).1⟩
  · rintro ⟨⟨hfields, hdistinct⟩, henough⟩
    obtain ⟨o, ho⟩ := (exists_readFields_any_iff ∅ (continuesBlock_head body)).2
      ⟨hfields, hdistinct⟩
    -- The lines before the fields hold no more arguments than the whole paragraph does.
    have hfewer : (words (ofLines (beforeFields body))).length ≤
        (words (ofLines (beforeFields body ++ fromFields body))).length := by
      rw [words_ofLines, words_ofLines, List.flatMap_append, List.length_append]
      exact Nat.le_add_right _ _
    obtain ⟨as, has⟩ := (shape.exists_argumentsIn_iff (beforeFields body)).2 fun htakes =>
      ⟨henough htakes, ((shape.exists_argumentsIn_iff _).1 ⟨_, harguments⟩ htakes).2.imp
        hfewer.trans id⟩
    have hcontent := (shape.exists_collect_iff _ _ _).1 ⟨_, hcollect⟩
    obtain ⟨relaxed, hrelaxed⟩ := (shape.exists_collect_iff (shape.contentAfter (beforeFields body)
      (fromFields body) (afterParagraph body) start) o as).2
        fun ⟨l, hl, hfilled⟩ => hcontent ⟨l, mem_wholeContent hl, hfilled⟩
    exact ⟨relaxed, Except.bind_eq_ok_iff.2 ⟨o, ho, Except.bind_eq_ok_iff.2 ⟨as, has, hrelaxed⟩⟩⟩

/-- Two fields are options where they were content; one field is no argument any more. -/
theorem exists_divide_withAnyOption_fields :
    (Shape.contentOnly.options = .none ∧
      (∃ parts, Shape.contentOnly.divide [":a: x", "  y", ":b:"] 0 = .ok parts) ∧
      ∃ relaxed, Shape.contentOnly.withAnyOption.divide [":a: x", "  y", ":b:"] 0 = .ok relaxed) ∧
      Shape.oneLine.options = .none ∧ (∃ parts, Shape.oneLine.divide [":a:"] 0 = .ok parts) ∧
      ¬∃ relaxed, Shape.oneLine.withAnyOption.divide [":a:"] 0 = .ok relaxed := by
  have hcontent : Shape.contentOnly.divide [":a: x", "  y", ":b:"] 0 =
      .ok ⟨[], ∅, [":a: x", "  y", ":b:"], 0⟩ := by cbv
  have hline : Shape.oneLine.divide [":a:"] 0 = .ok ⟨[":a:"], ∅, [], 2⟩ := by cbv
  refine ⟨⟨rfl, ⟨_, hcontent⟩, ?_⟩, rfl, ⟨_, hline⟩, fun hrelaxed => ?_⟩
  · refine (exists_divide_withAnyOption_iff rfl hcontent).2 ⟨⟨?_, ?_⟩, fun htakes => ?_⟩
    · decide
    · decide
    · cases htakes
  · obtain ⟨-, henough⟩ := (exists_divide_withAnyOption_iff rfl hline).1 hrelaxed
    exact absurd (henough rfl) (by cbv)

/-- **A block that a shape without options accepts can be refused by the open shape.** Content that
begins with a field is taken for an option block, of which its second line is no part. -/
theorem not_exists_divide_withAnyOption :
    ¬∀ (shape : Shape) (lines : List Text) (offset : Nat) (parts : Parts),
      shape.options = .none → shape.divide lines offset = .ok parts →
        ∃ relaxed, shape.withAnyOption.divide lines offset = .ok relaxed := by
  intro hall
  have haccepted : Shape.contentOnly.divide [":a: x", "y"] 0 =
      .ok ⟨[], ∅, [":a: x", "y"], 0⟩ := by cbv
  have hrefused : Shape.contentOnly.withAnyOption.divide [":a: x", "y"] 0 =
      .error .notAField := by cbv
  obtain ⟨relaxed, hrelaxed⟩ := hall _ _ _ _ rfl haccepted
  rw [hrefused] at hrelaxed
  cases hrelaxed

end Shape

end StructuredText

import StructuredText.Proofs.Except
import StructuredText.Proofs.Invocation.Options

/-!
# How a block is divided

For a shape that accepts any option, `Divides` says what a division of a block is: the lines of its
first paragraph before and from the first field on, the lines after that paragraph, and what each of
them gives. `divide_withAnyOption_eq_ok_iff` is the one place where the division itself is opened;
everything later is read off `Divides`.
-/

namespace StructuredText

open Text

/-- What can be wrong with a block whose shape accepts any option. No option is at fault for its name
or its value. -/
inductive BlockError.OfLayout : BlockError → Prop where
  | tooFewArguments (required supplied : Nat) : OfLayout (.tooFewArguments required supplied)
  | tooManyArguments (maximum supplied : Nat) : OfLayout (.tooManyArguments maximum supplied)
  | notAField : OfLayout .notAField
  | duplicateOption (name : Text) : OfLayout (.duplicateOption name)
  | contentNotPermitted : OfLayout .contentNotPermitted

namespace Shape

/-- The arguments that lines give: none, where the shape takes none. -/
def argumentsIn (shape : Shape) (lines : List Text) : Except BlockError (List Text) :=
  if shape.takesArguments then shape.readArguments lines else .ok []

/-- The content with the blank lines at its front, and the index of the first of these lines. -/
def contentAfter (shape : Shape) (before fields tail : List Text) (start : Nat) :
    List Text × Nat :=
  if !shape.takesArguments && before ≠ [] then (before ++ tail, start)
  else (tail.drop 1, start + (before.length + fields.length) + 1)

/-- A division of a block: the first paragraph of its body consists of the lines `before` the first
field and the lines of the `fields`; `tail` is the rest, and `start` is the index of the body. -/
structure Divides (shape : Shape) (lines : List Text) (offset : Nat)
    (before fields tail : List Text) (start : Nat) (parts : Parts) : Prop where
  body : blockBody lines offset = (before ++ fields ++ tail, start)
  before_plain : ∀ l ∈ before, isBlank l = false ∧ isField l = false
  fields_filled : ∀ l ∈ fields, isBlank l = false
  fields_head : ∀ l, fields.head? = some l → isField l = true
  tail_head : ∀ l, tail.head? = some l → isBlank l = true
  options : readFields .any ∅ fields = .ok parts.options
  arguments : shape.argumentsIn before = .ok parts.arguments
  content : parts.content = (shape.contentAfter before fields tail start).1.dropWhile isBlank
  contentOffset : parts.contentOffset = (shape.contentAfter before fields tail start).2 +
    ((shape.contentAfter before fields tail start).1.takeWhile isBlank).length
  permitted : parts.content ≠ [] → shape.content = true

/-- The lines of a block before the first field of its first paragraph. -/
def beforeFields (body : List Text) : List Text :=
  (body.takeWhile fun l => !isBlank l).takeWhile fun l => !isField l

/-- The lines of a block's first paragraph from its first field on. -/
def fromFields (body : List Text) : List Text :=
  (body.takeWhile fun l => !isBlank l).dropWhile fun l => !isField l

/-- The lines of a block after its first paragraph. -/
def afterParagraph (body : List Text) : List Text := body.dropWhile fun l => !isBlank l

/-- The parts of a block whose options and arguments are read, if its content is permitted. -/
def collect (shape : Shape) (content : List Text × Nat) (options : Options)
    (arguments : List Text) : Except BlockError Parts :=
  if content.1.dropWhile isBlank ≠ [] ∧ !shape.content then .error .contentNotPermitted
  else .ok
    { arguments
      options
      content := content.1.dropWhile isBlank
      contentOffset := content.2 + (content.1.takeWhile isBlank).length }

theorem collect_eq_ok_iff {shape : Shape} {content : List Text × Nat} {options : Options}
    {arguments : List Text} {parts : Parts} :
    shape.collect content options arguments = .ok parts ↔
      parts = ⟨arguments, options, content.1.dropWhile isBlank,
        content.2 + (content.1.takeWhile isBlank).length⟩ ∧
          (parts.content ≠ [] → shape.content = true) := by
  unfold collect
  split
  · next hrefused =>
    constructor
    · intro h
      cases h
    · rintro ⟨rfl, hpermitted⟩
      rw [hpermitted hrefused.1] at hrefused
      exact absurd hrefused.2 Bool.false_ne_true
  · next hno =>
    constructor
    · intro h
      cases h
      exact ⟨rfl, fun hne => by simpa [hne] using hno⟩
    · rintro ⟨rfl, -⟩
      rfl

/-- The division, where options are accepted, as a computation on its three runs of lines. -/
theorem divide_of_acceptsOptions {shape : Shape} (h : shape.options.acceptsOptions = true)
    (lines : List Text) (offset : Nat) :
    shape.divide lines offset =
      let body := (blockBody lines offset).1
      let content := shape.contentAfter (beforeFields body) (fromFields body)
        (afterParagraph body) (blockBody lines offset).2
      (readFields shape.options ∅ (fromFields body)).bind fun options =>
        (shape.argumentsIn (beforeFields body)).bind fun arguments =>
          shape.collect content options arguments := by
  unfold divide
  have hlen : ∀ head : List Text,
      (head.takeWhile fun l => !isField l).length + (head.dropWhile fun l => !isField l).length =
        head.length := by
    intro head
    rw [← List.length_append, List.takeWhile_append_dropWhile]
  simp only [h, reduceIte, Bool.not_true, Bool.and_false, Bool.false_eq_true]
  unfold beforeFields fromFields afterParagraph argumentsIn contentAfter collect
  -- The head of the body is made up of the lines before the first field and those from it on.
  cases blockBody lines offset with
  | mk body start =>
    dsimp only
    rw [hlen]
    generalize (body.takeWhile fun l => !isBlank l).takeWhile (fun l => !isField l) = before
    generalize (if (!shape.takesArguments && decide (before ≠ [])) = true then
        (before ++ body.dropWhile fun l => !isBlank l, start)
      else ((body.dropWhile fun l => !isBlank l).drop 1,
        start + (body.takeWhile fun l => !isBlank l).length + 1)) = content
    -- Both sides read the options and the arguments, and look at the content last.
    cases readFields shape.options ∅ _ with
    | error e => rfl
    | ok o =>
      cases ht : shape.takesArguments with
      | true =>
        cases shape.readArguments _ with
        | error e => rfl
        | ok arguments =>
          dsimp only [bind, Except.bind, pure, Except.pure, throw, throwThe, MonadExceptOf.throw]
          rw [if_pos rfl, if_pos rfl]
      | false =>
        dsimp only [bind, Except.bind, pure, Except.pure, throw, throwThe, MonadExceptOf.throw]
        rw [if_neg Bool.false_ne_true, if_neg Bool.false_ne_true]

theorem divide_withAnyOption (shape : Shape) (lines : List Text) (offset : Nat) :
    shape.withAnyOption.divide lines offset =
      let body := (blockBody lines offset).1
      let content := shape.contentAfter (beforeFields body) (fromFields body)
        (afterParagraph body) (blockBody lines offset).2
      (readFields .any ∅ (fromFields body)).bind fun options =>
        (shape.argumentsIn (beforeFields body)).bind fun arguments =>
          shape.collect content options arguments := by
  have haccepts : shape.withAnyOption.options.acceptsOptions = true := rfl
  exact divide_of_acceptsOptions haccepts lines offset

theorem beforeFields_append_fromFields (body : List Text) :
    beforeFields body ++ fromFields body = body.takeWhile fun l => !isBlank l :=
  List.takeWhile_append_dropWhile

/-- The three runs of lines make up the body. -/
theorem append_runs (body : List Text) :
    beforeFields body ++ fromFields body ++ afterParagraph body = body := by
  rw [beforeFields_append_fromFields, afterParagraph, List.takeWhile_append_dropWhile]

/-- The lines of the content are lines of the body. -/
theorem mem_of_mem_contentAfter {shape : Shape} {before fields tail : List Text} {start : Nat}
    {l : Text} (h : l ∈ (shape.contentAfter before fields tail start).1) :
    l ∈ before ++ fields ++ tail := by
  unfold contentAfter at h
  split at h
  · simp only [List.mem_append] at h ⊢
    tauto
  · exact List.mem_append_right _ ((List.drop_suffix 1 tail).subset h)

/-- The content ends with the block, or with what stands before the options. -/
theorem endsFilled_contentAfter {shape : Shape} {before fields tail : List Text} {start : Nat}
    (hbefore : ∀ l ∈ before, isBlank l = false) (htail : EndsFilled tail) :
    EndsFilled (shape.contentAfter before fields tail start).1 := by
  unfold contentAfter
  split
  · by_cases hnil : tail = []
    · rw [hnil, List.append_nil]
      exact endsFilled_of_all hbefore
    · exact htail.append hnil
  · exact htail.of_suffix (List.drop_suffix 1 tail)

/-- The runs of a body that is made up of such runs. -/
theorem runs_append {before fields tail : List Text}
    (hbefore : ∀ l ∈ before, isBlank l = false ∧ isField l = false)
    (hfields : ∀ l ∈ fields, isBlank l = false)
    (hhead : ∀ l, fields.head? = some l → isField l = true)
    (htail : ∀ l, tail.head? = some l → isBlank l = true) :
    beforeFields (before ++ fields ++ tail) = before ∧
      fromFields (before ++ fields ++ tail) = fields ∧
      afterParagraph (before ++ fields ++ tail) = tail := by
  have hfilled : ∀ l ∈ before ++ fields, (!isBlank l) = true := by
    intro l hl
    rcases List.mem_append.1 hl with hl | hl
    · simp [(hbefore l hl).1]
    · simp [hfields l hl]
  have hstop : ∀ l, tail.head? = some l → (!isBlank l) = false := fun l hl => by simp [htail l hl]
  have hplain : ∀ l ∈ before, (!isField l) = true := fun l hl => by simp [(hbefore l hl).2]
  have hfield : ∀ l, fields.head? = some l → (!isField l) = false := fun l hl => by
    simp [hhead l hl]
  unfold beforeFields fromFields afterParagraph
  rw [List.takeWhile_append_stop hfilled hstop, List.dropWhile_append_stop hfilled hstop]
  exact ⟨List.takeWhile_append_stop hplain hfield, List.dropWhile_append_stop hplain hfield, rfl⟩

/-- **What a division is.** -/
theorem divide_withAnyOption_eq_ok_iff {shape : Shape} {lines : List Text} {offset : Nat}
    {parts : Parts} :
    shape.withAnyOption.divide lines offset = .ok parts ↔
      ∃ before fields tail start, shape.Divides lines offset before fields tail start parts := by
  rw [divide_withAnyOption]
  dsimp only
  constructor
  · intro h
    obtain ⟨o, ho, h⟩ := Except.bind_eq_ok_iff.1 h
    obtain ⟨arguments, ha, h⟩ := Except.bind_eq_ok_iff.1 h
    obtain ⟨rfl, hpermitted⟩ := collect_eq_ok_iff.1 h
    refine ⟨_, _, _, _, ?_, ?_, ?_, ?_, ?_, ho, ha, rfl, rfl, hpermitted⟩
    · rw [append_runs]
    · intro l hl
      have hfield := List.of_mem_takeWhile hl
      have hblank := List.of_mem_takeWhile ((List.takeWhile_sublist _).subset hl)
      exact ⟨by simpa using hblank, by simpa using hfield⟩
    · intro l hl
      have hblank := List.of_mem_takeWhile ((List.dropWhile_sublist _).subset hl)
      simpa using hblank
    · intro l hl
      simpa using List.head_dropWhile_stop hl
    · intro l hl
      simpa using List.head_dropWhile_stop hl
  · rintro ⟨before, fields, tail, start, h⟩
    -- The division finds the runs that the body is made up of.
    obtain ⟨hb, hf, ht⟩ :=
      runs_append h.before_plain h.fields_filled h.fields_head h.tail_head
    rw [h.body]
    dsimp only
    rw [hb, hf, ht, h.options]
    refine Except.bind_eq_ok_iff.2 ⟨_, rfl, ?_⟩
    refine Except.bind_eq_ok_iff.2 ⟨_, h.arguments, ?_⟩
    refine collect_eq_ok_iff.2 ⟨?_, h.permitted⟩
    rw [← h.content, ← h.contentOffset]

/-- What lines can give as arguments. -/
inductive ArgumentsOf (shape : Shape) (lines : List Text) : List Text → Prop where
  | none (ht : shape.takesArguments = false) : ArgumentsOf shape lines []
  /-- Each word is an argument. -/
  | split (ht : shape.takesArguments = true)
      (hrequired : shape.required ≤ (words (ofLines lines)).length)
      (hmax : (words (ofLines lines)).length ≤ shape.maxArguments) :
      ArgumentsOf shape lines (words (ofLines lines))
  /-- There are more words than arguments, and the last argument is all that follows the others. -/
  | remainder (ht : shape.takesArguments = true) (hfinal : shape.finalWhitespace = true)
      (hmore : shape.maxArguments < (words (ofLines lines)).length) :
      ArgumentsOf shape lines (splitWords (shape.maxArguments - 1) (ofLines lines))

theorem argumentsOf_of_argumentsIn {shape : Shape} {lines arguments : List Text}
    (h : shape.argumentsIn lines = .ok arguments) : shape.ArgumentsOf lines arguments := by
  unfold argumentsIn at h
  split at h
  · next ht =>
    simp only [readArguments] at h
    split at h
    · cases h
    · next hrequired =>
      split at h
      · next hmore =>
        split at h
        · next hfinal =>
          cases h
          exact .remainder ht hfinal hmore
        · cases h
      · next hmax =>
        cases h
        exact .split ht (Nat.le_of_not_lt hrequired) (Nat.le_of_not_lt hmax)
  · next ht =>
    cases h
    exact .none (eq_false_of_ne_true ht)

theorem ofLayout_of_argumentsIn {shape : Shape} {lines : List Text} {cause : BlockError}
    (h : shape.argumentsIn lines = .error cause) : cause.OfLayout := by
  unfold argumentsIn at h
  split at h
  · unfold readArguments at h
    dsimp only at h
    split at h
    · cases h
      exact .tooFewArguments _ _
    · split at h
      · split at h
        · cases h
        · cases h
          exact .tooManyArguments _ _
      · cases h
  · cases h

/-- A block that accepts any option can only be laid out wrongly. -/
theorem ofLayout_of_divide {shape : Shape} {lines : List Text} {offset : Nat} {cause : BlockError}
    (h : shape.withAnyOption.divide lines offset = .error cause) : cause.OfLayout := by
  rw [divide_withAnyOption] at h
  rcases Except.bind_eq_error_iff.1 h with hoptions | ⟨o, -, h⟩
  · rcases of_readFields_any_eq_error hoptions with rfl | ⟨name, rfl⟩
    · exact .notAField
    · exact .duplicateOption name
  · rcases Except.bind_eq_error_iff.1 h with harguments | ⟨arguments, -, h⟩
    · exact ofLayout_of_argumentsIn harguments
    · unfold collect at h
      split at h
      · cases h
        exact .contentNotPermitted
      · cases h

/-- The body of a block: its lines without the blank ones at the end, and without a blank first
line. -/
theorem blockBody_spec {lines body : List Text} {offset start : Nat}
    (h : blockBody lines offset = (body, start)) :
    ∃ k, start = offset + k ∧ body = (dropTrailingBlanks lines).drop k ∧ EndsFilled body := by
  have hend := endsFilled_dropTrailingBlanks lines
  unfold blockBody at h
  split at h
  · next hd =>
    cases h
    exact ⟨0, rfl, by rw [hd]; rfl, endsFilled_nil⟩
  · next l ls hd =>
    rw [hd] at hend
    split at h
    · cases h
      exact ⟨1, rfl, by rw [hd]; rfl, hend.of_suffix (List.suffix_cons l _)⟩
    · cases h
      exact ⟨0, rfl, by rw [hd]; rfl, hend⟩

/-- Of the lines of a block, only blank ones are not part of its body or stand in front of it. -/
theorem filter_blockBody (lines : List Text) (offset : Nat) :
    ((blockBody lines offset).1.dropWhile isBlank).filter (fun l => !isBlank l) =
      lines.filter fun l => !isBlank l := by
  have hdrop : ∀ ls : List Text,
      (ls.dropWhile isBlank).filter (fun l => !isBlank l) = ls.filter fun l => !isBlank l := by
    intro ls
    induction ls with
    | nil => rfl
    | cons l ls ih =>
      by_cases hb : isBlank l = true
      · rw [List.dropWhile_cons_of_pos hb, ih, List.filter_cons_of_neg (by simp [hb])]
      · rw [List.dropWhile_cons_of_neg hb]
  obtain ⟨bs, hbs, hlines⟩ := exists_blanks_of_dropTrailingBlanks lines
  have hend : lines.filter (fun l => !isBlank l) =
      (dropTrailingBlanks lines).filter fun l => !isBlank l := by
    have hblank : bs.filter (fun l => !isBlank l) = [] :=
      List.filter_eq_nil_iff.2 fun l hl => by simp [hbs l hl]
    conv_lhs => rw [hlines, List.filter_append, hblank, List.append_nil]
  rw [hdrop, hend]
  unfold blockBody
  split
  · next hnil => rw [hnil]
  · next l ls hcons =>
    rw [hcons]
    split
    · next hb => rw [List.filter_cons_of_neg (by simp [hb])]
    · rfl

theorem mem_of_mem_blockBody {lines : List Text} {offset : Nat} {l : Text}
    (h : l ∈ (blockBody lines offset).1) : l ∈ lines := by
  cases hbody : blockBody lines offset with
  | mk body start =>
    obtain ⟨k, -, rfl, -⟩ := blockBody_spec hbody
    rw [hbody] at h
    exact (prefix_dropTrailingBlanks lines).subset ((List.drop_suffix k _).subset h)

section Divides

variable {shape : Shape}

/-- The content ends with the block, and its lines are lines of the body. -/
theorem Divides.contentAfter_spec {lines : List Text} {offset : Nat}
    {before fields tail : List Text} {start : Nat} {parts : Parts}
    (h : shape.Divides lines offset before fields tail start parts) :
    EndsFilled (shape.contentAfter before fields tail start).1 ∧
      ∀ l ∈ (shape.contentAfter before fields tail start).1, l ∈ before ++ fields ++ tail := by
  obtain ⟨k, -, -, hend⟩ := blockBody_spec h.body
  have htail : EndsFilled tail := hend.of_suffix (List.suffix_append _ _)
  exact ⟨endsFilled_contentAfter (fun l hl => (h.before_plain l hl).1) htail,
    fun l hl => mem_of_mem_contentAfter hl⟩

theorem Divides.mem_lines {lines : List Text} {offset : Nat} {before fields tail : List Text}
    {start : Nat} {parts : Parts}
    (h : shape.Divides lines offset before fields tail start parts) {l : Text}
    (hl : l ∈ before ++ fields ++ tail) : l ∈ lines := by
  have hbody : l ∈ (blockBody lines offset).1 := by rwa [h.body]
  exact mem_of_mem_blockBody hbody

theorem Divides.content_suffix {lines : List Text} {offset : Nat}
    {before fields tail : List Text} {start : Nat} {parts : Parts}
    (h : shape.Divides lines offset before fields tail start parts) :
    parts.content <:+ (shape.contentAfter before fields tail start).1 := by
  rw [h.content]
  exact List.dropWhile_suffix _

/-- The lines of the content are lines of the block. -/
theorem Divides.mem_lines_of_mem_content {lines : List Text} {offset : Nat}
    {before fields tail : List Text} {start : Nat} {parts : Parts}
    (h : shape.Divides lines offset before fields tail start parts) {l : Text}
    (hl : l ∈ parts.content) : l ∈ lines :=
  h.mem_lines (h.contentAfter_spec.2 l (h.content_suffix.subset hl))

end Divides

end Shape

end StructuredText

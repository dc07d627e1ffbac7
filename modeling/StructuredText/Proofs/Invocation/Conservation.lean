import Mathlib.Data.List.Permutation
import StructuredText.Proofs.Invocation.Optionless

/-!
# Dividing a block loses no text

The lines of a block take different ways: to the arguments, to an option, to the content, and a blank
one to nowhere. Word by word nothing gets lost and nothing is said twice: the words of the parts, with
an option written as a field, are the words of the lines (`Shape.words_divide`). They are in the same
order as well, unless what stands before the options of a directive without arguments is part of its
content.

Structure: every step of the division keeps the words of what it takes apart. Trimming and taking lines
out of their margin drop white space (`words_trim`, `flatMap_words_dropMargin`); splitting arguments
cuts at it (`flatMap_words_splitWords`); fields are read one after the other
(`words_of_readFields_any`); the blank lines left out have no words (`flatMap_words_blockBody`,
`flatMap_words_contentAfter`).
-/

namespace StructuredText

namespace Text

/-! ## White space has no words -/

theorem words_append_of_isBlank (t : Text) {u : Text} (h : isBlank u = true) :
    words (t ++ u) = words t := by
  cases u with
  | nil => rw [List.append_nil]
  | cons c u =>
    rw [isBlank, List.all_cons, Bool.and_eq_true] at h
    rw [words_append_white h.1, words_eq_nil_iff.2 h.2, List.append_nil]

theorem words_trim (t : Text) : words (trim t) = words t := by
  obtain ⟨u, hu, hblank⟩ := exists_trimEnd_append (trimStart t)
  rw [trim, ← words_trimStart t, hu, words_append_of_isBlank _ hblank, ← hu]

theorem words_drop {n : Nat} {l : Text} (h : n ≤ indentation l) : words (l.drop n) = words l := by
  have hblank : isBlank (List.replicate n ' ') = true := by simp [isBlank, isWhite_space]
  rw [← words_blank_append hblank (l.drop n), replicate_append_drop h]

theorem flatMap_words_dropMargin (ls : List Text) :
    (dropMargin ls).flatMap words = ls.flatMap words := by
  rw [dropMargin, List.flatMap_map]
  refine List.flatMap_congr fun l hl => ?_
  split
  · next hb => rw [words_nil, words_eq_nil_iff.2 hb]
  · next hb => exact words_drop (margin_le hl (by simpa using hb))

theorem flatMap_words_of_blank {ls : List Text} (h : ∀ l ∈ ls, isBlank l = true) :
    ls.flatMap words = [] :=
  List.flatMap_eq_nil_iff.2 fun l hl => words_eq_nil_iff.2 (h l hl)

theorem flatMap_words_takeWhile_append (p : Text → Bool) (ls : List Text) :
    (ls.takeWhile p).flatMap words ++ (ls.dropWhile p).flatMap words = ls.flatMap words := by
  rw [← List.flatMap_append, List.takeWhile_append_dropWhile]

theorem flatMap_words_dropWhile_isBlank (ls : List Text) :
    (ls.dropWhile isBlank).flatMap words = ls.flatMap words := by
  have hblank : (ls.takeWhile isBlank).flatMap words = [] :=
    flatMap_words_of_blank fun l hl => List.of_mem_takeWhile hl
  rw [← flatMap_words_takeWhile_append isBlank ls, hblank, List.nil_append]

theorem flatMap_words_dropTrailingBlanks (ls : List Text) :
    (dropTrailingBlanks ls).flatMap words = ls.flatMap words := by
  obtain ⟨bs, hblank, hbs⟩ := exists_blanks_of_dropTrailingBlanks ls
  conv_rhs => rw [hbs]
  rw [List.flatMap_append, flatMap_words_of_blank hblank, List.append_nil]

/-! ## Splitting -/

theorem flatMap_words_of_isWord {ws : List Text} (h : ∀ w ∈ ws, IsWord w) :
    ws.flatMap words = ws := by
  induction ws with
  | nil => rfl
  | cons w ws ih =>
    rw [List.flatMap_cons, words_of_isWord (h w (List.mem_cons_self ..)),
      ih fun x hx => h x (List.mem_cons_of_mem _ hx), List.singleton_append]

/-- A limited splitting keeps what it does not split. -/
theorem flatMap_words_splitWords (k : Nat) (t : Text) : (splitWords k t).flatMap words = words t := by
  have hwords : ∀ w ∈ words t, IsWord w := fun w hw => isWord_of_mem_words hw
  rcases Nat.lt_or_ge k (words t).length with hlt | hge
  · obtain ⟨front, rest, -, -, hrest, -, hsplit⟩ := exists_splitWords hlt
    have htake : ∀ w ∈ (words t).take k, IsWord w := fun w hw =>
      hwords w (List.mem_of_mem_take hw)
    rw [hsplit, List.flatMap_append, flatMap_words_of_isWord htake, List.flatMap_singleton, hrest,
      List.take_append_drop]
  · rw [splitWords_of_le hge, flatMap_words_of_isWord hwords]

end Text

open Text

/-! ## Options -/

/-- An option as it is written on one line: a field with its value, if there is one. -/
def optionText (option : Text × Option Text) : Text :=
  match option.2 with
  | none => fieldHead option.1
  | some v => fieldHead option.1 ++ ' ' :: v

theorem words_optionText (name : Text) (value : Option Text) :
    words (optionText (name, value)) = words (fieldHead name) ++ words (value.getD []) := by
  cases value with
  | none => rw [Option.getD_none, words_nil, List.append_nil]; rfl
  | some v => exact words_append_white isWhite_space _ _

theorem words_of_fieldMarker? {line name first : Text}
    (h : fieldMarker? line = some (name, first)) :
    words line = words (fieldHead name) ++ words first := by
  obtain ⟨tail, rfl, -, htail, rfl⟩ := fieldMarker?_eq_some_iff.1 h
  rw [words_trimStart]
  rcases htail with rfl | hspace
  · rw [words_nil, List.append_nil]
    rfl
  · obtain ⟨t, rfl⟩ := List.head?_eq_some_iff.1 hspace
    have hline : ':' :: (name ++ ':' :: ' ' :: t) = fieldHead name ++ ' ' :: t := by
      simp [fieldHead]
    rw [hline, words_append_white isWhite_space, words_cons_white isWhite_space]

theorem words_fieldValue (first : Text) (below : List Text) :
    words ((fieldValue first below).getD []) = words first ++ below.flatMap words := by
  have hvalue : words (trim (ofLines (first :: dropMargin below))) =
      words first ++ below.flatMap words := by
    rw [words_trim, words_ofLines, List.flatMap_cons, flatMap_words_dropMargin]
  rw [← hvalue, fieldValue]
  split
  · next hnil => rw [hnil]; rfl
  · rfl

/-- **Reading fields keeps their words**: the options read are those read before and what the lines
say. -/
theorem words_of_readFields_any {acc o : Options} {lines : List Text}
    (h : readFields .any acc lines = .ok o) :
    (o.entries.map optionText).flatMap words =
      (acc.entries.map optionText).flatMap words ++ lines.flatMap words := by
  replace h := fieldsRead_of_readFields h
  induction h with
  | nil acc => exact (List.append_nil _).symm
  | @field acc acc' o line name first below value hm hvalue hins _ ih =>
    cases hvalue
    rw [ih, Options.entries_of_insert? hins, List.map_append, List.flatMap_append,
      List.map_singleton, List.flatMap_singleton, words_optionText, words_fieldValue,
      List.flatMap_cons, words_of_fieldMarker? hm,
      ← flatMap_words_takeWhile_append continuesBlock below]
    simp only [List.append_assoc]

namespace Shape

variable {shape : Shape}

/-! ## Arguments -/

/-- The arguments have the words of their lines, where there are arguments. -/
theorem words_of_argumentsIn {lines arguments : List Text}
    (h : shape.argumentsIn lines = .ok arguments) :
    arguments.flatMap words = if shape.takesArguments then lines.flatMap words else [] := by
  rw [← words_ofLines lines]
  cases argumentsOf_of_argumentsIn h with
  | none ht =>
    rw [ht]
    rfl
  | split ht =>
    rw [if_pos ht]
    exact flatMap_words_of_isWord fun w hw => isWord_of_mem_words hw
  | remainder ht =>
    rw [if_pos ht]
    exact flatMap_words_splitWords _ _

/-! ## The runs of a block -/

theorem flatMap_words_blockBody (lines : List Text) (offset : Nat) :
    (blockBody lines offset).1.flatMap words = lines.flatMap words := by
  rw [← flatMap_words_dropTrailingBlanks lines, blockBody]
  split
  · next h => rw [h]
  · next l ls h =>
    rw [h]
    split
    · next hb => rw [List.flatMap_cons, words_eq_nil_iff.2 hb, List.nil_append]
    · rfl

/-- The line that ends the first paragraph is blank. -/
theorem flatMap_words_drop_afterParagraph (body : List Text) :
    ((afterParagraph body).drop 1).flatMap words = (afterParagraph body).flatMap words := by
  cases h : afterParagraph body with
  | nil => rfl
  | cons l ls =>
    have hstop : (!isBlank l) = false :=
      List.head_dropWhile_stop (l := body) (by rw [← afterParagraph, h]; rfl)
    have hb : isBlank l = true := by simpa using hstop
    rw [List.drop_one, List.tail_cons, List.flatMap_cons, words_eq_nil_iff.2 hb, List.nil_append]

theorem flatMap_words_contentAfter (shape : Shape) (body : List Text) (start : Nat) :
    (shape.contentAfter (beforeFields body) (fromFields body) (afterParagraph body)
        start).1.flatMap words =
      (if shape.takesArguments then [] else (beforeFields body).flatMap words) ++
        (afterParagraph body).flatMap words := by
  rw [contentAfter]
  cases shape.takesArguments with
  | true => exact flatMap_words_drop_afterParagraph body
  | false =>
    by_cases hbefore : beforeFields body = []
    · rw [hbefore, if_neg (by simp)]
      exact flatMap_words_drop_afterParagraph body
    · rw [if_pos (by simp [hbefore])]
      exact List.flatMap_append

theorem flatMap_words_wholeContent (shape : Shape) (body : List Text) (start : Nat) :
    (shape.wholeContent body start).1.flatMap words =
      if shape.takesArguments then (afterParagraph body).flatMap words
      else body.flatMap words := by
  rw [wholeContent]
  cases shape.takesArguments with
  | true => exact flatMap_words_drop_afterParagraph body
  | false => rfl

theorem flatMap_words_runs (body : List Text) :
    body.flatMap words = (beforeFields body).flatMap words ++ (fromFields body).flatMap words ++
      (afterParagraph body).flatMap words := by
  rw [← List.flatMap_append, ← List.flatMap_append, append_runs]

end Shape

/-! ## The parts of a block -/

/-- The parts of a block as they are written: the arguments, the options and the content. -/
def Parts.written (parts : Parts) : List Text :=
  parts.arguments ++ parts.options.entries.map optionText ++ parts.content

namespace Shape

variable {shape : Shape}

theorem words_written_of_collect {content : List Text × Nat} {options : Options}
    {arguments : List Text} {parts : Parts}
    (h : shape.collect content options arguments = .ok parts) :
    parts.written.flatMap words = arguments.flatMap words ++
      (options.entries.map optionText).flatMap words ++ content.1.flatMap words := by
  obtain ⟨rfl, -⟩ := collect_eq_ok_iff.1 h
  rw [Parts.written, List.flatMap_append, List.flatMap_append, flatMap_words_dropWhile_isBlank]

/-- Where any option is accepted, what stands before the options of a directive without arguments is
content, and comes after them. -/
theorem words_written_of_any (hany : shape.options = .any) {lines : List Text} {offset : Nat}
    {parts : Parts} (h : shape.divide lines offset = .ok parts) :
    parts.written.flatMap words =
      let body := (blockBody lines offset).1
      let before := (beforeFields body).flatMap words
      (if shape.takesArguments then before else []) ++ (fromFields body).flatMap words ++
        ((if shape.takesArguments then [] else before) ++ (afterParagraph body).flatMap words) := by
  have haccepts : shape.options.acceptsOptions = true := by rw [hany]; rfl
  rw [divide_of_acceptsOptions haccepts, hany] at h
  obtain ⟨o, ho, h⟩ := Except.bind_eq_ok_iff.1 h
  obtain ⟨arguments, harguments, h⟩ := Except.bind_eq_ok_iff.1 h
  rw [words_written_of_collect h, words_of_argumentsIn harguments, words_of_readFields_any ho,
    flatMap_words_contentAfter]
  rfl

/-- Where no options are accepted, the parts follow one another as they do in the block. -/
theorem words_written_of_none (hnone : shape.options = .none) {lines : List Text} {offset : Nat}
    {parts : Parts} (h : shape.divide lines offset = .ok parts) :
    parts.written.flatMap words = (blockBody lines offset).1.flatMap words := by
  rw [divide_of_none hnone] at h
  obtain ⟨arguments, harguments, h⟩ := Except.bind_eq_ok_iff.1 h
  have hnoOptions : ((∅ : Options).entries.map optionText).flatMap words = [] := rfl
  rw [words_written_of_collect h, words_of_argumentsIn harguments, flatMap_words_wholeContent,
    hnoOptions, List.append_nil]
  split
  · rw [List.flatMap_append, flatMap_words_runs (blockBody lines offset).1]
  · exact List.nil_append _

/-- **Dividing a block loses no word and says none twice.** Where a shape accepts any option or none,
the words of the lines are those of the arguments, of the options written as fields, and of the
content; where there are arguments, in this order. -/
theorem words_divide (hoptions : shape.options = .any ∨ shape.options = .none) {lines : List Text}
    {offset : Nat} {parts : Parts} (h : shape.divide lines offset = .ok parts) :
    (lines.flatMap words).Perm (parts.written.flatMap words) ∧
      (shape.takesArguments = true → lines.flatMap words = parts.written.flatMap words) := by
  rw [← flatMap_words_blockBody lines offset]
  rcases hoptions with hany | hnone
  · rw [words_written_of_any hany h, flatMap_words_runs]
    dsimp only
    cases shape.takesArguments with
    | true =>
      rw [if_pos rfl, if_pos rfl, List.nil_append]
      exact ⟨.refl _, fun _ => rfl⟩
    | false =>
      rw [if_neg Bool.false_ne_true, if_neg Bool.false_ne_true, List.nil_append,
        ← List.append_assoc]
      exact ⟨List.perm_append_comm.append_right _, fun ht => absurd ht Bool.false_ne_true⟩
  · rw [words_written_of_none hnone h]
    exact ⟨.refl _, fun _ => rfl⟩

/-- Text in front of an option whose value goes on below it: content, if there are no arguments, and
then the option comes first; an argument otherwise. -/
theorem words_divide_glued :
    (∃ parts, Shape.contentOnly.withAnyOption.divide
        ["", "one  two", ":a b: x", "   y", "", "", "  three"] 4 = .ok parts ∧
      parts.written.flatMap words =
        ([":a", "b:", "x", "y", "one", "two", "three"] : List Text) ∧
      (["one", "two", ":a", "b:", "x", "y", "three"] : List Text).Perm
        (parts.written.flatMap words)) ∧
    ∃ parts, Shape.oneLine.withAnyOption.divide ["one  two", ":a b: x", "   y"] 4 = .ok parts ∧
      parts.written.flatMap words = (["one", "two", ":a", "b:", "x", "y"] : List Text) := by
  have hglued : Shape.contentOnly.withAnyOption.divide
      ["", "one  two", ":a b: x", "   y", "", "", "  three"] 4 =
        .ok ⟨[], ⟨[("a b", some "x\ny")], by decide⟩, ["one  two", "", "", "  three"], 5⟩ := by
    cbv
  have hordered : Shape.oneLine.withAnyOption.divide ["one  two", ":a b: x", "   y"] 4 =
      .ok ⟨["one  two"], ⟨[("a b", some "x\ny")], by decide⟩, [], 8⟩ := by cbv
  have hgluedWords : List.flatMap words ["", "one  two", ":a b: x", "   y", "", "", "  three"] =
      (["one", "two", ":a", "b:", "x", "y", "three"] : List Text) := by cbv
  have horderedWords : List.flatMap words ["one  two", ":a b: x", "   y"] =
      (["one", "two", ":a", "b:", "x", "y"] : List Text) := by cbv
  refine ⟨⟨_, hglued, by cbv, ?_⟩, _, hordered, ?_⟩
  · rw [← hgluedWords]
    exact (words_divide (Or.inl rfl) hglued).1
  · rw [← horderedWords]
    exact ((words_divide (Or.inl rfl) hordered).2 rfl).symm

end Shape

end StructuredText

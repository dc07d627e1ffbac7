import StructuredText.Proofs.Invocation.Division

/-!
# Arguments, written and read

Arguments are words, except that the last one may be any text that begins and ends with a word where
the shape says so and no further argument could follow (`FitsArguments`). That is what reading gives
(`fitsArguments_of_argumentsIn`), and such arguments with spaces between them are read back
(`argumentsIn_argumentLines`). From lines that end in white space, the last argument may end in it as
well, and nothing else is different (`AllowsArguments`, `fitsArguments_iff`). A last argument of several lines keeps them: its later lines are the
last of the lines it was read from (`argumentsIn_spec`).
-/

namespace StructuredText

open Text

namespace Text

theorem IsWord.not_mem_of_isWhite {w : Text} (h : IsWord w) {c : Char} (hc : isWhite c = true) :
    c ∉ w := by
  intro hmem
  rw [h.noWhite c hmem] at hc
  cases hc

theorem isWhite_tab : isWhite '\t' = true := by decide

theorem IsWord.isLine {w : Text} (h : IsWord w) : IsLine w :=
  ⟨h.not_mem_of_isWhite isWhite_newline, h.not_mem_of_isWhite isWhite_tab,
    fun c hc => h.noWhite c (List.mem_of_getLast? hc)⟩

/-- Words with a text after them: what stands before the text is part of its first line. -/
theorem exists_join_append {front : List Text} (h : ∀ w ∈ front, IsWord w) (last : Text) :
    ∃ u, join [' '] (front ++ [last]) = u ++ last ∧ '\n' ∉ u ∧ '\t' ∉ u := by
  induction front with
  | nil => exact ⟨[], rfl, by simp, by simp⟩
  | cons w front ih =>
    obtain ⟨u, hu, hnewline, htab⟩ := ih fun x hx => h x (List.mem_cons_of_mem _ hx)
    have hw := (h w (List.mem_cons_self ..)).isLine
    refine ⟨w ++ ' ' :: u, ?_, ?_, ?_⟩
    · rw [List.cons_append, join_cons (by simp), hu]
      simp
    · simpa using ⟨hw.noNewline, hnewline⟩
    · simpa using ⟨hw.noTab, htab⟩

theorem isLine_join {ws : List Text} (h : ∀ w ∈ ws, IsWord w) : IsLine (join [' '] ws) := by
  rcases List.eq_nil_or_concat ws with rfl | ⟨front, last, rfl⟩
  · exact isLine_nil
  · rw [List.concat_eq_append] at h ⊢
    have hlast := h last (by simp)
    obtain ⟨u, hu, hplain⟩ :=
      exists_join_append (fun w hw => h w (List.mem_append_left _ hw)) last
    rw [hu]
    exact hlast.isLine.append hplain hlast.ne_nil

theorem firstLine_append {u : Text} (hu : '\n' ∉ u) (t : Text) :
    firstLine (u ++ t) = u ++ firstLine t := by
  have hcut := cutAt_append hu t
  simp only [cutAt_eq_cons t, List.head_cons, List.tail_cons] at hcut
  rw [firstLine, hcut]
  rfl

theorem laterLines_append {u : Text} (hu : '\n' ∉ u) (t : Text) :
    laterLines (u ++ t) = laterLines t := by
  rw [laterLines, cutAt_append hu]
  rfl

theorem laterLines_of_noNewline {t : Text} (h : '\n' ∉ t) : laterLines t = [] := by
  rw [laterLines, cutAt_of_not_mem h]
  rfl

theorem firstLine_of_noNewline {t : Text} (h : '\n' ∉ t) : firstLine t = t := by
  rw [firstLine, cutAt_of_not_mem h]
  rfl

/-- The first line of the end of a text is the end of one of its lines. -/
theorem exists_firstLine_suffix (u t : Text) : ∃ l ∈ cutAt '\n' (u ++ t), firstLine t <:+ l := by
  induction u with
  | nil => exact ⟨firstLine t, firstLine_mem_cutAt t, List.suffix_refl _⟩
  | cons c u ih =>
    obtain ⟨l, hl, hsuffix⟩ := ih
    by_cases hc : c = '\n'
    · subst hc
      rw [List.cons_append, cutAt_cons_sep]
      exact ⟨l, List.mem_cons_of_mem _ hl, hsuffix⟩
    · rw [List.cons_append, cutAt_cons_ne hc]
      -- The character belongs to the first line, which may be the one in question.
      rw [cutAt_eq_cons] at hl
      rcases List.mem_cons.1 hl with rfl | hl
      · refine ⟨_, List.mem_cons_self .., ?_⟩
        simp only [cutAt_eq_cons (u ++ t), List.head_cons]
        exact hsuffix.trans (List.suffix_cons _ _)
      · exact ⟨l, List.mem_cons_of_mem _ hl, hsuffix⟩

end Text

namespace Shape

/-- The arguments that an invocation with this shape can have, if no line ends in white space. -/
structure FitsArguments (shape : Shape) (arguments : List Text) : Prop where
  required_le : shape.required ≤ arguments.length
  le_max : arguments.length ≤ shape.maxArguments
  form : (∀ w ∈ arguments, IsWord w) ∨
    shape.finalWhitespace = true ∧ arguments.length = shape.maxArguments ∧
      ∃ front last, arguments = front ++ [last] ∧ (∀ w ∈ front, IsWord w) ∧ BeginsWord last ∧
        ∀ c, last.getLast? = some c → isWhite c = false

theorem FitsArguments.beginsWord {shape : Shape} {arguments : List Text}
    (h : shape.FitsArguments arguments) : ∀ a ∈ arguments, BeginsWord a := by
  intro a ha
  rcases h.form with hwords | ⟨-, -, front, last, rfl, hfront, hlast, -⟩
  · exact (hwords a ha).beginsWord
  · rcases List.mem_append.1 ha with ha | ha
    · exact (hfront a ha).beginsWord
    · rw [List.mem_singleton.1 ha]
      exact hlast

theorem FitsArguments.beginsWord_join {shape : Shape} {arguments : List Text}
    (h : shape.FitsArguments arguments) (hne : arguments ≠ []) :
    BeginsWord (join [' '] arguments) := by
  cases arguments with
  | nil => exact absurd rfl hne
  | cons a rest =>
    have ha := h.beginsWord a (List.mem_cons_self ..)
    cases rest with
    | nil => exact ha
    | cons b rest =>
      rw [join_cons (by simp), List.append_assoc]
      exact ha.append _

/-- Lines of which more words than one are read are lines indeed. -/
theorem ne_nil_of_words {lines : List Text} {n : Nat} (h : n < (words (ofLines lines)).length) :
    lines ≠ [] := by
  rintro rfl
  rw [ofLines, join, words_nil] at h
  cases h

/-- The arguments that lines can give, whatever they end in: the last one may end in white space. -/
structure AllowsArguments (shape : Shape) (arguments : List Text) : Prop where
  required_le : shape.required ≤ arguments.length
  le_max : arguments.length ≤ shape.maxArguments
  form : (∀ w ∈ arguments, IsWord w) ∨
    shape.finalWhitespace = true ∧ arguments.length = shape.maxArguments ∧
      ∃ front last, arguments = front ++ [last] ∧ (∀ w ∈ front, IsWord w) ∧ BeginsWord last

/-- White space at the end of an argument is all that keeps arguments from fitting. -/
theorem fitsArguments_iff {shape : Shape} {arguments : List Text} :
    shape.FitsArguments arguments ↔
      shape.AllowsArguments arguments ∧ ∀ a ∈ arguments, Trimmed a := by
  constructor
  · rintro ⟨hrequired, hmax, hform⟩
    rcases hform with hwords | ⟨hfinal, hcount, front, last, rfl, hfront, hlast, hend⟩
    · exact ⟨⟨hrequired, hmax, Or.inl hwords⟩, fun a ha => (hwords a ha).isLine.trimmed⟩
    · refine ⟨⟨hrequired, hmax, Or.inr ⟨hfinal, hcount, front, last, rfl, hfront, hlast⟩⟩, ?_⟩
      intro a ha
      rcases List.mem_append.1 ha with ha | ha
      · exact (hfront a ha).isLine.trimmed
      · rw [List.mem_singleton.1 ha]
        exact hend
  · rintro ⟨⟨hrequired, hmax, hform⟩, htrimmed⟩
    refine ⟨hrequired, hmax, hform.imp id ?_⟩
    rintro ⟨hfinal, hcount, front, last, rfl, hfront, hlast⟩
    exact ⟨hfinal, hcount, front, last, rfl, hfront, hlast, htrimmed last (by simp)⟩

/-- **Dividing a block gives arguments that the shape allows**, whatever its lines end in. -/
theorem allowsArguments_of_argumentsIn {shape : Shape} {lines arguments : List Text}
    (h : shape.argumentsIn lines = .ok arguments) : shape.AllowsArguments arguments := by
  have hsum : shape.maxArguments = shape.required + shape.optional := rfl
  cases argumentsOf_of_argumentsIn h with
  | none ht =>
    have hmax : ¬0 < shape.maxArguments := of_decide_eq_false ht
    refine ⟨?_, Nat.zero_le _, Or.inl (by simp)⟩
    rw [List.length_nil]
    omega
  | split _ hrequired hmax =>
    exact ⟨hrequired, hmax, Or.inl fun w hw => isWord_of_mem_words hw⟩
  | remainder ht hfinal hmore =>
    -- Words, as many as the shape takes, and the last of them with all that follows it.
    have hmax : 0 < shape.maxArguments := of_decide_eq_true ht
    obtain ⟨front, last, hsplit, hlen, hfront, hlast, -⟩ :=
      splitWords_spec (t := ofLines lines) (k := shape.maxArguments - 1) (by omega)
    rw [hsplit]
    have hcount : (front ++ [last]).length = shape.maxArguments := by
      rw [List.length_append, List.length_singleton]
      omega
    exact ⟨by omega, by omega, Or.inr ⟨hfinal, hcount, front, last, rfl, hfront, hlast⟩⟩

/-- No argument ends in white space if no line does. -/
theorem trimmed_of_argumentsIn {shape : Shape} {lines : List Text}
    (hlines : ∀ l ∈ lines, Trimmed l ∧ isBlank l = false) {arguments : List Text}
    (h : shape.argumentsIn lines = .ok arguments) : ∀ a ∈ arguments, Trimmed a := by
  cases argumentsOf_of_argumentsIn h with
  | none => exact fun a ha => absurd ha List.not_mem_nil
  | split => exact fun a ha => (isWord_of_mem_words ha).isLine.trimmed
  | remainder _ _ hmore =>
    obtain ⟨front, last, hsplit, -, hfront, -, hsuffix⟩ :=
      splitWords_spec (t := ofLines lines) (k := shape.maxArguments - 1) (by omega)
    rw [hsplit]
    intro a ha
    rcases List.mem_append.1 ha with ha | ha
    · exact (hfront a ha).isLine.trimmed
    · -- The remainder ends where the last line ends.
      have htrimmed : Trimmed (ofLines lines) := trimmed_ofLines (fun l hl => (hlines l hl).1)
        (endsFilled_of_all fun l hl => (hlines l hl).2)
      rw [List.mem_singleton.1 ha]
      exact htrimmed.suffix hsuffix

/-- **Dividing a block gives arguments that fit the shape**, if no line ends in white space. -/
theorem fitsArguments_of_argumentsIn {shape : Shape} {lines : List Text}
    (hlines : ∀ l ∈ lines, Trimmed l ∧ isBlank l = false) {arguments : List Text}
    (h : shape.argumentsIn lines = .ok arguments) : shape.FitsArguments arguments :=
  fitsArguments_iff.2 ⟨allowsArguments_of_argumentsIn h, trimmed_of_argumentsIn hlines h⟩

/-- The lines of arguments the last of which is all that follows the others. -/
theorem splitWords_arguments {k : Nat} {lines : List Text}
    (hlines : ∀ l ∈ lines, IsLine l ∧ isBlank l = false)
    (hmore : k < (words (ofLines lines)).length) :
    IsLine (firstLine (join [' '] (splitWords k (ofLines lines)))) ∧
      laterLines (join [' '] (splitWords k (ofLines lines))) <:+ lines.tail := by
  obtain ⟨front, last, hsplit, -, hfront, hlast, v, hv⟩ := splitWords_spec hmore
  rw [hsplit]
  obtain ⟨u, hu, hplain⟩ := exists_join_append hfront last
  -- The remainder is the end of the text, so that its later lines are later lines of it.
  have hcut := cutAt_ofLines (ne_nil_of_words hmore) fun l hl => (hlines l hl).1.noNewline
  rw [← hv] at hcut
  constructor
  · rw [hu, firstLine_append hplain.1]
    obtain ⟨l, hl, hsuffix⟩ := exists_firstLine_suffix v last
    rw [hcut] at hl
    exact ((hlines l hl).1.suffix hsuffix).append hplain (beginsWord_firstLine hlast).ne_nil
  · rw [hu, laterLines_append hplain.1]
    have htail := tail_cutAt_suffix '\n' v last
    rwa [hcut] at htail

/-- **What dividing a block gives as arguments**: such as fit the shape, on lines of the block. -/
theorem argumentsIn_spec {shape : Shape} {lines : List Text}
    (hlines : ∀ l ∈ lines, IsLine l ∧ isBlank l = false) {arguments : List Text}
    (h : shape.argumentsIn lines = .ok arguments) :
    shape.FitsArguments arguments ∧ IsLine (firstLine (join [' '] arguments)) ∧
      laterLines (join [' '] arguments) <:+ lines.tail := by
  refine ⟨fitsArguments_of_argumentsIn (fun l hl => ⟨(hlines l hl).1.trimmed, (hlines l hl).2⟩) h,
    ?_⟩
  cases argumentsOf_of_argumentsIn h with
  | none => exact ⟨isLine_nil, List.nil_suffix⟩
  | split =>
    -- The words themselves are on one line, wherever they stood.
    have hline : IsLine (join [' '] (words (ofLines lines))) :=
      isLine_join fun w hw => isWord_of_mem_words hw
    rw [firstLine_of_noNewline hline.noNewline, laterLines_of_noNewline hline.noNewline]
    exact ⟨hline, List.nil_suffix⟩
  | remainder _ _ hmore => exact splitWords_arguments hlines (by omega)

theorem argumentsIn_nil {shape : Shape} {arguments : List Text}
    (h : shape.argumentsIn [] = .ok arguments) : arguments = [] := by
  cases argumentsOf_of_argumentsIn h with
  | none => rfl
  | split => exact words_nil
  | remainder _ _ hmore => exact absurd rfl (ne_nil_of_words hmore)

/-- The lines of arguments with spaces between them. -/
def argumentLines (arguments : List Text) : List Text :=
  if arguments = [] then [] else cutAt '\n' (join [' '] arguments)

/-- As many words as the shape takes are its arguments. -/
theorem readArguments_of_words {shape : Shape} {lines arguments : List Text}
    (hw : words (ofLines lines) = arguments) (hrequired : shape.required ≤ arguments.length)
    (hmax : arguments.length ≤ shape.maxArguments) :
    shape.readArguments lines = .ok arguments := by
  simp only [readArguments, hw]
  rw [if_neg (by omega), if_neg (by omega)]

/-- Of more words, all that follow the others go into the last argument. -/
theorem readArguments_of_splitWords {shape : Shape} {lines : List Text}
    (hfinal : shape.finalWhitespace = true)
    (hmore : shape.maxArguments < (words (ofLines lines)).length) :
    shape.readArguments lines = .ok (splitWords (shape.maxArguments - 1) (ofLines lines)) := by
  have hsum : shape.required ≤ shape.maxArguments := Nat.le_add_right _ _
  simp only [readArguments]
  rw [if_neg (by omega), if_pos hmore, if_pos hfinal]

theorem readArguments_cutAt {shape : Shape} {arguments : List Text}
    (h : shape.FitsArguments arguments) :
    shape.readArguments (cutAt '\n' (join [' '] arguments)) = .ok arguments := by
  have htext : ofLines (cutAt '\n' (join [' '] arguments)) = join [' '] arguments := ofLines_cutAt _
  have hofWords : (∀ w ∈ arguments, IsWord w) →
      shape.readArguments (cutAt '\n' (join [' '] arguments)) = .ok arguments := by
    intro hwords
    exact readArguments_of_words (by rw [htext, words_join hwords]) h.required_le h.le_max
  rcases h.form with hwords | ⟨hfinal, hcount, front, last, rfl, hfront, hlast, hend⟩
  · exact hofWords hwords
  · by_cases hword : IsWord last
    · refine hofWords fun w hw => ?_
      rcases List.mem_append.1 hw with hw | hw
      · exact hfront w hw
      · rw [List.mem_singleton.1 hw]
        exact hword
    · -- The last argument is more than one word, so that there are too many words.
      have hwhite : ∃ c ∈ last, isWhite c = true := by
        refine Decidable.byContradiction fun hno => hword ⟨hlast.ne_nil, fun c hc => ?_⟩
        cases hcw : isWhite c with
        | false => rfl
        | true => exact absurd ⟨c, hc, hcw⟩ hno
      have htwo := two_le_length_words hlast hend hwhite
      have hk : shape.maxArguments - 1 = front.length := by
        rw [← hcount, List.length_append, List.length_singleton]
        omega
      have hmore : shape.maxArguments <
          (words (ofLines (cutAt '\n' (join [' '] (front ++ [last]))))).length := by
        rw [htext, words_join_append hfront, ← hcount, List.length_append, List.length_append,
          List.length_singleton]
        omega
      rw [readArguments_of_splitWords hfinal hmore, htext, hk, splitWords_join hfront hlast]

/-- **Written arguments are read back.** -/
theorem argumentsIn_argumentLines {shape : Shape} {arguments : List Text}
    (h : shape.FitsArguments arguments) :
    shape.argumentsIn (argumentLines arguments) = .ok arguments := by
  unfold argumentsIn argumentLines
  by_cases hne : arguments = []
  · subst hne
    split
    · exact readArguments_of_words words_nil h.required_le h.le_max
    · rfl
  · have hpos := List.length_pos_iff.2 hne
    have hmax := h.le_max
    have ht : shape.takesArguments = true := decide_eq_true (by omega)
    rw [if_pos ht, if_neg hne]
    exact readArguments_cutAt h

end Shape

end StructuredText

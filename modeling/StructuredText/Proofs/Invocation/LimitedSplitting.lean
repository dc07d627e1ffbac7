import StructuredText.Proofs.Invocation.Arguments

/-!
# Limited and full splitting

A directive whose last argument may contain white space splits off the words before that argument and
keeps the rest as it stands. This is a limited splitting of the text into words. It gives the words
that the full splitting gives, and then, where there are more, the text from the next word on, which
`IsFromWord` pins down (`splitWords_agree`). Where one word at most is left and the text ends with it,
the rest is that word, so that both splittings are the same. A block with no more words than the shape
takes arguments therefore has the same arguments by either of them.
-/

namespace StructuredText

namespace Text

/-- Whether a text is the end of `t` that starts at the word of number `k`, counted from zero: before
it stand the words up to that one, and it begins with that one itself. -/
structure IsFromWord (t : Text) (k : Nat) (rest : Text) : Prop where
  front : ∃ front, t = front ++ rest ∧ words front = (words t).take k
  words_eq : words rest = (words t).drop k
  begins : ∃ w, (words t)[k]? = some w ∧ w <+: rest

/-- A text that begins with a word has it as its first word. -/
theorem head?_words {t : Text} (h : BeginsWord t) : (words t).head? = some (word t) := by
  have htrim := h.trimStart_eq
  have hne : trimStart t ≠ [] := by
    rw [htrim]
    exact h.ne_nil
  rw [words_of_trimStart hne, htrim]
  rfl

/-- A text of one word, without white space at either end, is that word. -/
theorem words_eq_singleton {t w : Text} (hb : BeginsWord t) (ht : Trimmed t)
    (hw : words t = [w]) : t = w := by
  have hword : IsWord t := by
    refine ⟨hb.ne_nil, ?_⟩
    intro c hc
    apply eq_false_of_ne_true
    intro hwhite
    have htwo := two_le_length_words hb ht ⟨c, hc, hwhite⟩
    rw [hw, List.length_singleton] at htwo
    omega
  rw [words_of_isWord hword] at hw
  exact List.head_eq_of_cons_eq hw

/-- How many parts a limited splitting gives. -/
theorem length_splitWords (k : Nat) (t : Text) :
    (splitWords k t).length = min (words t).length (k + 1) := by
  rcases Nat.lt_or_ge k (words t).length with hlt | hge
  · obtain ⟨front, rest, -, -, -, -, hsplit⟩ := exists_splitWords hlt
    rw [hsplit, List.length_append, List.length_take, List.length_singleton]
    omega
  · rw [splitWords_of_le hge]
    omega

/-- Its parts are the words, as far as they are split off. -/
theorem getElem?_splitWords {i k : Nat} {t : Text} (h : i < min (words t).length k) :
    (splitWords k t)[i]? = (words t)[i]? := by
  rcases Nat.lt_or_ge k (words t).length with hlt | hge
  · obtain ⟨front, rest, -, -, -, -, hsplit⟩ := exists_splitWords hlt
    have hi : i < ((words t).take k).length := by
      rw [List.length_take]
      omega
    rw [hsplit, List.getElem?_append_left hi, List.getElem?_take_of_lt (by omega)]
  · rw [splitWords_of_le hge]

/-- Where there are more words, the last part is the text from the next one on. -/
theorem exists_isFromWord {k : Nat} {t : Text} (h : k < (words t).length) :
    ∃ rest, (splitWords k t).getLast? = some rest ∧ IsFromWord t k rest := by
  obtain ⟨front, rest, heq, hfront, hrest, hb, hsplit⟩ := exists_splitWords h
  refine ⟨rest, ?_, ⟨front, heq, hfront⟩, hrest, word rest, ?_, List.takeWhile_prefix _⟩
  · rw [hsplit, List.getLast?_concat]
  · rw [← head?_words hb, hrest, List.head?_drop]

/-- One word at most is left: the two splittings agree. -/
theorem splitWords_eq_words {k : Nat} {t : Text} (ht : Trimmed t)
    (h : (words t).length ≤ k + 1) : splitWords k t = words t := by
  rcases Nat.lt_or_ge k (words t).length with hlt | hge
  · obtain ⟨front, rest, heq, -, hrest, hb, hsplit⟩ := exists_splitWords hlt
    have hlast : (words t).drop k = [(words t)[k]] := by
      rw [List.drop_eq_getElem_cons hlt, List.drop_eq_nil_of_le h]
    have htrimmed : Trimmed rest := ht.suffix ⟨front, heq.symm⟩
    rw [hlast] at hrest
    rw [hsplit, words_eq_singleton hb htrimmed hrest, ← hlast, List.take_append_drop]
  · exact splitWords_of_le hge

end Text

open Text

/-- Where there are no more words than arguments, the arguments are what a limited splitting gives. -/
theorem Shape.splitWords_of_readArguments {shape : Shape} {lines arguments : List Text}
    (hlines : ∀ l ∈ lines, Trimmed l ∧ isBlank l = false)
    (hmax : (words (ofLines lines)).length ≤ shape.maxArguments)
    (h : shape.readArguments lines = .ok arguments) :
    splitWords (shape.maxArguments - 1) (ofLines lines) = arguments := by
  simp only [readArguments] at h
  rw [if_neg (Nat.not_lt.2 hmax)] at h
  split at h
  · cases h
  · cases h
    have htrimmed : Trimmed (ofLines lines) :=
      trimmed_ofLines (fun l hl => (hlines l hl).1) (endsFilled_of_all fun l hl => (hlines l hl).2)
    exact splitWords_eq_words htrimmed (by omega)

/-- **A limited splitting agrees with the full one.** It gives the words that it may split off, and
where there are more the text from the next one on; where one word at most is left and the text ends
with it, it gives all words. So it would give the arguments of every block that has no more words than
arguments are allowed. -/
theorem splitWords_agree (t : Text) (k : Nat) :
    (splitWords k t).length = min (words t).length (k + 1) ∧
    (∀ i, i < min (words t).length k → (splitWords k t)[i]? = (words t)[i]?) ∧
    (k < (words t).length →
      ∃ rest, (splitWords k t).getLast? = some rest ∧ IsFromWord t k rest) ∧
    (Trimmed t → (words t).length ≤ k + 1 → splitWords k t = words t) ∧
    ∀ (shape : Shape) (lines arguments : List Text),
      (∀ l ∈ lines, Trimmed l ∧ isBlank l = false) →
      (words (ofLines lines)).length ≤ shape.maxArguments →
      shape.readArguments lines = .ok arguments →
      splitWords (shape.maxArguments - 1) (ofLines lines) = arguments := by
  refine ⟨length_splitWords k t, ?_, exists_isFromWord, splitWords_eq_words, ?_⟩
  · intro i hi
    exact getElem?_splitWords hi
  · intro shape lines arguments hlines hmax h
    exact shape.splitWords_of_readArguments hlines hmax h

/-- One word is split off and one is left, with white space of three kinds; and three arguments stand on
two lines. -/
theorem splitWords_agree_two :
    (0 < min (words "\u3000a \tb").length 1 ∧ 1 < (words "\u3000a \tb").length ∧
      Trimmed "\u3000a \tb" ∧ (words "\u3000a \tb").length ≤ 1 + 1 ∧
      (∀ l ∈ (["a", "b c"] : List Text), Trimmed l ∧ isBlank l = false) ∧
      (words (ofLines ["a", "b c"])).length ≤ Shape.maxArguments { required := 3 } ∧
      Shape.readArguments { required := 3 } ["a", "b c"] = .ok ["a", "b", "c"]) ∧
    (splitWords 1 "\u3000a \tb")[0]? = (words "\u3000a \tb")[0]? ∧
    (∃ rest, (splitWords 1 "\u3000a \tb").getLast? = some rest ∧
      IsFromWord "\u3000a \tb" 1 rest) ∧
    splitWords 1 "\u3000a \tb" = words "\u3000a \tb" ∧
    splitWords 2 (ofLines ["a", "b c"]) = ["a", "b", "c"] := by
  have hwords : words "\u3000a \tb" = ["a", "b"] := by decide +kernel
  have hfirst : 0 < min (words "\u3000a \tb").length 1 := by
    rw [hwords]
    decide
  have hmore : 1 < (words "\u3000a \tb").length := by
    rw [hwords]
    decide
  have hone : (words "\u3000a \tb").length ≤ 1 + 1 := by
    rw [hwords]
    decide
  have htrimmed : Trimmed "\u3000a \tb" := by decide
  have hlines : ∀ l ∈ (["a", "b c"] : List Text), Trimmed l ∧ isBlank l = false := by decide
  have hthree : words (ofLines ["a", "b c"]) = ["a", "b", "c"] := by decide +kernel
  have hmax : (words (ofLines ["a", "b c"])).length ≤ Shape.maxArguments { required := 3 } := by
    rw [hthree]
    decide
  have hread : Shape.readArguments { required := 3 } ["a", "b c"] = .ok ["a", "b", "c"] :=
    Shape.readArguments_of_words hthree (by decide) (by decide)
  obtain ⟨-, hword, hrest, hall, harguments⟩ := splitWords_agree "\u3000a \tb" 1
  exact ⟨⟨hfirst, hmore, htrimmed, hone, hlines, hmax, hread⟩, hword 0 hfirst, hrest hmore,
    hall htrimmed hone, harguments _ _ _ hlines hmax hread⟩

/-- The rest keeps its white space, that at the end too. -/
example : splitWords 1 "a  b\tc " = ["a", "b\tc "] := by decide +kernel

end StructuredText

import Mathlib.Data.List.TakeWhile
import StructuredText.Proofs.List
import StructuredText.Proofs.Text.Lines

/-!
# Words

Everything about the words of a text follows from one equation: at a white space character the words
come apart (`words_append_white`). Words with a space between them are therefore read back
(`words_join`), and so are words followed by a remainder that keeps its white space
(`splitWords_join`).

The other way round, a limited splitting gives all words where there are no more than it may split off
(`splitWords_of_le`), and else so many words and the text from the next one on (`exists_splitWords`).
-/

namespace StructuredText

namespace Text

/-- A word: not empty, and without white space. -/
structure IsWord (w : Text) : Prop where
  ne_nil : w ≠ []
  noWhite : ∀ c ∈ w, isWhite c = false

/-- Whether a text is not empty and does not begin with white space. -/
def BeginsWord (t : Text) : Prop := ∃ c r, t = c :: r ∧ isWhite c = false

theorem isWord_of_all {w : Text} (hne : w ≠ []) (h : w.all (fun c => !isWhite c) = true) :
    IsWord w :=
  ⟨hne, fun c hc => by simpa using List.all_eq_true.1 h c hc⟩

theorem IsWord.beginsWord {w : Text} (h : IsWord w) : BeginsWord w := by
  cases w with
  | nil => exact absurd rfl h.ne_nil
  | cons c r => exact ⟨c, r, rfl, h.noWhite c (List.mem_cons_self ..)⟩

theorem BeginsWord.ne_nil {t : Text} (h : BeginsWord t) : t ≠ [] := by
  obtain ⟨c, r, rfl, -⟩ := h
  simp

theorem trimStart_eq_self {t : Text} (h : ∀ c, t.head? = some c → isWhite c = false) :
    trimStart t = t := by
  cases t with
  | nil => rfl
  | cons c r => simp [trimStart, h c rfl]

theorem BeginsWord.trimStart_eq {t : Text} (h : BeginsWord t) : trimStart t = t := by
  obtain ⟨c, r, rfl, hc⟩ := h
  simp [trimStart, hc]

theorem BeginsWord.append {t : Text} (h : BeginsWord t) (u : Text) : BeginsWord (t ++ u) := by
  obtain ⟨c, r, rfl, hc⟩ := h
  exact ⟨c, r ++ u, rfl, hc⟩

theorem beginsWord_of_trimStart {t : Text} (h : trimStart t ≠ []) : BeginsWord (trimStart t) := by
  cases ht : trimStart t with
  | nil => exact absurd ht h
  | cons c r => exact ⟨c, r, rfl, isWhite_head_trimStart ht⟩

theorem trimStart_cons_white {c : Char} (hc : isWhite c = true) (t : Text) :
    trimStart (c :: t) = trimStart t := by
  simp [trimStart, hc]

theorem trimStart_append {a : Text} (h : trimStart a ≠ []) (b : Text) :
    trimStart (a ++ b) = trimStart a ++ b := by
  unfold trimStart at h ⊢
  rw [List.dropWhile_append]
  simp [h]

theorem trimStart_append_of_nil {a : Text} (h : trimStart a = []) (b : Text) :
    trimStart (a ++ b) = trimStart b := by
  unfold trimStart at h ⊢
  rw [List.dropWhile_append]
  simp [h]

theorem word_append_white {c : Char} (hc : isWhite c = true) (a b : Text) :
    word (a ++ c :: b) = word a := by
  unfold word
  rw [List.takeWhile_append]
  split
  · next h =>
    rw [List.takeWhile_cons, if_neg (by simp [hc]), List.append_nil]
    exact ((List.takeWhile_prefix _).eq_of_length h).symm
  · rfl

theorem afterWord_append_white {c : Char} (hc : isWhite c = true) (a b : Text) :
    afterWord (a ++ c :: b) = afterWord a ++ c :: b := by
  unfold afterWord
  rw [List.dropWhile_append]
  split
  · next h =>
    rw [List.dropWhile_cons, if_neg (by simp [hc])]
    simp [List.isEmpty_iff.1 h]
  · rfl

theorem word_of_noWhite {w : Text} (h : ∀ c ∈ w, isWhite c = false) : word w = w :=
  List.takeWhile_eq_self_iff.2 fun c hc => by simp [h c hc]

theorem afterWord_of_noWhite {w : Text} (h : ∀ c ∈ w, isWhite c = false) : afterWord w = [] :=
  List.dropWhile_eq_nil_iff.2 fun c hc => by simp [h c hc]

/-! ## All words -/

theorem words_of_trimStart_nil {t : Text} (h : trimStart t = []) : words t = [] := by
  rw [words]
  split
  · rfl
  · next h' => rw [h] at h'; cases h'

theorem words_of_trimStart {t : Text} (h : trimStart t ≠ []) :
    words t = word (trimStart t) :: words (afterWord (trimStart t)) := by
  rw [words]
  split
  · next h' => exact absurd h' h
  · next h' => rw [h']

@[simp] theorem words_nil : words [] = [] := words_of_trimStart_nil rfl

theorem words_trimStart (t : Text) : words (trimStart t) = words t := by
  by_cases h : trimStart t = []
  · rw [h, words_nil, words_of_trimStart_nil h]
  · have hb := (beginsWord_of_trimStart h).trimStart_eq
    rw [words_of_trimStart (by rwa [hb]), words_of_trimStart h, hb]

theorem words_cons_white {c : Char} (hc : isWhite c = true) (t : Text) :
    words (c :: t) = words t := by
  rw [← words_trimStart, trimStart_cons_white hc, words_trimStart]

/-- **Words come apart at white space.** -/
theorem words_append_white {c : Char} (hc : isWhite c = true) (a b : Text) :
    words (a ++ c :: b) = words a ++ words b := by
  induction hn : a.length using Nat.strongRecOn generalizing a with
  | _ n ih =>
    subst hn
    -- The induction takes the first word of `a` away, if there is one.
    by_cases h : trimStart a = []
    · rw [words_of_trimStart_nil h, ← words_trimStart, trimStart_append_of_nil h, words_trimStart,
        words_cons_white hc, List.nil_append]
    · have hne : trimStart (a ++ c :: b) ≠ [] := by
        rw [trimStart_append h]
        simp
      have hlt : (afterWord (trimStart a)).length < a.length := by
        obtain ⟨d, r, hd, -⟩ := beginsWord_of_trimStart h
        rw [hd]
        exact length_afterWord_lt hd
      rw [words_of_trimStart hne, trimStart_append h, word_append_white hc,
        afterWord_append_white hc, ih _ hlt _ rfl, words_of_trimStart h, List.cons_append]

/-- The words of lines are the words of one line after the other. -/
theorem words_ofLines (ls : List Text) : words (ofLines ls) = ls.flatMap words := by
  induction ls with
  | nil => exact words_nil
  | cons l ls ih =>
    cases ls with
    | nil => exact (List.append_nil _).symm
    | cons m ls =>
      rw [ofLines_cons_cons, words_append_white isWhite_newline, ih]
      rfl

theorem words_of_isWord {w : Text} (h : IsWord w) : words w = [w] := by
  have hb := h.beginsWord.trimStart_eq
  rw [words_of_trimStart (by rw [hb]; exact h.ne_nil), hb, word_of_noWhite h.noWhite,
    afterWord_of_noWhite h.noWhite, words_nil]

theorem isWord_of_mem_words {t w : Text} (h : w ∈ words t) : IsWord w := by
  fun_induction words t with
  | case1 => cases h
  | case2 t c r hcr ih =>
    rcases List.mem_cons.1 h with rfl | h
    · have hc := isWhite_head_trimStart hcr
      refine ⟨by simp [word, hc], fun d hd => ?_⟩
      have := List.all_eq_true.1 (List.all_takeWhile (l := c :: r)) d hd
      simpa using this
    · exact ih h

theorem words_eq_nil_iff {t : Text} : words t = [] ↔ isBlank t = true := by
  constructor
  · intro h
    refine Decidable.byContradiction fun hb => ?_
    have hne : trimStart t ≠ [] := fun e => hb (by
      simpa [isBlank] using List.dropWhile_eq_nil_iff.1 e)
    rw [words_of_trimStart hne] at h
    cases h
  · intro h
    exact words_of_trimStart_nil (List.dropWhile_eq_nil_iff.2 (List.all_eq_true.1 h))

theorem words_ne_nil {t : Text} (h : isBlank t = false) : words t ≠ [] := by
  intro hnil
  rw [words_eq_nil_iff.1 hnil] at h
  cases h

/-- A text with white space strictly inside has two words at least. -/
theorem two_le_length_words {t : Text} (hb : BeginsWord t)
    (he : ∀ c, t.getLast? = some c → isWhite c = false) (hw : ∃ c ∈ t, isWhite c = true) :
    2 ≤ (words t).length := by
  obtain ⟨c, hc, hcw⟩ := hw
  obtain ⟨a, b, rfl⟩ := List.append_of_mem hc
  -- The part before the white space begins with a word, as the whole text does.
  have ha : words a ≠ [] := by
    intro h
    obtain ⟨d, r, hd, hdw⟩ := hb
    have hblank := words_eq_nil_iff.1 h
    cases a with
    | nil =>
      cases hd
      rw [hcw] at hdw
      cases hdw
    | cons e a =>
      cases hd
      have := List.all_eq_true.1 hblank d (List.mem_cons_self ..)
      rw [hdw] at this
      cases this
  -- The part after it ends with one, as the whole text does.
  have hbw : words b ≠ [] := by
    intro h
    have hblank := words_eq_nil_iff.1 h
    have hall : isBlank (c :: b) = true := by
      rw [isBlank, List.all_cons, hcw, Bool.true_and]
      exact hblank
    have hlast := List.getLast?_eq_some_getLast (List.cons_ne_nil c b)
    have hmem := List.all_eq_true.1 hall _ (List.getLast_mem (List.cons_ne_nil c b))
    rw [he _ (by rw [List.getLast?_append, hlast]; rfl)] at hmem
    cases hmem
  have := List.length_pos_iff.2 ha
  have := List.length_pos_iff.2 hbw
  rw [words_append_white hcw, List.length_append]
  omega

/-! ## Words with spaces between them -/

theorem words_join_append {ws : List Text} (h : ∀ w ∈ ws, IsWord w) {t : Text} :
    words (join [' '] (ws ++ [t])) = ws ++ words t := by
  induction ws with
  | nil => rfl
  | cons w ws ih =>
    rw [List.cons_append, join_cons (by simp), List.append_assoc, List.singleton_append,
      words_append_white isWhite_space, words_of_isWord (h w (List.mem_cons_self ..)),
      ih fun x hx => h x (List.mem_cons_of_mem _ hx)]
    rfl

theorem words_join {ws : List Text} (h : ∀ w ∈ ws, IsWord w) : words (join [' '] ws) = ws := by
  rcases List.eq_nil_or_concat ws with rfl | ⟨front, last, rfl⟩
  · exact words_nil
  · rw [List.concat_eq_append] at h ⊢
    rw [words_join_append fun w hw => h w (List.mem_append_left _ hw),
      words_of_isWord (h last (by simp))]

theorem splitWords_trimStart (k : Nat) (t : Text) : splitWords k (trimStart t) = splitWords k t := by
  have htrim : trimStart (trimStart t) = trimStart t := by
    by_cases h : trimStart t = []
    · rw [h]
      rfl
    · exact (beginsWord_of_trimStart h).trimStart_eq
  cases k with
  | zero => rw [splitWords, splitWords, htrim]
  | succ k => rw [splitWords, splitWords, htrim]

theorem splitWords_zero {t : Text} (h : BeginsWord t) : splitWords 0 t = [t] := by
  obtain ⟨c, r, rfl, hc⟩ := h
  simp [splitWords, trimStart, hc]

theorem splitWords_succ {t : Text} (k : Nat) (h : BeginsWord t) :
    splitWords (k + 1) t = word t :: splitWords k (afterWord t) := by
  obtain ⟨c, r, rfl, hc⟩ := h
  simp [splitWords, trimStart, hc]

/-- Words and a remainder with spaces between them are read back. -/
theorem splitWords_join {ws : List Text} (h : ∀ w ∈ ws, IsWord w) {t : Text} (ht : BeginsWord t) :
    splitWords ws.length (join [' '] (ws ++ [t])) = ws ++ [t] := by
  induction ws with
  | nil => exact splitWords_zero ht
  | cons w ws ih =>
    have hw := h w (List.mem_cons_self ..)
    have hrest := ih fun x hx => h x (List.mem_cons_of_mem _ hx)
    -- The first word ends at the space behind it, and the rest is trimmed before it is split.
    rw [List.cons_append, join_cons (by simp), List.append_assoc, List.singleton_append,
      List.length_cons, splitWords_succ _ (hw.beginsWord.append _), word_append_white isWhite_space,
      afterWord_append_white isWhite_space, word_of_noWhite hw.noWhite,
      afterWord_of_noWhite hw.noWhite, List.nil_append, ← splitWords_trimStart,
      trimStart_cons_white isWhite_space, splitWords_trimStart, hrest]

/-! ## What a limited splitting gives -/

/-- White space in front of a text adds no words. -/
theorem words_blank_append {lead : Text} (h : isBlank lead = true) (t : Text) :
    words (lead ++ t) = words t := by
  have hlead : trimStart lead = [] := List.dropWhile_eq_nil_iff.2 (List.all_eq_true.1 h)
  rw [← words_trimStart, trimStart_append_of_nil hlead, words_trimStart]

/-- Words come apart where white space or nothing follows. -/
theorem words_append_of_head {u v : Text} (h : ∀ c, v.head? = some c → isWhite c = true) :
    words (u ++ v) = words u ++ words v := by
  cases v with
  | nil => rw [List.append_nil, words_nil, List.append_nil]
  | cons c v =>
    have hc : isWhite c = true := h c rfl
    rw [words_append_white hc, words_cons_white hc]

/-- What follows a word begins with white space. -/
theorem isWhite_head_afterWord {t : Text} {c : Char} (h : (afterWord t).head? = some c) :
    isWhite c = true := by
  have hstop := List.head_dropWhile_stop h
  simpa using hstop

/-- A text is white space, its first word and what follows that word. -/
theorem exists_blank_append (t : Text) :
    ∃ lead, isBlank lead = true ∧ t = lead ++ (word (trimStart t) ++ afterWord (trimStart t)) := by
  refine ⟨t.takeWhile isWhite, List.all_takeWhile, ?_⟩
  rw [word, afterWord, List.takeWhile_append_dropWhile, trimStart, List.takeWhile_append_dropWhile]

theorem trimStart_ne_nil_of_words {n : Nat} {t : Text} (h : n < (words t).length) :
    trimStart t ≠ [] := by
  intro hnil
  rw [words_of_trimStart_nil hnil] at h
  cases h

/-- Where there are no more words than may be split off, a limited splitting gives all of them. -/
theorem splitWords_of_le {k : Nat} {t : Text} (h : (words t).length ≤ k) :
    splitWords k t = words t := by
  induction k generalizing t with
  | zero =>
    have hnil : words t = [] := List.length_eq_zero_iff.1 (Nat.le_zero.1 h)
    have htrim : trimStart t = [] := by
      apply Decidable.byContradiction
      intro hne
      rw [words_of_trimStart hne] at hnil
      cases hnil
    rw [hnil, splitWords, htrim]
  | succ k ih =>
    by_cases htrim : trimStart t = []
    · rw [words_of_trimStart_nil htrim, splitWords, htrim]
    · have hb := beginsWord_of_trimStart htrim
      rw [words_of_trimStart htrim, List.length_cons] at h
      rw [← splitWords_trimStart, splitWords_succ k hb, ih (by omega), words_of_trimStart htrim]

/-- **Where there are more words, the last part is the text from the first of the others on.** -/
theorem exists_splitWords {k : Nat} {t : Text} (h : k < (words t).length) :
    ∃ front rest, t = front ++ rest ∧ words front = (words t).take k ∧
      words rest = (words t).drop k ∧ BeginsWord rest ∧
        splitWords k t = (words t).take k ++ [rest] := by
  have htrim := trimStart_ne_nil_of_words h
  have hb := beginsWord_of_trimStart htrim
  induction k generalizing t with
  | zero =>
    refine ⟨t.takeWhile isWhite, trimStart t, ?_, ?_, ?_, hb, ?_⟩
    · rw [trimStart, List.takeWhile_append_dropWhile]
    · rw [List.take_zero]
      exact words_eq_nil_iff.2 List.all_takeWhile
    · rw [words_trimStart, List.drop_zero]
    · rw [← splitWords_trimStart, splitWords_zero hb]
      rfl
  | succ k ih =>
    have hwords := words_of_trimStart htrim
    have hword : IsWord (word (trimStart t)) :=
      isWord_of_mem_words (t := t) (by rw [hwords]; exact List.mem_cons_self ..)
    rw [hwords, List.length_cons] at h
    have hmore : k < (words (afterWord (trimStart t))).length := by omega
    have hafter := trimStart_ne_nil_of_words hmore
    obtain ⟨front, rest, heq, hfront, hrest, hbrest, hsplit⟩ :=
      ih hmore hafter (beginsWord_of_trimStart hafter)
    -- What is split off behind the first word begins with the white space there.
    have hhead : ∀ c, front.head? = some c → isWhite c = true := by
      intro c hc
      apply isWhite_head_afterWord (t := trimStart t)
      rw [heq, List.head?_append, hc]
      rfl
    obtain ⟨lead, hlead, ht⟩ := exists_blank_append t
    refine ⟨lead ++ (word (trimStart t) ++ front), rest, ?_, ?_, ?_, hbrest, ?_⟩
    · rw [List.append_assoc, List.append_assoc, ← heq]
      exact ht
    · rw [words_blank_append hlead, words_append_of_head hhead, words_of_isWord hword, hfront,
        hwords]
      rfl
    · rw [hrest, hwords]
      rfl
    · rw [← splitWords_trimStart, splitWords_succ k hb, hsplit, hwords]
      rfl

/-- What a limited splitting gives where there are words enough: words and a remainder. -/
theorem splitWords_spec {k : Nat} {t : Text} (h : k < (words t).length) :
    ∃ ws r, splitWords k t = ws ++ [r] ∧ ws.length = k ∧ (∀ w ∈ ws, IsWord w) ∧ BeginsWord r ∧
      r <:+ t := by
  obtain ⟨front, rest, heq, -, -, hb, hsplit⟩ := exists_splitWords h
  refine ⟨(words t).take k, rest, hsplit, ?_, ?_, hb, front, heq.symm⟩
  · rw [List.length_take]
    omega
  · intro w hw
    exact isWord_of_mem_words (List.mem_of_mem_take hw)

end Text

end StructuredText

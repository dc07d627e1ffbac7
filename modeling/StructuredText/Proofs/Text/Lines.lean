import Mathlib.Data.List.DropRight
import StructuredText.Text.Lines

/-!
# Lines, written and read

Lines joined by newlines are cut apart into the same lines (`cutAt_ofLines`), and a text cut at its
newlines joins to the same text (`ofLines_cutAt`). Reading a source does more: it expands tabs, drops
white space at the end of lines, and begins no line after a final newline. `IsLine` says which
lines reading leaves alone; every line that reading gives is one (`isLine_of_mem_normalLines`), and
such lines, written one below the other, are read back (`normalLines_ofLines`).
-/

namespace StructuredText

namespace Text

/-! ## Cutting and joining -/

theorem cutAt_ne_nil (sep : Char) (t : Text) : cutAt sep t ≠ [] := by
  cases t with
  | nil => simp [cutAt]
  | cons c t =>
    unfold cutAt
    split
    · simp
    · split <;> simp

theorem cutAt_cons_sep (sep : Char) (t : Text) : cutAt sep (sep :: t) = [] :: cutAt sep t := by
  rw [cutAt, if_pos rfl]

theorem cutAt_cons_ne {sep c : Char} (hc : c ≠ sep) (t : Text) :
    cutAt sep (c :: t) = (c :: (cutAt sep t).head (cutAt_ne_nil sep t)) :: (cutAt sep t).tail := by
  rw [cutAt, if_neg hc]
  split
  · next h => exact absurd h (cutAt_ne_nil sep t)
  · next p ps h => simp [h]

theorem cutAt_of_not_mem {sep : Char} {t : Text} (h : sep ∉ t) : cutAt sep t = [t] := by
  induction t with
  | nil => rfl
  | cons c t ih =>
    have hc : c ≠ sep := fun e => h (by simp [e])
    rw [cutAt, if_neg hc, ih fun ht => h (List.mem_cons_of_mem _ ht)]

/-- A piece without the separator, put in front, becomes part of the first piece. -/
theorem cutAt_append {sep : Char} {a : Text} (ha : sep ∉ a) (t : Text) :
    cutAt sep (a ++ t) = (a ++ (cutAt sep t).head (cutAt_ne_nil sep t)) :: (cutAt sep t).tail := by
  induction a with
  | nil => simp
  | cons c a ih =>
    have hc : c ≠ sep := fun e => ha (by simp [e])
    have hrest := ih fun h => ha (List.mem_cons_of_mem _ h)
    rw [List.cons_append, cutAt_cons_ne hc]
    simp only [hrest, List.head_cons, List.tail_cons, List.cons_append]

theorem cutAt_append_sep {sep : Char} {a : Text} (ha : sep ∉ a) (t : Text) :
    cutAt sep (a ++ sep :: t) = a :: cutAt sep t := by
  rw [cutAt_append ha]
  simp [cutAt_cons_sep]

/-- The later pieces of a suffix are later pieces of the whole. -/
theorem tail_cutAt_suffix (sep : Char) (u t : Text) :
    (cutAt sep t).tail <:+ (cutAt sep (u ++ t)).tail := by
  induction u with
  | nil => exact List.suffix_refl _
  | cons c u ih =>
    by_cases hc : c = sep
    · subst hc
      rw [List.cons_append, cutAt_cons_sep, List.tail_cons]
      exact ih.trans (List.tail_suffix _)
    · rw [List.cons_append, cutAt_cons_ne hc, List.tail_cons]
      exact ih

theorem mem_of_mem_cutAt {sep : Char} {t l : Text} (hl : l ∈ cutAt sep t) {c : Char} (hc : c ∈ l) :
    c ∈ t := by
  induction t generalizing l with
  | nil =>
    rw [cutAt, List.mem_singleton] at hl
    rwa [hl] at hc
  | cons d t ih =>
    by_cases hd : d = sep
    · rw [hd, cutAt_cons_sep] at hl
      rcases List.mem_cons.1 hl with rfl | hl
      · cases hc
      · exact List.mem_cons_of_mem d (ih hl hc)
    · rw [cutAt_cons_ne hd] at hl
      rcases List.mem_cons.1 hl with rfl | hl
      · rcases List.mem_cons.1 hc with rfl | hc
        · exact List.mem_cons_self ..
        · exact List.mem_cons_of_mem d (ih (List.head_mem _) hc)
      · exact List.mem_cons_of_mem d (ih (List.mem_of_mem_tail hl) hc)

theorem sep_not_mem_of_mem_cutAt {sep : Char} {t p : Text} (h : p ∈ cutAt sep t) : sep ∉ p := by
  induction t generalizing p with
  | nil =>
    rw [cutAt, List.mem_singleton] at h
    simp [h]
  | cons c t ih =>
    by_cases hc : c = sep
    · subst hc
      rw [cutAt_cons_sep] at h
      rcases List.mem_cons.1 h with rfl | h
      · simp
      · exact ih h
    · rw [cutAt_cons_ne hc] at h
      rcases List.mem_cons.1 h with rfl | h
      · have hhead := ih (List.head_mem (cutAt_ne_nil sep t))
        simp only [List.mem_cons, not_or]
        exact ⟨fun e => hc e.symm, hhead⟩
      · exact ih (List.mem_of_mem_tail h)

theorem join_cons {sep p : Text} {ps : List Text} (h : ps ≠ []) :
    join sep (p :: ps) = p ++ sep ++ join sep ps := by
  cases ps with
  | nil => exact absurd rfl h
  | cons q ps => rfl

theorem ofLines_cons_cons (l m : Text) (ls : List Text) :
    ofLines (l :: m :: ls) = l ++ '\n' :: ofLines (m :: ls) := by
  rw [ofLines, join_cons (by simp), List.append_assoc]
  rfl

theorem cutAt_ofLines {ls : List Text} (hne : ls ≠ []) (h : ∀ l ∈ ls, '\n' ∉ l) :
    cutAt '\n' (ofLines ls) = ls := by
  unfold ofLines
  induction ls with
  | nil => exact absurd rfl hne
  | cons l ls ih =>
    have hl := h l (List.mem_cons_self ..)
    cases ls with
    | nil => exact cutAt_of_not_mem hl
    | cons m ls =>
      rw [join_cons (by simp), List.append_assoc, List.singleton_append, cutAt_append_sep hl,
        ih (by simp) fun x hx => h x (List.mem_cons_of_mem _ hx)]

theorem join_cutAt (sep : Char) (t : Text) : join [sep] (cutAt sep t) = t := by
  induction t with
  | nil => rfl
  | cons c t ih =>
    by_cases hc : c = sep
    · subst hc
      rw [cutAt_cons_sep, join_cons (cutAt_ne_nil _ _), ih]
      rfl
    · rw [cutAt, if_neg hc]
      split
      · next h => exact absurd h (cutAt_ne_nil _ _)
      · next p ps h =>
        rw [h] at ih
        cases ps with
        | nil => simpa [join] using ih
        | cons q ps => simpa [join] using ih

/-- A text cut at its newlines joins to the same text. -/
theorem ofLines_cutAt (t : Text) : ofLines (cutAt '\n' t) = t := join_cutAt '\n' t

/-- The first line of a text. -/
def firstLine (t : Text) : Text := (cutAt '\n' t).headD []

/-- The lines of a text after the first. -/
def laterLines (t : Text) : List Text := (cutAt '\n' t).tail

theorem cutAt_eq_cons (t : Text) : cutAt '\n' t = firstLine t :: laterLines t := by
  unfold firstLine laterLines
  cases h : cutAt '\n' t with
  | nil => exact absurd h (cutAt_ne_nil _ _)
  | cons l ls => rfl

theorem firstLine_mem_cutAt (t : Text) : firstLine t ∈ cutAt '\n' t := by
  rw [cutAt_eq_cons]
  exact List.mem_cons_self ..

theorem lines_of_not_mem {t : Text} (h : '\n' ∉ t) (hne : t ≠ []) : lines t = [t] := by
  induction t with
  | nil => exact absurd rfl hne
  | cons c t ih =>
    have hc : c ≠ '\n' := fun e => h (by simp [e])
    rw [lines, if_neg hc]
    cases t with
    | nil => rfl
    | cons d t => rw [ih (fun ht => h (List.mem_cons_of_mem _ ht)) (by simp)]

theorem lines_append_newline {l : Text} (hl : '\n' ∉ l) (t : Text) :
    lines (l ++ '\n' :: t) = l :: lines t := by
  induction l with
  | nil => rw [List.nil_append, lines, if_pos rfl]
  | cons c l ih =>
    have hc : c ≠ '\n' := fun e => hl (by simp [e])
    rw [List.cons_append, lines, if_neg hc, ih fun h => hl (List.mem_cons_of_mem _ h)]

/-- Lines written one below the other are read back, unless the last one is empty. -/
theorem lines_ofLines {ls : List Text} (h : ∀ l ∈ ls, '\n' ∉ l) (hlast : ls.getLast? ≠ some []) :
    lines (ofLines ls) = ls := by
  unfold ofLines
  induction ls with
  | nil => rfl
  | cons l ls ih =>
    have hl := h l (List.mem_cons_self ..)
    cases ls with
    | nil => exact lines_of_not_mem hl fun e => hlast (congrArg some e)
    | cons m ls =>
      rw [List.getLast?_cons_cons] at hlast
      rw [join_cons (by simp), List.append_assoc, List.singleton_append, lines_append_newline hl,
        ih (fun x hx => h x (List.mem_cons_of_mem _ hx)) hlast]

theorem newline_not_mem_of_mem_lines {t l : Text} (h : l ∈ lines t) : '\n' ∉ l := by
  induction t generalizing l with
  | nil => cases h
  | cons c t ih =>
    rw [lines] at h
    split at h
    · rcases List.mem_cons.1 h with rfl | h
      · simp
      · exact ih h
    · next hc =>
      split at h
      · rw [List.mem_singleton.1 h]
        simpa using fun e => hc e.symm
      · next m ms hms =>
        rw [hms] at ih
        rcases List.mem_cons.1 h with rfl | h
        · have hm := ih (List.mem_cons_self ..)
          simp only [List.mem_cons, not_or]
          exact ⟨fun e => hc e.symm, hm⟩
        · exact ih (List.mem_cons_of_mem _ h)

/-! ## Trimming -/

theorem prefix_trimEnd (t : Text) : trimEnd t <+: t := by
  induction t with
  | nil => exact List.prefix_refl _
  | cons c t ih =>
    rw [trimEnd]
    split
    · split
      · exact List.nil_prefix
      · exact (List.cons_prefix_cons).2 ⟨rfl, List.nil_prefix⟩
    · exact (List.cons_prefix_cons).2 ⟨rfl, ih⟩

/-- Trimming stops at a character that is not white space. -/
theorem isWhite_getLast_trimEnd {t : Text} {c : Char} (h : (trimEnd t).getLast? = some c) :
    isWhite c = false := by
  induction t with
  | nil => cases h
  | cons d t ih =>
    rw [trimEnd] at h
    split at h
    · split at h
      · cases h
      · next hd =>
        cases h
        simpa using hd
    · next hne =>
      cases ht : trimEnd t with
      | nil => exact absurd ht (by simpa using hne)
      | cons e u =>
        rw [ht, List.getLast?_cons_cons, ← ht] at h
        exact ih h

theorem trimEnd_eq_self {t : Text} (h : ∀ c, t.getLast? = some c → isWhite c = false) :
    trimEnd t = t := by
  induction t with
  | nil => rfl
  | cons c t ih =>
    cases t with
    | nil => simp [trimEnd, h c rfl]
    | cons d t =>
      rw [trimEnd, ih fun e he => h e (by rw [List.getLast?_cons_cons]; exact he)]

/-- White space behind a text is trimmed with the text. -/
theorem trimEnd_concat_white {c : Char} (hc : isWhite c = true) (t : Text) :
    trimEnd (t ++ [c]) = trimEnd t := by
  induction t with
  | nil => simp [trimEnd, hc]
  | cons d t ih => rw [List.cons_append, trimEnd, ih, trimEnd]

/-- What trimming takes off the end of a text is blank. -/
theorem exists_trimEnd_append (t : Text) : ∃ u, t = trimEnd t ++ u ∧ isBlank u = true := by
  induction t with
  | nil => exact ⟨[], rfl, rfl⟩
  | cons c t ih =>
    obtain ⟨u, hu, hblank⟩ := ih
    rw [trimEnd]
    split
    · next hnil =>
      rw [hnil, List.nil_append] at hu
      split
      · next hc => exact ⟨c :: t, rfl, by rw [isBlank, List.all_cons, hc, hu]; exact hblank⟩
      · exact ⟨u, by rw [hu]; rfl, hblank⟩
    · exact ⟨u, by rw [List.cons_append, ← hu], hblank⟩

theorem trimStart_suffix (t : Text) : trimStart t <:+ t := List.dropWhile_suffix _

/-- Whether a text has no white space at its end. -/
def Trimmed (t : Text) : Prop := ∀ c, t.getLast? = some c → isWhite c = false

instance (t : Text) : Decidable (Trimmed t) :=
  decidable_of_iff (t.getLast?.all fun c => !isWhite c) (by
    rw [Option.all_eq_true, Trimmed]
    simp only [Bool.not_eq_true'])

/-- Taking something off the front of a text adds no white space at its end. -/
theorem Trimmed.suffix {t u : Text} (h : Trimmed t) (hu : u <:+ t) : Trimmed u := by
  intro c hc
  obtain ⟨v, rfl⟩ := hu
  exact h c (by rw [List.getLast?_append, hc]; rfl)

/-- A blank text without white space at its end is empty. -/
theorem Trimmed.eq_nil_of_isBlank {t : Text} (h : Trimmed t) (hb : isBlank t = true) : t = [] := by
  cases hlast : t.getLast? with
  | none => exact List.getLast?_eq_none_iff.1 hlast
  | some c =>
    have hw := List.all_eq_true.1 hb c (List.mem_of_getLast? hlast)
    rw [h c hlast] at hw
    cases hw

/-! ## Lines that reading leaves alone -/

/-- A line as reading a source gives it: no newline, no tab, no white space at the end. -/
structure IsLine (l : Text) : Prop where
  noNewline : '\n' ∉ l
  noTab : '\t' ∉ l
  trimmed : ∀ c, l.getLast? = some c → isWhite c = false

theorem isLine_nil : IsLine [] := ⟨by simp, by simp, by simp⟩

/-- What is left of a line once something is taken off its front is a line. -/
theorem IsLine.suffix {l m : Text} (h : IsLine l) (hm : m <:+ l) : IsLine m :=
  ⟨fun hn => h.noNewline (hm.mem hn), fun ht => h.noTab (hm.mem ht), Trimmed.suffix h.trimmed hm⟩

theorem IsLine.append {l m : Text} (hl : '\n' ∉ l ∧ '\t' ∉ l) (hm : IsLine m) (hne : m ≠ []) :
    IsLine (l ++ m) := by
  refine ⟨?_, ?_, fun c hc => ?_⟩
  · simpa using ⟨hl.1, hm.noNewline⟩
  · simpa using ⟨hl.2, hm.noTab⟩
  · have hlast := List.getLast?_eq_some_getLast hne
    rw [List.getLast?_append, hlast] at hc
    exact hm.trimmed c (hlast.trans hc)

theorem isLine_of_trimEnd {l : Text} (h : '\n' ∉ l ∧ '\t' ∉ l ∧ trimEnd l = l) : IsLine l := by
  refine ⟨h.1, h.2.1, fun c hc => ?_⟩
  rw [← h.2.2] at hc
  exact isWhite_getLast_trimEnd hc

/-- A blank line that reading gives is empty. -/
theorem IsLine.eq_nil_of_isBlank {l : Text} (h : IsLine l) (hb : isBlank l = true) : l = [] :=
  Trimmed.eq_nil_of_isBlank h.trimmed hb

theorem isBlank_nil : isBlank [] = true := rfl

theorem expandTabsFrom_eq_self {t : Text} (h : '\t' ∉ t) (column : Nat) :
    expandTabsFrom column t = t := by
  induction t generalizing column with
  | nil => rfl
  | cons c t ih =>
    have hc : c ≠ '\t' := fun e => h (by simp [e])
    rw [expandTabsFrom, if_neg hc, ih fun ht => h (List.mem_cons_of_mem _ ht)]

theorem mem_expandTabsFrom {t : Text} {column : Nat} {c : Char}
    (h : c ∈ expandTabsFrom column t) : c = ' ' ∨ c ∈ t ∧ c ≠ '\t' := by
  induction t generalizing column with
  | nil => cases h
  | cons d t ih =>
    rw [expandTabsFrom] at h
    split at h
    · rcases List.mem_append.1 h with h | h
      · exact Or.inl (List.eq_of_mem_replicate h)
      · exact (ih h).imp_right fun ht => ⟨List.mem_cons_of_mem _ ht.1, ht.2⟩
    · next hd =>
      rcases List.mem_cons.1 h with rfl | h
      · exact Or.inr ⟨List.mem_cons_self .., hd⟩
      · exact (ih h).imp_right fun ht => ⟨List.mem_cons_of_mem _ ht.1, ht.2⟩

/-- A line as it is read. -/
def normalLine (l : Text) : Text := trimEnd (expandTabs l)

theorem normalLines_eq (source : Text) : normalLines source = (lines source).map normalLine := rfl

theorem normalLine_of_noTab {l : Text} (h : '\t' ∉ l) : normalLine l = trimEnd l := by
  rw [normalLine, expandTabs, expandTabsFrom_eq_self h]

/-- Reading leaves a line alone that is free of all it replaces and drops. -/
theorem IsLine.normalLine_eq {l : Text} (h : IsLine l) : normalLine l = l := by
  rw [normalLine_of_noTab h.noTab, trimEnd_eq_self h.trimmed]

theorem map_normalLine_eq {ls : List Text} (h : ∀ l ∈ ls, IsLine l) : ls.map normalLine = ls := by
  rw [List.map_congr_left fun l hl => (h l hl).normalLine_eq, List.map_id']

theorem isLine_normalLine {l : Text} (h : '\n' ∉ l) : IsLine (normalLine l) := by
  have hmem : ∀ c ∈ normalLine l, c = ' ' ∨ c ∈ l ∧ c ≠ '\t' := fun c hc =>
    mem_expandTabsFrom ((prefix_trimEnd _).subset hc)
  refine ⟨fun hn => ?_, fun ht => ?_, fun c hc => isWhite_getLast_trimEnd hc⟩
  · rcases hmem _ hn with e | ⟨hn, -⟩
    · cases e
    · exact h hn
  · rcases hmem _ ht with e | ⟨-, ht⟩
    · cases e
    · exact ht rfl

theorem isLine_of_mem_normalLines {source l : Text} (h : l ∈ normalLines source) : IsLine l := by
  obtain ⟨m, hm, rfl⟩ := List.mem_map.1 h
  exact isLine_normalLine (newline_not_mem_of_mem_lines hm)

/-- **Written lines are read back**, unless the last one is empty. -/
theorem normalLines_ofLines {ls : List Text} (h : ∀ l ∈ ls, IsLine l)
    (hlast : ls.getLast? ≠ some []) : normalLines (ofLines ls) = ls := by
  rw [normalLines_eq, lines_ofLines (fun l hl => (h l hl).noNewline) hlast, map_normalLine_eq h]

theorem normalLines_cons {l : Text} (h : IsLine l) (t : Text) :
    normalLines (l ++ '\n' :: t) = l :: normalLines t := by
  rw [normalLines_eq, lines_append_newline h.noNewline, List.map_cons, h.normalLine_eq,
    normalLines_eq]

/-- A blank line of a source is read as an empty one. -/
theorem eq_nil_of_mem_normalLines {source l : Text} (hl : l ∈ normalLines source)
    (hb : isBlank l = true) : l = [] :=
  (isLine_of_mem_normalLines hl).eq_nil_of_isBlank hb

/-! ## Blank lines at the end -/

/-- Whether the last line, if there is one, is not blank. -/
def EndsFilled (ls : List Text) : Prop := ∀ l, ls.getLast? = some l → isBlank l = false

instance (ls : List Text) : Decidable (EndsFilled ls) :=
  inferInstanceAs (Decidable (∀ l ∈ ls.getLast?, isBlank l = false))

theorem endsFilled_nil : EndsFilled [] := fun l hl => by cases hl

theorem endsFilled_dropTrailingBlanks (ls : List Text) : EndsFilled (dropTrailingBlanks ls) := by
  intro l hl
  have hne : ls.rdropWhile isBlank ≠ [] := by
    intro e
    change (ls.rdropWhile isBlank).getLast? = some l at hl
    rw [e] at hl
    cases hl
  have hnot := List.rdropWhile_last_not isBlank ls hne
  change (ls.rdropWhile isBlank).getLast? = some l at hl
  rw [List.getLast?_eq_some_getLast hne, Option.some.injEq] at hl
  rw [← hl]
  simpa using hnot

theorem dropTrailingBlanks_eq_self {ls : List Text} (h : EndsFilled ls) :
    dropTrailingBlanks ls = ls := by
  refine List.rdropWhile_eq_self_iff.2 fun hne => ?_
  rw [h _ (List.getLast?_eq_some_getLast hne)]
  simp

theorem prefix_dropTrailingBlanks (ls : List Text) : dropTrailingBlanks ls <+: ls :=
  List.rdropWhile_prefix isBlank ls

theorem EndsFilled.of_suffix {ls ms : List Text} (h : EndsFilled ls) (hm : ms <:+ ls) :
    EndsFilled ms := by
  intro l hl
  obtain ⟨front, rfl⟩ := hm
  exact h l (by rw [List.getLast?_append, hl]; rfl)

theorem EndsFilled.append {ls ms : List Text} (hm : EndsFilled ms) (hne : ms ≠ []) :
    EndsFilled (ls ++ ms) := by
  intro l hl
  rw [List.getLast?_append, List.getLast?_eq_some_getLast hne, Option.some_or] at hl
  exact hm l (by rw [List.getLast?_eq_some_getLast hne, hl])

theorem EndsFilled.cons {l : Text} {ls : List Text} (hl : isBlank l = false) (h : EndsFilled ls) :
    EndsFilled (l :: ls) := by
  cases ls with
  | nil =>
    intro x hx
    cases hx
    exact hl
  | cons m ls =>
    intro x hx
    rw [List.getLast?_cons_cons] at hx
    exact h x hx

theorem endsFilled_of_all {ls : List Text} (h : ∀ l ∈ ls, isBlank l = false) : EndsFilled ls :=
  fun l hl => h l (List.mem_of_getLast? hl)

theorem exists_blanks_of_dropTrailingBlanks (ls : List Text) :
    ∃ bs, (∀ l ∈ bs, isBlank l = true) ∧ ls = dropTrailingBlanks ls ++ bs :=
  ⟨ls.rtakeWhile isBlank, fun _ => List.mem_rtakeWhile_imp,
    List.rdropWhile_append_rtakeWhile.symm⟩

theorem mem_dropTrailingBlanks {ls : List Text} {l : Text} (hl : l ∈ ls) (hb : isBlank l = false) :
    l ∈ dropTrailingBlanks ls := by
  obtain ⟨bs, hbs, hls⟩ := exists_blanks_of_dropTrailingBlanks ls
  rw [hls] at hl
  rcases List.mem_append.1 hl with hl | hl
  · exact hl
  · rw [hbs l hl] at hb
    cases hb

theorem dropTrailingBlanks_append {ls bs : List Text} (h : ∀ l ∈ bs, isBlank l = true) :
    dropTrailingBlanks (ls ++ bs) = dropTrailingBlanks ls := by
  rw [dropTrailingBlanks, dropTrailingBlanks, List.reverse_append,
    List.dropWhile_append_of_pos fun l hl => h l (List.mem_reverse.1 hl)]

theorem dropTrailingBlanks_cons {l : Text} (hb : isBlank l = false) (ls : List Text) :
    dropTrailingBlanks (l :: ls) = l :: dropTrailingBlanks ls := by
  obtain ⟨bs, hbs, hls⟩ := exists_blanks_of_dropTrailingBlanks ls
  have hfilled : EndsFilled (l :: dropTrailingBlanks ls) :=
    (endsFilled_dropTrailingBlanks ls).cons hb
  conv_lhs => rw [hls, ← List.cons_append]
  rw [dropTrailingBlanks_append hbs, dropTrailingBlanks_eq_self hfilled]

end Text

end StructuredText

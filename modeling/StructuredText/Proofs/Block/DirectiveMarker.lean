import StructuredText.Block.DirectiveMarker
import StructuredText.Proofs.Text.Lines

/-!
# Directive markers, written and read

`IsDirectiveName` is the grammar of directive names. Reading goes as far as the grammar allows and
comes back where the colons after the name looked like a separator; it finds exactly the names of
the grammar (`of_directiveMarker?`), and a name of the grammar is found again where it was written
(`directiveMarker?_append`).
-/

namespace StructuredText

/-- What may stand of a directive name from some place in it on; `inRun` says whether a run of name
characters goes on there. -/
inductive NameRest : (inRun : Bool) → Text → Prop where
  | done : NameRest true []
  | char {inRun : Bool} {c : Char} {t : Text} (hc : isNameChar c = true) (ht : NameRest true t) :
      NameRest inRun (c :: t)
  | separator {c : Char} {t : Text} (hc : isNameSeparator c = true) (ht : NameRest false t) :
      NameRest true (c :: t)

/-- The names of directives: runs of name characters with single separators between them. -/
def IsDirectiveName (name : Text) : Prop := NameRest false name

theorem isNameChar_eq_false_of_separator {c : Char} (h : isNameSeparator c = true) :
    isNameChar c = false := by
  simp only [isNameSeparator, Bool.or_eq_true, beq_iff_eq] at h
  rcases h with (((rfl | rfl) | rfl) | rfl) | rfl
  · decide
  · decide
  · decide
  · decide
  · decide

theorem isNameChar_space : isNameChar ' ' = false := by decide

theorem isNameChar_colon : isNameChar ':' = false :=
  isNameChar_eq_false_of_separator rfl

theorem directiveName?_char (inRun : Bool) {c : Char} (hc : isNameChar c = true) (t : Text) :
    directiveName? inRun (c :: t) = (directiveName? true t).map fun p => (c :: p.1, p.2) := by
  rw [directiveName?, if_pos hc]

theorem directiveName?_false_of_not_char {c : Char} (hc : isNameChar c = false) (t : Text) :
    directiveName? false (c :: t) = none := by
  rw [directiveName?, if_neg (by simp [hc]), if_neg (by simp)]

theorem directiveName?_true_of_not_char {c : Char} (hc : isNameChar c = false) (t : Text) :
    directiveName? true (c :: t) =
      (if isNameSeparator c then (directiveName? false t).map fun p => (c :: p.1, p.2)
        else none).or ((terminator? (c :: t)).map fun rest => ([], rest)) := by
  rw [directiveName?, if_neg (by simp [hc]), if_pos rfl]

theorem terminator?_cases {after rest : Text} (h : terminator? after = some rest) :
    ∃ t, (after = ':' :: ':' :: t ∨ after = ' ' :: ':' :: ':' :: t) ∧ afterColons? t = some rest := by
  unfold terminator? at h
  split at h
  · exact ⟨_, Or.inr rfl, h⟩
  · exact ⟨_, Or.inl rfl, h⟩
  · cases h

/-- At the colons after a name, reading the name stops. -/
theorem directiveName?_terminator {after rest : Text} (h : terminator? after = some rest) :
    directiveName? true after = some ([], rest) := by
  obtain ⟨t, rfl | rfl, ht⟩ := terminator?_cases h
  · -- The first colon could be a separator, but no run begins with the second one.
    rw [directiveName?_true_of_not_char isNameChar_colon,
      directiveName?_false_of_not_char isNameChar_colon, h]
    rfl
  · rw [directiveName?_true_of_not_char isNameChar_space, h]
    rfl

theorem directiveName?_append {inRun : Bool} {name after rest : Text} (h : NameRest inRun name)
    (ht : terminator? after = some rest) :
    directiveName? inRun (name ++ after) = some (name, rest) := by
  induction h with
  | done => exact directiveName?_terminator ht
  | char hc _ ih =>
    rw [List.cons_append, directiveName?_char _ hc, ih]
    rfl
  | separator hc _ ih =>
    rw [List.cons_append,
      directiveName?_true_of_not_char (isNameChar_eq_false_of_separator hc), if_pos hc, ih]
    rfl

theorem of_directiveName? {inRun : Bool} {t name rest : Text}
    (h : directiveName? inRun t = some (name, rest)) :
    NameRest inRun name ∧ ∃ after, t = name ++ after ∧ terminator? after = some rest := by
  induction t generalizing inRun name with
  | nil => cases h
  | cons c t ih =>
    by_cases hc : isNameChar c = true
    · rw [directiveName?_char _ hc] at h
      obtain ⟨⟨name', rest'⟩, hp, he⟩ := Option.map_eq_some_iff.1 h
      simp only [Prod.mk.injEq] at he
      obtain ⟨rfl, rfl⟩ := he
      obtain ⟨hname, after, rfl, hafter⟩ := ih hp
      exact ⟨.char hc hname, after, rfl, hafter⟩
    · have hc : isNameChar c = false := by simpa using hc
      cases inRun with
      | false =>
        rw [directiveName?_false_of_not_char hc] at h
        cases h
      | true =>
        rw [directiveName?_true_of_not_char hc] at h
        -- Behind a run, a separator with a further run is tried before the colons.
        rcases Option.or_eq_some_iff.1 h with h | ⟨-, h⟩
        · split at h
          · next hsep =>
            obtain ⟨⟨name', rest'⟩, hp, he⟩ := Option.map_eq_some_iff.1 h
            simp only [Prod.mk.injEq] at he
            obtain ⟨rfl, rfl⟩ := he
            obtain ⟨hname, after, rfl, hafter⟩ := ih hp
            exact ⟨.separator hsep hname, after, rfl, hafter⟩
          · cases h
        · obtain ⟨rest', hrest, he⟩ := Option.map_eq_some_iff.1 h
          simp only [Prod.mk.injEq] at he
          obtain ⟨rfl, rfl⟩ := he
          exact ⟨.done, _, rfl, hrest⟩

/-! ## The marker on its line -/

theorem dropSpaces_suffix (t : Text) : dropSpaces t <:+ t := List.dropWhile_suffix _

theorem dropSpaces_of_head_ne {t : Text} (h : t.head? ≠ some ' ') : dropSpaces t = t := by
  cases t with
  | nil => rfl
  | cons c t =>
    have hc : (c == ' ') = false := by simpa using h
    simp [dropSpaces, hc]

theorem afterColons?_suffix {t rest : Text} (h : afterColons? t = some rest) : rest <:+ t := by
  unfold afterColons? at h
  split at h
  · cases h
    exact List.suffix_refl _
  · split at h
    · cases h
      exact (dropSpaces_suffix _).trans (List.suffix_cons _ _)
    · cases h

theorem terminator?_suffix {after rest : Text} (h : terminator? after = some rest) :
    rest <:+ after := by
  obtain ⟨t, rfl | rfl, ht⟩ := terminator?_cases h
  · exact (afterColons?_suffix ht).trans ((List.suffix_cons _ _).trans (List.suffix_cons _ _))
  · exact (afterColons?_suffix ht).trans
      ((List.suffix_cons _ _).trans ((List.suffix_cons _ _).trans (List.suffix_cons _ _)))

/-- **What is read from the line of a directive**: a name of the grammar, and an end of the line. -/
theorem of_directiveMarker? {line name rest : Text}
    (h : directiveMarker? line = some (name, rest)) : IsDirectiveName name ∧ rest <:+ line := by
  unfold directiveMarker? at h
  split at h
  · next t =>
    obtain ⟨hname, after, ht, hafter⟩ := of_directiveName? h
    have hrest : rest <:+ dropSpaces t := by
      rw [ht]
      exact (terminator?_suffix hafter).trans (List.suffix_append _ _)
    exact ⟨hname, hrest.trans ((dropSpaces_suffix t).trans (List.suffix_append ['.', '.', ' '] t))⟩
  · cases h

/-- The line of a directive before its text. -/
def markerHead (name : Text) : Text := ['.', '.', ' '] ++ name ++ [':', ':']

theorem NameRest.head_ne_space {name : Text} (h : IsDirectiveName name) (t : Text) :
    (name ++ t).head? ≠ some ' ' := by
  cases h with
  | char hc _ =>
    rw [List.cons_append, List.head?_cons, ne_eq, Option.some.injEq]
    rintro rfl
    rw [isNameChar_space] at hc
    cases hc

theorem directiveMarker?_append {name t rest : Text} (h : IsDirectiveName name)
    (ht : afterColons? t = some rest) :
    directiveMarker? (markerHead name ++ t) = some (name, rest) := by
  have hline : markerHead name ++ t = '.' :: '.' :: ' ' :: (name ++ ':' :: ':' :: t) := by
    simp [markerHead]
  rw [hline, directiveMarker?, dropSpaces_of_head_ne (NameRest.head_ne_space h _)]
  exact directiveName?_append h ht

/-- **A marker with text after it is read back.** -/
theorem directiveMarker?_marker {name first : Text} (h : IsDirectiveName name)
    (hf : first.head? ≠ some ' ') :
    directiveMarker? (if first = [] then markerHead name else markerHead name ++ ' ' :: first) =
      some (name, first) := by
  split
  · next hnil =>
    subst hnil
    rw [← List.append_nil (markerHead name)]
    exact directiveMarker?_append h rfl
  · refine directiveMarker?_append h ?_
    rw [afterColons?, if_pos rfl, dropSpaces_of_head_ne hf]

/-! ## Lines that begin explicit markup -/

theorem isExplicit_markerHead (name t : Text) : isExplicit (markerHead name ++ t) = true := rfl

theorem isExplicit_of_directiveMarker? {line : Text} {m : Text × Text}
    (h : directiveMarker? line = some m) : isExplicit line = true := by
  unfold directiveMarker? at h
  split at h
  · rfl
  · cases h

theorem exists_of_isExplicit {line : Text} (h : isExplicit line = true) :
    ∃ t, line = '.' :: t := by
  unfold isExplicit at h
  split at h
  · exact ⟨_, rfl⟩
  · exact ⟨_, rfl⟩
  · cases h

theorem isBlank_of_isExplicit {line : Text} (h : isExplicit line = true) :
    Text.isBlank line = false := by
  have hdot : isWhite '.' = false := by decide
  obtain ⟨t, rfl⟩ := exists_of_isExplicit h
  simp [Text.isBlank, hdot]

theorem indentation_of_isExplicit {line : Text} (h : isExplicit line = true) :
    Text.indentation line = 0 := by
  obtain ⟨t, rfl⟩ := exists_of_isExplicit h
  simp [Text.indentation]

theorem NameRest.noTab {inRun : Bool} {name : Text} (h : NameRest inRun name) :
    '\n' ∉ name ∧ '\t' ∉ name := by
  have hnot : ∀ c : Char, isNameChar c = true ∨ isNameSeparator c = true → c ≠ '\n' ∧ c ≠ '\t' := by
    rintro c hc
    constructor
    · rintro rfl
      revert hc
      decide
    · rintro rfl
      revert hc
      decide
  induction h with
  | done => simp
  | char hc _ ih =>
    have hne := hnot _ (Or.inl hc)
    simp only [List.mem_cons, not_or]
    exact ⟨⟨fun e => hne.1 e.symm, ih.1⟩, ⟨fun e => hne.2 e.symm, ih.2⟩⟩
  | separator hc _ ih =>
    have hne := hnot _ (Or.inr hc)
    simp only [List.mem_cons, not_or]
    exact ⟨⟨fun e => hne.1 e.symm, ih.1⟩, ⟨fun e => hne.2 e.symm, ih.2⟩⟩

end StructuredText

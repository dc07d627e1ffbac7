import StructuredText.Proofs.Text.Lowercase
import StructuredText.Proofs.Text.Words
import StructuredText.Text.Letters

/-!
# White space against letters and lower case

No white space is a letter or a number (`isAlphanumeric_of_isWhite`), and lower case makes no white
space (`isWhite_lowerChar`). Both come down to the white space characters, of which there are few, and
to the images of the lower-case table. So a text that begins and ends without white space still does
so in lower case (`BeginsWord.lowercase`, `Trimmed.lowercase`).
-/

namespace StructuredText

namespace CodePoints

/-- The members of a set whose last range ends. -/
def members : List Nat → List Nat
  | first :: stop :: bounds => List.range' first (stop - first) ++ members bounds
  | _ => []

theorem mem_members {bounds : List Nat} (heven : bounds.length % 2 = 0) {n : Nat}
    (h : insideOf bounds n = true) : n ∈ members bounds := by
  fun_induction members bounds with
  | case1 first stop bounds ih =>
    rw [List.mem_append, List.mem_range'_1]
    by_cases hfirst : n < first
    · rw [insideOf_of_lt hfirst] at h
      cases h
    · rw [insideOf_of_le (by omega)] at h
      by_cases hstop : n < stop
      · exact Or.inl ⟨by omega, by omega⟩
      · rw [insideOf_of_le (by omega), Bool.not_not] at h
        rw [List.length_cons, List.length_cons] at heven
        exact Or.inr (ih (by omega) h)
  | case2 bounds hshort =>
    cases bounds with
    | nil => cases h
    | cons first bounds =>
      cases bounds with
      -- A range that does not end would have members without limit.
      | nil => cases heven
      | cons stop bounds => exact absurd rfl (hshort first stop bounds)

end CodePoints

/-- No white space is a letter or a number. -/
theorem isAlphanumeric_of_isWhite {c : Char} (h : isWhite c = true) : isAlphanumeric c = false := by
  have hall : (CodePoints.members whiteSpace.bounds).all (fun n =>
      !(CodePoints.insideOf alphabetic.bounds n || CodePoints.insideOf numeric.bounds n)) = true := by
    decide +kernel
  have hmem : c.toNat ∈ CodePoints.members whiteSpace.bounds := CodePoints.mem_members rfl h
  have hnone := List.all_eq_true.1 hall _ hmem
  rw [Bool.not_eq_true'] at hnone
  exact hnone

/-! ## Lower case makes no white space -/

/-- The white space characters lie before or behind the images of every run of the table. -/
theorem images_filled : caseRuns.all (fun r => (CodePoints.members whiteSpace.bounds).all fun n =>
    Nat.blt n r.image || Nat.blt (r.image + (r.last - r.first)) n) = true := by
  decide +kernel

theorem isWhite_lowerChar {c : Char} (h : isWhite c = false) : isWhite (lowerChar c) = false := by
  cases hm : lowerCodePoint? c.toNat caseRuns with
  | none =>
    rw [lowerChar, hm]
    exact h
  | some m =>
    obtain ⟨r, hr, hrm⟩ := exists_run_of_lowerCodePoint? hm
    have hnat := toNat_image hr hrm
    rw [lowerChar, hm, ← Bool.not_eq_true]
    intro hwhite
    have hmem : (Char.ofNat m).toNat ∈ CodePoints.members whiteSpace.bounds :=
      CodePoints.mem_members rfl hwhite
    have hfilled := List.all_eq_true.1 (List.all_eq_true.1 images_filled r hr) _ hmem
    obtain ⟨⟨hfirst, hlast, -⟩, himage⟩ := CaseRun.image?_eq_some_iff.1 hrm
    simp only [hnat, Bool.or_eq_true, Nat.blt_eq] at hfilled
    omega

/-- What a character becomes in lower case: one or two characters, and none of them white space if the
character is not. -/
theorem exists_image (before : Text) (c : Char) (t : Text) :
    ∃ image : Text, lowercaseAfter before (c :: t) = image ++ lowercaseAfter (c :: before) t ∧
      image ≠ [] ∧ (isWhite c = false → ∀ d ∈ image, isWhite d = false) := by
  rw [lowercaseAfter]
  split
  · refine ⟨_, rfl, List.cons_ne_nil _ _, fun _ d hd => ?_⟩
    rw [List.mem_singleton.1 hd]
    split
    · decide
    · decide
  · split
    · refine ⟨_, rfl, List.cons_ne_nil _ _, fun _ d hd => ?_⟩
      rcases List.mem_cons.1 hd with rfl | hd
      · decide
      · rw [List.mem_singleton.1 hd]
        decide
    · refine ⟨_, rfl, List.cons_ne_nil _ _, fun hc d hd => ?_⟩
      rw [List.mem_singleton.1 hd]
      exact isWhite_lowerChar hc

namespace Text

theorem lowercaseAfter_ne_nil {t : Text} (h : t ≠ []) (before : Text) :
    lowercaseAfter before t ≠ [] := by
  cases t with
  | nil => exact absurd rfl h
  | cons c t =>
    obtain ⟨image, himage, hne, -⟩ := exists_image before c t
    rw [himage]
    exact List.append_ne_nil_of_left_ne_nil hne _

theorem BeginsWord.lowercase {t : Text} (h : BeginsWord t) : BeginsWord (lowercase t) := by
  obtain ⟨c, t, rfl, hc⟩ := h
  obtain ⟨image, himage, hne, hfilled⟩ := exists_image [] c t
  rw [StructuredText.lowercase, himage]
  cases image with
  | nil => exact absurd rfl hne
  | cons d image => exact ⟨d, _, rfl, hfilled hc d (List.mem_cons_self ..)⟩

theorem Trimmed.lowercaseAfter {t : Text} (h : Trimmed t) (before : Text) :
    Trimmed (lowercaseAfter before t) := by
  induction t generalizing before with
  | nil => exact h
  | cons c t ih =>
    obtain ⟨image, himage, -, hfilled⟩ := exists_image before c t
    rw [himage]
    by_cases hnil : t = []
    · -- The last character is the last one of the image.
      subst hnil
      intro d hd
      rw [StructuredText.lowercaseAfter, List.append_nil] at hd
      exact hfilled (h c rfl) d (List.mem_of_getLast? hd)
    · intro d hd
      rw [List.getLast?_append_of_ne_nil _ (lowercaseAfter_ne_nil hnil _)] at hd
      exact ih (h.suffix (List.suffix_cons c t)) _ d hd

theorem Trimmed.lowercase {t : Text} (h : Trimmed t) : Trimmed (lowercase t) := h.lowercaseAfter []

/-! ## What trimming leaves -/

theorem trimmed_trim (t : Text) : Trimmed (trim t) := fun _ hc => isWhite_getLast_trimEnd hc

theorem BeginsWord.trim_eq {t : Text} (h : BeginsWord t) (ht : Trimmed t) : trim t = t := by
  rw [trim, h.trimStart_eq, trimEnd_eq_self ht]

theorem BeginsWord.not_isBlank {t : Text} (h : BeginsWord t) : isBlank t = false := by
  obtain ⟨c, r, rfl, hc⟩ := h
  rw [isBlank, List.all_cons, hc, Bool.false_and]

/-- A text that is not blank begins with a word once it is trimmed. -/
theorem beginsWord_trim {t : Text} (h : isBlank t = false) : BeginsWord (trim t) := by
  have hne : trimStart t ≠ [] := by
    intro hnil
    rw [words_eq_nil_iff.1 (words_of_trimStart_nil hnil)] at h
    cases h
  obtain ⟨c, r, hr, hc⟩ := beginsWord_of_trimStart hne
  rw [trim, hr, trimEnd]
  split
  · exact ⟨c, [], by simp [hc], hc⟩
  · exact ⟨c, _, rfl, hc⟩

end Text

end StructuredText

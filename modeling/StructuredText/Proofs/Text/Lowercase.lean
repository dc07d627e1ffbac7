import StructuredText.Text.Lowercase

/-!
# Lower case is reached in one step

No character of a text in lower case has a further lower-case form: the runs of the table do not lead
into one another (`images_avoid`), and the two exceptions give characters outside of it. Hence lower
case is idempotent (`lowercase_lowercase`), and a name that was looked up in lower case is found
under it again.
-/

namespace StructuredText

/-- Whether a character is its own lower-case form, wherever it stands. -/
def IsSettled (c : Char) : Prop := c ≠ 'Σ' ∧ c ≠ 'İ' ∧ lowerChar c = c

namespace CaseRun

/-- Whether no image of the run `r` is in the run `s`: the images lie before or behind it, or between
its members. -/
def avoids (r s : CaseRun) : Bool :=
  Nat.blt (r.image + (r.last - r.first)) s.first || Nat.blt s.last r.image ||
    (Nat.beq s.step 2 && (Nat.beq r.step 2 || Nat.beq r.first r.last) &&
      Nat.beq ((r.image + s.first) % 2) 1)

/-- Whether the images of a run are characters, and none of them is one of the two exceptions. -/
def imagesPlain (r : CaseRun) : Bool :=
  (Nat.blt (r.image + (r.last - r.first)) 0xD800 ||
    (Nat.blt 0xDFFF r.image && Nat.blt (r.image + (r.last - r.first)) 0x110000)) &&
    r.avoids ⟨'Σ'.toNat, 'Σ'.toNat, 1, 0⟩ && r.avoids ⟨'İ'.toNat, 'İ'.toNat, 1, 0⟩

theorem image?_eq_some_iff {r : CaseRun} {n m : Nat} :
    r.image? n = some m ↔
      (r.first ≤ n ∧ n ≤ r.last ∧ (n - r.first) % r.step = 0) ∧ r.image + (n - r.first) = m := by
  unfold image?
  split
  · next h => simp [h]
  · next h => simp [h]

theorem image?_of_avoids {r s : CaseRun} (h : r.avoids s = true) {n m : Nat}
    (hr : r.image? n = some m) : s.image? m = none := by
  obtain ⟨⟨hfirst, hlast, hstep⟩, rfl⟩ := image?_eq_some_iff.1 hr
  cases hs : s.image? (r.image + (n - r.first)) with
  | none => rfl
  | some k =>
    obtain ⟨⟨hfirst', hlast', hstep'⟩, -⟩ := image?_eq_some_iff.1 hs
    simp only [avoids, Bool.or_eq_true, Bool.and_eq_true, Nat.blt_eq, Nat.beq_eq] at h
    rcases h with (h | h) | ⟨⟨h2, heven⟩, hodd⟩
    · omega
    · omega
    · -- Both runs go by twos, and one has the even numbers where the other has the odd ones.
      rw [h2] at hstep'
      rcases heven with heven | hone
      · rw [heven] at hstep
        omega
      · omega

end CaseRun

/-- **The images of the table's runs are in none of them.** -/
theorem images_avoid : caseRuns.all (fun r => caseRuns.all fun s => r.avoids s) = true := by
  decide +kernel

theorem images_plain : caseRuns.all CaseRun.imagesPlain = true := by decide +kernel

theorem lowerCodePoint?_eq_none {n : Nat} {rs : List CaseRun} (h : ∀ r ∈ rs, r.image? n = none) :
    lowerCodePoint? n rs = none := by
  induction rs with
  | nil => rfl
  | cons r rs ih =>
    rw [lowerCodePoint?]
    split
    · rfl
    · rw [h r (List.mem_cons_self ..), Option.none_or]
      exact ih fun s hs => h s (List.mem_cons_of_mem _ hs)

theorem exists_run_of_lowerCodePoint? {n m : Nat} {rs : List CaseRun}
    (h : lowerCodePoint? n rs = some m) : ∃ r ∈ rs, r.image? n = some m := by
  induction rs with
  | nil => cases h
  | cons r rs ih =>
    rw [lowerCodePoint?] at h
    split at h
    · cases h
    · rcases Option.or_eq_some_iff.1 h with h | ⟨-, h⟩
      · exact ⟨r, List.mem_cons_self .., h⟩
      · obtain ⟨s, hs, hsm⟩ := ih h
        exact ⟨s, List.mem_cons_of_mem _ hs, hsm⟩

/-- The images are code points of characters, since the last one of each run is. -/
theorem toNat_image {r : CaseRun} (hr : r ∈ caseRuns) {n m : Nat} (h : r.image? n = some m) :
    (Char.ofNat m).toNat = m := by
  have hplain := List.all_eq_true.1 images_plain r hr
  simp only [CaseRun.imagesPlain, Bool.and_eq_true, Bool.or_eq_true, Nat.blt_eq] at hplain
  obtain ⟨⟨hvalid, -⟩, -⟩ := hplain
  obtain ⟨⟨hfirst, hlast, -⟩, rfl⟩ := CaseRun.image?_eq_some_iff.1 h
  have hv : (r.image + (n - r.first)).isValidChar := by
    unfold Nat.isValidChar
    omega
  rw [Char.ofNat, dif_pos hv]
  rfl

/-- The image of a character is settled. -/
theorem isSettled_lowerChar {c : Char} (h1 : c ≠ 'Σ') (h2 : c ≠ 'İ') : IsSettled (lowerChar c) := by
  cases hm : lowerCodePoint? c.toNat caseRuns with
  | none =>
    have hc : lowerChar c = c := by rw [lowerChar, hm]
    rw [hc]
    exact ⟨h1, h2, hc⟩
  | some m =>
    have hc : lowerChar c = Char.ofNat m := by rw [lowerChar, hm]
    obtain ⟨r, hr, hrm⟩ := exists_run_of_lowerCodePoint? hm
    have hplain := List.all_eq_true.1 images_plain r hr
    simp only [CaseRun.imagesPlain, Bool.and_eq_true] at hplain
    obtain ⟨⟨-, hsigma⟩, hdotted⟩ := hplain
    have hnat := toNat_image hr hrm
    -- The exceptions count as runs of one character.
    have hexception : ∀ d : Char, r.avoids ⟨d.toNat, d.toNat, 1, 0⟩ = true → Char.ofNat m ≠ d := by
      rintro d hd rfl
      have hnone := CaseRun.image?_of_avoids hd hrm
      rw [hnat] at hnone
      simp [CaseRun.image?] at hnone
    refine hc ▸ ⟨hexception _ hsigma, hexception _ hdotted, ?_⟩
    rw [lowerChar, hnat, lowerCodePoint?_eq_none]
    intro s hs
    have havoid := List.all_eq_true.1 (List.all_eq_true.1 images_avoid r hr) s hs
    exact CaseRun.image?_of_avoids havoid hrm

/-- The characters of a text in lower case are settled. -/
theorem isSettled_of_mem_lowercaseAfter {before t : Text} {c : Char}
    (h : c ∈ lowercaseAfter before t) : IsSettled c := by
  induction t generalizing before with
  | nil => cases h
  | cons d t ih =>
    rw [lowercaseAfter] at h
    rcases List.mem_append.1 h with h | h
    · split at h
      · rw [List.mem_singleton] at h
        subst h
        split
        · unfold IsSettled
          decide +kernel
        · unfold IsSettled
          decide +kernel
      · next h1 =>
        split at h
        · rcases List.mem_cons.1 h with rfl | h
          · unfold IsSettled
            decide +kernel
          · rw [List.mem_singleton.1 h]
            unfold IsSettled
            decide +kernel
        · next h2 =>
          rw [List.mem_singleton.1 h]
          exact isSettled_lowerChar h1 h2
    · exact ih h

theorem lowercaseAfter_of_isSettled {t : Text} (h : ∀ c ∈ t, IsSettled c) (before : Text) :
    lowercaseAfter before t = t := by
  induction t generalizing before with
  | nil => rfl
  | cons c t ih =>
    obtain ⟨h1, h2, hc⟩ := h c (List.mem_cons_self ..)
    rw [lowercaseAfter, if_neg h1, if_neg h2, hc, ih fun d hd => h d (List.mem_cons_of_mem _ hd)]
    rfl

/-- **Lower case is idempotent.** -/
theorem lowercase_lowercase (t : Text) : lowercase (lowercase t) = lowercase t :=
  lowercaseAfter_of_isSettled (fun _ hc => isSettled_of_mem_lowercaseAfter hc) []

/-- A text is in lower case if each of its characters is. -/
theorem lowercase_eq_self_iff {t : Text} : lowercase t = t ↔ ∀ c ∈ t, IsSettled c := by
  constructor
  · intro h c hc
    rw [← h] at hc
    exact isSettled_of_mem_lowercaseAfter hc
  · intro h
    exact lowercaseAfter_of_isSettled h []

end StructuredText

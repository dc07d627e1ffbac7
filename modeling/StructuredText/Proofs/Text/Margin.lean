import StructuredText.Invocation.Rendering
import StructuredText.Proofs.Text.Lines

/-!
# The margin of a block

The margin is attained by some line that is not blank and bounds all others (`exists_margin`,
`margin_le`). Hence a block that is moved to the right as a whole and taken out of its margin is the
block taken out of its margin (`dropMargin_map_indentBy`), and a block is left alone exactly by the
margin zero. Lines that were read and that have a flush one among them are such a block (`AtMargin`).
-/

namespace StructuredText

namespace Text

theorem isBlank_replicate_append (n : Nat) (l : Text) :
    isBlank (List.replicate n ' ' ++ l) = isBlank l := by
  rw [isBlank, List.all_append]
  simp [isBlank, isWhite_space]

/-- Taking spaces off the front of a line does not make it blank, nor the other way round. -/
theorem isBlank_drop {l : Text} {n : Nat} (h : n ≤ indentation l) :
    isBlank (l.drop n) = isBlank l := by
  rw [← isBlank_replicate_append n (l.drop n), replicate_append_drop h]

theorem margin_of_all_blank {ls : List Text} (h : ∀ l ∈ ls, isBlank l = true) : margin ls = 0 := by
  have hnil : (ls.filter fun l => !isBlank l) = [] :=
    List.filter_eq_nil_iff.2 fun l hl => by simp [h l hl]
  simp [margin, hnil]

/-- A line that is not blank and not indented leaves no margin. -/
theorem margin_eq_zero {ls : List Text} {l : Text} (hl : l ∈ ls) (hb : isBlank l = false)
    (hi : indentation l = 0) : margin ls = 0 := by
  have := margin_le hl hb
  omega

/-! ## Taking a block out of its margin -/

theorem length_dropMargin (ls : List Text) : (dropMargin ls).length = ls.length := by
  simp [dropMargin]

/-- A line of a block, once the block is out of its margin. -/
theorem mem_dropMargin {ls : List Text} {x : Text} (h : x ∈ dropMargin ls) :
    ∃ l ∈ ls, x <:+ l ∧ isBlank x = isBlank l := by
  obtain ⟨l, hl, rfl⟩ := List.mem_map.1 h
  refine ⟨l, hl, ?_⟩
  split
  · next hb => exact ⟨List.nil_suffix, by rw [hb, isBlank_nil]⟩
  · next hb => exact ⟨List.drop_suffix _ _, isBlank_drop (margin_le hl (by simpa using hb))⟩

/-- Out of its margin, a block has no blank lines but empty ones. -/
theorem eq_nil_of_mem_dropMargin {ls : List Text} {x : Text} (h : x ∈ dropMargin ls)
    (hb : isBlank x = true) : x = [] := by
  obtain ⟨l, hl, rfl⟩ := List.mem_map.1 h
  by_cases hblank : isBlank l = true
  · rw [if_pos hblank]
  · rw [if_neg hblank, isBlank_drop (margin_le hl (by simpa using hblank))] at hb
    exact absurd hb hblank

/-- Taking lines out of their margin changes each by itself, and leaves blank ones blank. -/
theorem exists_dropMargin_eq_map (ls : List Text) :
    ∃ f : Text → Text, dropMargin ls = ls.map f ∧ (∀ l ∈ ls, isBlank (f l) = isBlank l) ∧
      f [] = [] := by
  refine ⟨_, rfl, fun l hl => ?_, rfl⟩
  split
  · next hb => rw [hb, isBlank_nil]
  · next hb => exact isBlank_drop (margin_le hl (by simpa using hb))

theorem isLine_of_mem_dropMargin {ls : List Text} (h : ∀ l ∈ ls, IsLine l) :
    ∀ l ∈ dropMargin ls, IsLine l := by
  intro x hx
  obtain ⟨l, hl, hsuffix, -⟩ := mem_dropMargin hx
  exact (h l hl).suffix hsuffix

theorem endsFilled_dropMargin {ls : List Text} (h : EndsFilled ls) : EndsFilled (dropMargin ls) := by
  intro x hx
  rw [dropMargin, List.getLast?_map] at hx
  obtain ⟨l, hl, rfl⟩ := Option.map_eq_some_iff.1 hx
  have hb := h l hl
  rw [if_neg (by simp [hb]), isBlank_drop (margin_le (List.mem_of_getLast? hl) hb), hb]

theorem dropMargin_eq_self {ls : List Text} (hm : margin ls = 0)
    (hb : ∀ l ∈ ls, isBlank l = true → l = []) : dropMargin ls = ls := by
  unfold dropMargin
  have hid : ∀ l ∈ ls, (if isBlank l then [] else l.drop (margin ls)) = l := by
    intro l hl
    split
    · next h => exact (hb l hl h).symm
    · rw [hm, List.drop_zero]
  rw [List.map_congr_left hid, List.map_id']

theorem margin_dropMargin (ls : List Text) : margin (dropMargin ls) = 0 := by
  by_cases hne : ∃ l ∈ ls, isBlank l = false
  · obtain ⟨l, hl, hb, hm⟩ := exists_margin hne
    have hmem : l.drop (margin ls) ∈ dropMargin ls :=
      List.mem_map.2 ⟨l, hl, by simp [hb]⟩
    refine margin_eq_zero hmem (by rw [isBlank_drop (by omega), hb]) ?_
    rw [indentation_drop (by omega)]
    omega
  · refine margin_of_all_blank fun x hx => ?_
    obtain ⟨l, hl, -, hb⟩ := mem_dropMargin hx
    rw [hb]
    cases h : isBlank l with
    | true => rfl
    | false => exact absurd ⟨l, hl, h⟩ hne

/-- Lines that are out of their margin: a blank one is empty, and some other one is not indented. -/
structure AtMargin (ls : List Text) : Prop where
  blank : ∀ l ∈ ls, isBlank l = true → l = []
  flush : ∃ l ∈ ls, isBlank l = false ∧ indentation l = 0

namespace AtMargin

variable {ls : List Text}

theorem dropMargin_eq (h : AtMargin ls) : dropMargin ls = ls := by
  obtain ⟨l, hl, hb, hi⟩ := h.flush
  exact dropMargin_eq_self (margin_eq_zero hl hb hi) h.blank

theorem ne_nil (h : AtMargin ls) : ls ≠ [] := by
  obtain ⟨l, hl, -⟩ := h.flush
  exact List.ne_nil_of_mem hl

theorem cons_nil (h : AtMargin ls) : AtMargin ([] :: ls) := by
  obtain ⟨l, hl, hflush⟩ := h.flush
  refine ⟨fun m hm hb => ?_, l, List.mem_cons_of_mem _ hl, hflush⟩
  rcases List.mem_cons.1 hm with rfl | hm
  · rfl
  · exact h.blank m hm hb

theorem of_append {front : List Text} (hfront : ∀ l ∈ front, isBlank l = true)
    (h : AtMargin (front ++ ls)) : AtMargin ls := by
  obtain ⟨l, hl, hb, hi⟩ := h.flush
  refine ⟨fun m hm => h.blank m (List.mem_append_right _ hm), l, ?_, hb, hi⟩
  rcases List.mem_append.1 hl with hl | hl
  · rw [hfront l hl] at hb
    cases hb
  · exact hl

theorem dropTrailingBlanks (h : AtMargin ls) : AtMargin (dropTrailingBlanks ls) := by
  obtain ⟨l, hl, hb, hi⟩ := h.flush
  exact ⟨fun m hm => h.blank m ((prefix_dropTrailingBlanks ls).subset hm), l,
    mem_dropTrailingBlanks hl hb, hb, hi⟩

end AtMargin

/-! ## Moving a block to the right -/

theorem indentBy_nil (n : Nat) : indentBy n [] = [] := rfl

theorem indentBy_of_ne_nil (n : Nat) {l : Text} (h : l ≠ []) :
    indentBy n l = List.replicate n ' ' ++ l := by
  rw [indentBy, if_neg h]

theorem indentBy_ne_nil {n : Nat} {l : Text} (h : l ≠ []) : indentBy n l ≠ [] := by
  rw [indentBy_of_ne_nil n h]
  simp [h]

theorem indentBy_indentBy (m n : Nat) (l : Text) :
    indentBy m (indentBy n l) = indentBy (m + n) l := by
  by_cases h : l = []
  · simp [h, indentBy_nil]
  · rw [indentBy_of_ne_nil m (indentBy_ne_nil h), indentBy_of_ne_nil n h, indentBy_of_ne_nil _ h,
      ← List.append_assoc, List.replicate_append_replicate]

theorem isBlank_indentBy (n : Nat) (l : Text) : isBlank (indentBy n l) = isBlank l := by
  by_cases h : l = []
  · rw [h, indentBy_nil]
  · rw [indentBy_of_ne_nil n h, isBlank_replicate_append]

theorem indentation_indentBy (n : Nat) {l : Text} (h : l ≠ []) :
    indentation (indentBy n l) = n + indentation l := by
  rw [indentBy_of_ne_nil n h, indentation_replicate_append]

theorem isLine_indentBy {n : Nat} {l : Text} (h : IsLine l) : IsLine (indentBy n l) := by
  by_cases hne : l = []
  · rw [hne, indentBy_nil]
    exact isLine_nil
  · rw [indentBy_of_ne_nil n hne]
    refine IsLine.append ⟨?_, ?_⟩ h hne
    · simp
    · simp

theorem drop_indentBy (n k : Nat) {l : Text} (h : l ≠ []) :
    (indentBy n l).drop (n + k) = l.drop k := by
  rw [indentBy_of_ne_nil n h, ← List.drop_drop, List.drop_left' (List.length_replicate ..)]

theorem ne_nil_of_not_isBlank {l : Text} (h : isBlank l = false) : l ≠ [] := by
  rintro rfl
  rw [isBlank_nil] at h
  cases h

theorem margin_map_indentBy (n : Nat) {ls : List Text} (hne : ∃ l ∈ ls, isBlank l = false) :
    margin (ls.map (indentBy n)) = n + margin ls := by
  obtain ⟨l, hl, hb, hm⟩ := exists_margin hne
  have hmem : indentBy n l ∈ ls.map (indentBy n) := List.mem_map_of_mem hl
  have hblank : isBlank (indentBy n l) = false := by rw [isBlank_indentBy, hb]
  have hle := margin_le hmem hblank
  rw [indentation_indentBy n (ne_nil_of_not_isBlank hb), hm] at hle
  obtain ⟨y, hy, hyb, hym⟩ := exists_margin ⟨_, hmem, hblank⟩
  obtain ⟨x, hx, rfl⟩ := List.mem_map.1 hy
  rw [isBlank_indentBy] at hyb
  rw [indentation_indentBy n (ne_nil_of_not_isBlank hyb)] at hym
  have hge := margin_le hx hyb
  omega

/-- **A block moved to the right as a whole is out of its margin what it was before.** -/
theorem dropMargin_map_indentBy (n : Nat) (ls : List Text) :
    dropMargin (ls.map (indentBy n)) = dropMargin ls := by
  unfold dropMargin
  rw [List.map_map]
  refine List.map_congr_left fun l hl => ?_
  rw [Function.comp_apply, isBlank_indentBy]
  split
  · rfl
  · next hb =>
    have hb : isBlank l = false := by simpa using hb
    rw [margin_map_indentBy n ⟨l, hl, hb⟩, drop_indentBy n _ (ne_nil_of_not_isBlank hb)]

theorem isBlank_of_mem_map_indentBy {n : Nat} {bs : List Text} (h : ∀ l ∈ bs, isBlank l = true) :
    ∀ l ∈ bs.map (indentBy n), isBlank l = true := by
  intro l hl
  obtain ⟨x, hx, rfl⟩ := List.mem_map.1 hl
  rw [isBlank_indentBy, h x hx]

theorem EndsFilled.map_indentBy {ls : List Text} (h : EndsFilled ls) (n : Nat) :
    EndsFilled (ls.map (indentBy n)) := by
  intro x hx
  rw [List.getLast?_map] at hx
  obtain ⟨l, hl, rfl⟩ := Option.map_eq_some_iff.1 hx
  rw [isBlank_indentBy, h l hl]

theorem dropTrailingBlanks_map_indentBy (n : Nat) (ls : List Text) :
    dropTrailingBlanks (ls.map (indentBy n)) = (dropTrailingBlanks ls).map (indentBy n) := by
  have hblank : isBlank ∘ indentBy n = isBlank := funext fun l => isBlank_indentBy n l
  rw [dropTrailingBlanks, dropTrailingBlanks, ← List.map_reverse, List.dropWhile_map, hblank,
    List.map_reverse]

end Text

end StructuredText

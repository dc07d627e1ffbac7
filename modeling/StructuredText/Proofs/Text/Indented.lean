import StructuredText.Proofs.Block.Boundary

/-!
# Texts moved to the right

A text is moved to the right by spaces in front of each of its lines (`indentLines`). Reading it gives
what reading the text gives, each line moved to the right (`normalLines_indentLines`): a line that was
blank stays so, and every other one is more indented by the number of spaces. The text has to be free
of tabs, since what a tab stands for depends on the column where it begins.
-/

namespace StructuredText

namespace Text

/-- The text with `n` spaces in front of each line that begins in it; `begins` says whether one begins
with its first character. -/
def indentLinesFrom (n : Nat) (begins : Bool) : Text → Text
  | [] => []
  | c :: t =>
    (if begins then List.replicate n ' ' else []) ++ c :: indentLinesFrom n (c == '\n') t

/-- The text with `n` spaces in front of each of its lines. -/
def indentLines (n : Nat) (t : Text) : Text := indentLinesFrom n true t

example : indentLines 2 "a\n\n b\n" = "  a\n  \n   b\n".toList := by decide

/-- Whether a line that is not blank begins without a space. -/
def HasFlushLine (t : Text) : Prop := ∃ l ∈ lines t, isBlank l = false ∧ indentation l = 0

/-! ## Its lines -/

theorem exists_lines_eq_cons (c : Char) (t : Text) : ∃ l ls, lines (c :: t) = l :: ls := by
  rw [lines]
  split
  · exact ⟨_, _, rfl⟩
  · split <;> exact ⟨_, _, rfl⟩

/-- What stands in front of a text on its first line becomes part of that line. -/
theorem lines_append {u t l : Text} {ls : List Text} (hu : '\n' ∉ u) (ht : lines t = l :: ls) :
    lines (u ++ t) = (u ++ l) :: ls := by
  induction u with
  | nil => exact ht
  | cons c u ih =>
    have hc : c ≠ '\n' := fun e => hu (by simp [e])
    rw [List.cons_append, lines, if_neg hc, ih fun h => hu (List.mem_cons_of_mem _ h)]
    rfl

/-- If no line begins with the first character, the first line is left as it is. -/
theorem lines_indentLinesFrom (n : Nat) (t : Text) :
    lines (indentLinesFrom n true t) = (lines t).map (List.replicate n ' ' ++ ·) ∧
      lines (indentLinesFrom n false t) =
        (lines t).take 1 ++ ((lines t).drop 1).map (List.replicate n ' ' ++ ·) := by
  induction t with
  | nil => exact ⟨rfl, rfl⟩
  | cons c t ih =>
    obtain ⟨ihBegins, ihGoesOn⟩ := ih
    have hgoesOn : lines (indentLinesFrom n false (c :: t)) = (lines (c :: t)).take 1 ++
        ((lines (c :: t)).drop 1).map (List.replicate n ' ' ++ ·) := by
      rw [indentLinesFrom, if_neg Bool.false_ne_true, List.nil_append]
      by_cases hc : c = '\n'
      · subst hc
        rw [beq_self_eq_true, lines, if_pos rfl, ihBegins, lines, if_pos rfl]
        rfl
      · rw [beq_false_of_ne hc, lines, if_neg hc, ihGoesOn, lines, if_neg hc]
        cases lines t with
        | nil => rfl
        | cons l ls => rfl
    refine ⟨?_, hgoesOn⟩
    have hspaces : '\n' ∉ List.replicate n ' ' := by simp
    obtain ⟨l, ls, hl⟩ := exists_lines_eq_cons c t
    have hbegins : indentLinesFrom n true (c :: t) =
        List.replicate n ' ' ++ indentLinesFrom n false (c :: t) := rfl
    rw [hl] at hgoesOn
    rw [hbegins, lines_append hspaces hgoesOn, hl]
    rfl

theorem lines_indentLines (n : Nat) (t : Text) :
    lines (indentLines n t) = (lines t).map (List.replicate n ' ' ++ ·) :=
  (lines_indentLinesFrom n t).1

/-! ## Reading it -/

theorem mem_of_mem_lines {t l : Text} (hl : l ∈ lines t) {c : Char} (hc : c ∈ l) : c ∈ t := by
  induction t generalizing l with
  | nil => cases hl
  | cons d t ih =>
    rw [lines] at hl
    split at hl
    · rcases List.mem_cons.1 hl with rfl | hl
      · cases hc
      · exact List.mem_cons_of_mem d (ih hl hc)
    · split at hl
      · rw [List.mem_singleton.1 hl, List.mem_singleton] at hc
        rw [hc]
        exact List.mem_cons_self ..
      · next m ms hms =>
        rcases List.mem_cons.1 hl with rfl | hl
        · rcases List.mem_cons.1 hc with rfl | hc
          · exact List.mem_cons_self ..
          · exact List.mem_cons_of_mem d (ih (by rw [hms]; exact List.mem_cons_self ..) hc)
        · exact List.mem_cons_of_mem d (ih (by rw [hms]; exact List.mem_cons_of_mem m hl) hc)

/-- Spaces in front of a line stay, unless there is nothing else on it. -/
theorem trimEnd_replicate_append (n : Nat) (l : Text) :
    trimEnd (List.replicate n ' ' ++ l) = indentBy n (trimEnd l) := by
  induction n with
  | zero =>
    rw [List.replicate_zero, List.nil_append, indentBy, List.replicate_zero, List.nil_append]
    split
    · next h => exact h
    · rfl
  | succ n ih =>
    rw [List.replicate_succ, List.cons_append, trimEnd, ih]
    by_cases h : trimEnd l = []
    · rw [h, indentBy_nil, indentBy_nil]
      rfl
    · rw [indentBy_of_ne_nil n h, indentBy_of_ne_nil (n + 1) h, List.replicate_succ,
        List.cons_append]
      cases hl : List.replicate n ' ' ++ trimEnd l with
      | nil => exact absurd (List.append_eq_nil_iff.1 hl).2 h
      | cons c u => rfl

theorem normalLine_replicate_append (n : Nat) {l : Text} (h : '\t' ∉ l) :
    normalLine (List.replicate n ' ' ++ l) = indentBy n (normalLine l) := by
  have hspaces : '\t' ∉ List.replicate n ' ' ++ l := by simpa using h
  rw [normalLine_of_noTab hspaces, normalLine_of_noTab h, trimEnd_replicate_append]

/-- **A text moved to the right is read as the text is read, moved to the right.** -/
theorem normalLines_indentLines (n : Nat) {t : Text} (ht : '\t' ∉ t) :
    normalLines (indentLines n t) = (normalLines t).map (indentBy n) := by
  rw [normalLines_eq, normalLines_eq, lines_indentLines, List.map_map, List.map_map]
  exact List.map_congr_left fun l hl =>
    normalLine_replicate_append n fun h => ht (mem_of_mem_lines hl h)

/-- The first line that is not blank. -/
theorem findIdx_normalLines (t : Text) :
    (normalLines t).findIdx (fun l => !isBlank l) = (lines t).findIdx fun l => !isBlank l := by
  rw [normalLines_eq, List.findIdx_map]
  congr 1
  funext l
  rw [Function.comp_apply, isBlank_normalLine]

theorem indentation_le_append (l u : Text) : indentation l ≤ indentation (l ++ u) := by
  rw [indentation, indentation, List.takeWhile_append]
  split
  · next hall =>
    rw [hall, List.length_append]
    exact Nat.le_add_right _ _
  · exact Nat.le_refl _

/-- A text without tabs that has a flush line is out of its margin once it is read. -/
theorem HasFlushLine.atMargin {t : Text} (h : t.HasFlushLine) (ht : '\t' ∉ t) :
    AtMargin (normalLines t) := by
  obtain ⟨l, hl, hb, hi⟩ := h
  have hplain : '\t' ∉ l := fun htab => ht (mem_of_mem_lines hl htab)
  refine ⟨fun m hm => eq_nil_of_mem_normalLines hm, _, List.mem_map_of_mem hl,
    by rw [← hb]; exact isBlank_normalLine l, ?_⟩
  show indentation (normalLine l) = 0
  rw [normalLine_of_noTab hplain]
  -- What is left of the line has no spaces in front that the line does not have.
  obtain ⟨u, hu⟩ := prefix_trimEnd l
  have hle := indentation_le_append (trimEnd l) u
  rw [hu] at hle
  omega

end Text

end StructuredText

import StructuredText.Text.Basic

/-!
# Lines

A source text is read line by line. A newline ends a line, and the last line needs none. Tabs are
replaced by spaces up to the next stop and white space at the end of a line is dropped, so that the
column of a character is its position in the line and a blank line is empty.

Structure is expressed by indentation, which is the number of leading spaces. The margin of a block
is the least indentation of its lines that are not blank; taking the block out of the margin keeps
the lines' relative positions.
-/

namespace StructuredText

/-- The distance between tab stops. -/
def tabWidth : Nat := 8

namespace Text

/-- The lines of a text; a newline at the very end begins no further line. -/
def lines : Text → List Text
  | [] => []
  | c :: t =>
    if c = '\n' then [] :: lines t
    else match lines t with
      | [] => [[c]]
      | l :: ls => (c :: l) :: ls

/-- Every tab replaced by spaces up to the next stop, for a text that begins at `column`. -/
def expandTabsFrom (column : Nat) : Text → Text
  | [] => []
  | c :: t =>
    if c = '\t' then
      let pad := tabWidth - column % tabWidth
      List.replicate pad ' ' ++ expandTabsFrom (column + pad) t
    else c :: expandTabsFrom (column + 1) t

/-- Every tab replaced by spaces up to the next stop. -/
def expandTabs (t : Text) : Text := expandTabsFrom 0 t

/-- The lines of a source, with tabs expanded and white space at their ends removed. -/
def normalLines (source : Text) : List Text :=
  (lines source).map fun l => trimEnd (expandTabs l)

/-- The number of leading spaces. -/
def indentation (l : Text) : Nat := (l.takeWhile (· == ' ')).length

/-- The least indentation of the lines that are not blank, and zero if all are. -/
def margin (ls : List Text) : Nat :=
  (((ls.filter fun l => !isBlank l).map indentation).min?).getD 0

/-- The lines without their common margin; blank lines become empty. -/
def dropMargin (ls : List Text) : List Text :=
  ls.map fun l => if isBlank l then [] else l.drop (margin ls)

/-- The lines without the blank ones at the end. -/
def dropTrailingBlanks (ls : List Text) : List Text :=
  (ls.reverse.dropWhile isBlank).reverse

/-- Whether a line continues an indented block: it is blank or indented. -/
def continuesBlock (l : Text) : Bool := isBlank l || decide (0 < indentation l)

/-- The sum of the indentations of all lines. -/
def totalIndentation : List Text → Nat
  | [] => 0
  | l :: ls => indentation l + totalIndentation ls

/-! ## Taking lines out of their margin -/

theorem margin_le {ls : List Text} {l : Text} (h : l ∈ ls) (hb : isBlank l = false) :
    margin ls ≤ indentation l := by
  have hmem : indentation l ∈ (ls.filter fun l => !isBlank l).map indentation :=
    List.mem_map.2 ⟨l, List.mem_filter.2 ⟨h, by simp [hb]⟩, rfl⟩
  unfold margin
  exact List.min?_getD_le_of_mem hmem

/-- The margin is the indentation of some line that is not blank. -/
theorem exists_margin {ls : List Text} (h : ∃ l ∈ ls, isBlank l = false) :
    ∃ l ∈ ls, isBlank l = false ∧ indentation l = margin ls := by
  obtain ⟨l, hl, hb⟩ := h
  unfold margin
  cases hm : ((ls.filter fun l => !isBlank l).map indentation).min? with
  | none =>
    rw [List.min?_eq_none_iff, List.map_eq_nil_iff, List.filter_eq_nil_iff] at hm
    simpa [hb] using hm l hl
  | some m =>
    obtain ⟨x, hx, rfl⟩ := List.mem_map.1 (List.min?_mem hm)
    obtain ⟨hx, hxb⟩ := List.mem_filter.1 hx
    exact ⟨x, hx, by simpa using hxb, rfl⟩

/-- If every line that is not blank is indented and there is such a line, the margin is positive. -/
theorem margin_pos {ls : List Text} {l : Text} (h : l ∈ ls) (hb : isBlank l = false)
    (hall : ∀ x ∈ ls, isBlank x = false → 0 < indentation x) : 0 < margin ls := by
  obtain ⟨x, hx, hxb, hm⟩ := exists_margin ⟨l, h, hb⟩
  rw [← hm]
  exact hall x hx hxb

theorem indentation_space_cons (t : Text) : indentation (' ' :: t) = indentation t + 1 := by
  simp [indentation]

theorem indentation_replicate_append (n : Nat) (t : Text) :
    indentation (List.replicate n ' ' ++ t) = n + indentation t := by
  induction n with
  | zero => simp
  | succ n ih =>
    rw [List.replicate_succ, List.cons_append, indentation_space_cons, ih]
    omega

/-- A line is some of the spaces that it is indented by, and the rest. -/
theorem replicate_append_drop {l : Text} {n : Nat} (h : n ≤ indentation l) :
    List.replicate n ' ' ++ l.drop n = l := by
  induction n generalizing l with
  | zero => rfl
  | succ n ih =>
    cases l with
    | nil => simp [indentation] at h
    | cons c t =>
      by_cases hc : c = ' '
      · subst hc
        rw [indentation_space_cons] at h
        rw [List.replicate_succ, List.cons_append, List.drop_succ_cons, ih (by omega)]
      · simp [indentation, hc] at h

/-- Removing leading spaces lowers the indentation by their number. -/
theorem indentation_drop {l : Text} {n : Nat} (h : n ≤ indentation l) :
    indentation (l.drop n) = indentation l - n := by
  have hl := indentation_replicate_append n (l.drop n)
  rw [replicate_append_drop h] at hl
  omega

theorem indentation_nil : indentation [] = 0 := rfl

/-- No line is further indented once it is out of the margin. -/
theorem indentation_dropMargin_le {ls : List Text} {l : Text} (h : l ∈ ls) :
    indentation (if isBlank l then [] else l.drop (margin ls)) ≤ indentation l := by
  split
  · simp [indentation_nil]
  · next hb =>
    rw [indentation_drop (margin_le h (by simpa using hb))]
    omega

/-- Lines changed without indenting any of them further are not further indented in total. -/
theorem totalIndentation_map_le {f : Text → Text} {ls : List Text}
    (h : ∀ l ∈ ls, indentation (f l) ≤ indentation l) :
    totalIndentation (ls.map f) ≤ totalIndentation ls := by
  induction ls with
  | nil => exact Nat.le_refl 0
  | cons l ls ih =>
    have hl := h l (List.mem_cons_self ..)
    have hls := ih fun x hx => h x (List.mem_cons_of_mem _ hx)
    simp only [List.map_cons, totalIndentation]
    omega

/-- If moreover one line is less indented than before, so are all lines in total. -/
theorem totalIndentation_map_lt {f : Text → Text} {ls : List Text} {a : Text} (ha : a ∈ ls)
    (hlt : indentation (f a) < indentation a) (h : ∀ l ∈ ls, indentation (f l) ≤ indentation l) :
    totalIndentation (ls.map f) < totalIndentation ls := by
  induction ls with
  | nil => cases ha
  | cons l ls ih =>
    have hls := fun x hx => h x (List.mem_cons_of_mem l hx)
    simp only [List.map_cons, totalIndentation]
    rcases List.mem_cons.1 ha with rfl | ha
    · have := totalIndentation_map_le hls
      omega
    · have hl := h l (List.mem_cons_self ..)
      have := ih ha hls
      omega

/-- Lines that are all indented, unless blank, are less indented once they are out of their
margin. -/
theorem totalIndentation_dropMargin_lt {ls : List Text} {l : Text} (h : l ∈ ls)
    (hb : isBlank l = false) (hall : ∀ x ∈ ls, isBlank x = false → 0 < indentation x) :
    totalIndentation (dropMargin ls) < totalIndentation ls := by
  unfold dropMargin
  refine totalIndentation_map_lt h ?_ fun x hx => indentation_dropMargin_le hx
  have hpos := margin_pos h hb hall
  have hle := margin_le h hb
  have hl : indentation (l.drop (margin ls)) = indentation l - margin ls := indentation_drop hle
  simp only [hb, Bool.false_eq_true, if_false, hl]
  omega

theorem totalIndentation_le_of_sublist {ls ms : List Text} (h : ls.Sublist ms) :
    totalIndentation ls ≤ totalIndentation ms := by
  induction h with
  | slnil => exact Nat.le_refl _
  | cons a _ ih =>
    simp only [totalIndentation]
    omega
  | cons_cons a _ ih =>
    simp only [totalIndentation]
    omega

end Text

end StructuredText

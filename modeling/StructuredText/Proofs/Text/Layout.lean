import Mathlib.Logic.Relation
import StructuredText.Proofs.Text.Indented
import StructuredText.Proofs.Text.Words

/-!
# What reading does not see

A source can be written in several ways that are read as the same lines: a line may end in a carriage
return and a newline, white space may stand at the end of a line, spaces up to the next tab stop may
stand for a tab, and blank lines may follow the last line. `Respells` has one case for each of these
at one place of a source, and `SameLayout` allows any number of them.

The layout of a source is its lines as they are read, up to the last that is not blank. Sources have
the same layout exactly if they differ in such ways only (`sameLayout_iff`): none of them changes the
layout (`layout_eq_of_respells`), and every source can be written as its layout
(`sameLayout_ofLines_layout`).

Structure: what is written at one place of a source changes the line where it stands and the lines
after it, whatever comes before (`exists_lastLine`), so that each case is about one line.
-/

namespace StructuredText

namespace Text

/-! ## The lines of a source -/

/-- The lines that a source is read as, up to the last one that is not blank. -/
def layout (s : Text) : List Text := dropTrailingBlanks (normalLines s)

/-- The pieces between the newlines are the lines, and at most an empty one after them. -/
theorem exists_blanks_cutAt (s : Text) :
    ∃ bs, (∀ l ∈ bs, isBlank l = true) ∧ cutAt '\n' s = lines s ++ bs := by
  induction s with
  | nil => exact ⟨[[]], by simp [isBlank_nil], rfl⟩
  | cons c t ih =>
    obtain ⟨bs, hbs, hcut⟩ := ih
    by_cases hc : c = '\n'
    · subst hc
      exact ⟨bs, hbs, by rw [cutAt_cons_sep, hcut, lines, if_pos rfl, List.cons_append]⟩
    · rw [cutAt, if_neg hc, lines, if_neg hc, hcut]
      cases ht : lines t with
      | cons l ls => exact ⟨bs, hbs, rfl⟩
      | nil =>
        -- Without lines there is nothing in the text, so that it is one empty piece.
        cases t with
        | nil => exact ⟨[], by simp, by rw [ht] at hcut; rw [← hcut]; rfl⟩
        | cons d t =>
          obtain ⟨l, ls, hl⟩ := exists_lines_eq_cons d t
          rw [hl] at ht
          cases ht

/-- The layout, from the pieces between the newlines. -/
theorem layout_eq (s : Text) : layout s = dropTrailingBlanks ((cutAt '\n' s).map normalLine) := by
  obtain ⟨bs, hbs, hcut⟩ := exists_blanks_cutAt s
  rw [hcut, List.map_append, dropTrailingBlanks_append]
  · rfl
  · intro l hl
    obtain ⟨m, hm, rfl⟩ := List.mem_map.1 hl
    rw [isBlank_normalLine, hbs m hm]

theorem layout_ofLines {ls : List Text} (h : ∀ l ∈ ls, '\n' ∉ l) :
    layout (ofLines ls) = dropTrailingBlanks (ls.map normalLine) := by
  cases ls with
  | nil => rfl
  | cons l ls => rw [layout_eq, cutAt_ofLines (List.cons_ne_nil l ls) h]

/-- The lines that a source is read as, written one below the other, have its layout. -/
theorem layout_ofLines_normalLines (s : Text) : layout (ofLines (normalLines s)) = layout s := by
  rw [layout_ofLines fun l hl => (isLine_of_mem_normalLines hl).noNewline,
    map_normalLine_eq fun l hl => isLine_of_mem_normalLines hl, layout]

/-! ## One place of a source -/

/-- The next tab stop after a column; there is one every eight columns. -/
def tabStop (column : Nat) : Nat := 8 * (column / 8 + 1)

theorem le_tabStop (k : Nat) : k ≤ tabStop k := by
  unfold tabStop
  omega

/-- The column at the end of a text. -/
def column (t : Text) : Nat :=
  t.foldl (fun k c => if c = '\n' then 0 else if c = '\t' then tabStop k else k + 1) 0

theorem column_concat (t : Text) (c : Char) :
    column (t ++ [c]) =
      if c = '\n' then 0 else if c = '\t' then tabStop (column t) else column t + 1 := by
  rw [column, List.foldl_append]
  rfl

theorem expandTabsFrom_append (k : Nat) (a b : Text) :
    expandTabsFrom k (a ++ b) =
      expandTabsFrom k a ++ expandTabsFrom (k + (expandTabsFrom k a).length) b := by
  induction a generalizing k with
  | nil => rfl
  | cons c a ih =>
    rw [List.cons_append, expandTabsFrom, expandTabsFrom]
    split
    · dsimp only
      rw [ih, List.append_assoc, List.length_append, List.length_replicate, Nat.add_assoc]
    · rw [ih, List.cons_append, List.length_cons, Nat.add_right_comm, Nat.add_assoc k]

theorem expandTabsFrom_tab (k : Nat) (t : Text) :
    expandTabsFrom k ('\t' :: t) =
      List.replicate (tabStop k - k) ' ' ++ expandTabsFrom (tabStop k) t := by
  have hpad : tabWidth - k % tabWidth = tabStop k - k := by
    unfold tabWidth tabStop
    omega
  rw [expandTabsFrom, if_pos rfl]
  dsimp only
  rw [hpad, Nat.add_sub_of_le (le_tabStop k)]

/-- **A source up to some place, and what follows.** Its last line stands in front of what follows, and
ends in the column where the source does. -/
theorem exists_lastLine (u : Text) :
    ∃ front l, '\n' ∉ l ∧ column u = (expandTabs l).length ∧
      ∀ v, cutAt '\n' (u ++ v) = front ++ cutAt '\n' (l ++ v) := by
  induction u using List.reverseRecOn with
  | nil => exact ⟨[], [], by simp, rfl, fun v => rfl⟩
  | append_singleton u c ih =>
    obtain ⟨front, l, hl, hcolumn, hcut⟩ := ih
    by_cases hc : c = '\n'
    · subst hc
      refine ⟨front ++ [l], [], by simp, by rw [column_concat, if_pos rfl]; rfl, fun v => ?_⟩
      rw [List.append_assoc, List.singleton_append, hcut, cutAt_append_sep hl, List.nil_append,
        List.append_assoc, List.singleton_append]
    · refine ⟨front, l ++ [c], by simpa [hl] using fun e => hc e.symm, ?_, fun v => ?_⟩
      · rw [column_concat, if_neg hc, hcolumn, expandTabs, expandTabs, expandTabsFrom_append,
          List.length_append, Nat.zero_add]
        by_cases htab : c = '\t'
        · subst htab
          rw [if_pos rfl, expandTabsFrom_tab, List.length_append, List.length_replicate,
            expandTabsFrom, List.length_nil, Nat.add_zero, Nat.add_sub_of_le (le_tabStop _)]
        · rw [if_neg htab, expandTabsFrom, if_neg htab]
          rfl
      · rw [List.append_assoc, List.append_assoc, List.singleton_append, hcut]

theorem trimEnd_append_white {w : Text} (hw : ∀ c ∈ w, isWhite c = true) (t : Text) :
    trimEnd (t ++ w) = trimEnd t := by
  induction w using List.reverseRecOn with
  | nil => rw [List.append_nil]
  | append_singleton w c ih =>
    rw [← List.append_assoc, trimEnd_concat_white (hw c (by simp)),
      ih fun d hd => hw d (List.mem_append_left _ hd)]

/-- White space at the end of a line is not read. -/
theorem normalLine_append_white {w : Text} (hw : ∀ c ∈ w, isWhite c = true) (l : Text) :
    normalLine (l ++ w) = normalLine l := by
  rw [normalLine, normalLine, expandTabs, expandTabsFrom_append]
  refine trimEnd_append_white (fun c hc => ?_) _
  rcases mem_expandTabsFrom hc with rfl | ⟨hc, -⟩
  · exact isWhite_space
  · exact hw c hc

/-- A tab is read as the spaces up to the next stop. -/
theorem normalLine_tab (l t : Text) :
    normalLine (l ++ '\t' :: t) =
      normalLine (l ++ (List.replicate (tabStop (expandTabs l).length - (expandTabs l).length) ' ' ++
        t)) := by
  have hspaces : ∀ n k, expandTabsFrom k (List.replicate n ' ' ++ t) =
      List.replicate n ' ' ++ expandTabsFrom (k + n) t := by
    intro n k
    rw [expandTabsFrom_append, expandTabsFrom_eq_self (by simp), List.length_replicate]
  rw [normalLine, normalLine, expandTabs, expandTabs, expandTabsFrom_append,
    expandTabsFrom_append 0 l, expandTabsFrom_tab, hspaces, Nat.zero_add, expandTabs,
    Nat.add_sub_of_le (le_tabStop _)]

/-! ## Spellings -/

/-- Two spellings of a source that differ at one place, in a way that reading does not see. -/
inductive Respells : Text → Text → Prop where
  /-- A line ends in a newline, or in a carriage return and a newline. -/
  | carriageReturn (u v : Text) : Respells (u ++ '\n' :: v) (u ++ '\r' :: '\n' :: v)
  /-- White space stands at the end of a line. -/
  | lineEnd (u v : Text) {w : Text} (hw : ∀ c ∈ w, isWhite c = true ∧ c ≠ '\n') :
      Respells (u ++ '\n' :: v) (u ++ (w ++ '\n' :: v))
  /-- The spaces up to the next stop stand in place of a tab. -/
  | tab (u v : Text) :
      Respells (u ++ '\t' :: v) (u ++ (List.replicate (tabStop (column u) - column u) ' ' ++ v))
  /-- Blank lines, or white space, stand at the end of the source. -/
  | textEnd (u : Text) {w : Text} (hw : ∀ c ∈ w, isWhite c = true) : Respells u (u ++ w)

/-- Sources that differ only in such ways, at any number of places. -/
def SameLayout : Text → Text → Prop := Relation.EqvGen Respells

/-- What follows a place on its line, and the lines below. -/
theorem cutAt_append_eq_cons {a : Text} (ha : '\n' ∉ a) (v : Text) :
    cutAt '\n' (a ++ v) = (a ++ firstLine v) :: laterLines v := by
  rw [cutAt_append ha]
  simp only [cutAt_eq_cons, List.head_cons, List.tail_cons]

theorem layout_lineEnd (u v : Text) {w : Text} (hw : ∀ c ∈ w, isWhite c = true ∧ c ≠ '\n') :
    layout (u ++ '\n' :: v) = layout (u ++ (w ++ '\n' :: v)) := by
  obtain ⟨front, l, hl, -, hcut⟩ := exists_lastLine u
  have hlw : '\n' ∉ l ++ w := by
    rw [List.mem_append, not_or]
    exact ⟨hl, fun h => (hw _ h).2 rfl⟩
  rw [layout_eq, layout_eq, hcut, hcut, ← List.append_assoc, cutAt_append_sep hl,
    cutAt_append_sep hlw, List.map_append, List.map_append, List.map_cons, List.map_cons,
    normalLine_append_white fun c hc => (hw c hc).1]

theorem layout_tab (u v : Text) :
    layout (u ++ '\t' :: v) =
      layout (u ++ (List.replicate (tabStop (column u) - column u) ' ' ++ v)) := by
  obtain ⟨front, l, hl, hcolumn, hcut⟩ := exists_lastLine u
  have htab : '\n' ∉ l ++ ['\t'] := by simp [hl]
  have hspaces : '\n' ∉ l ++ List.replicate (tabStop (column u) - column u) ' ' := by simp [hl]
  rw [layout_eq, layout_eq, hcut, hcut, ← List.append_assoc, cutAt_append_eq_cons hspaces,
    List.append_cons, cutAt_append_eq_cons htab, List.map_append, List.map_append, List.map_cons,
    List.map_cons, List.append_assoc, List.singleton_append, normalLine_tab, List.append_assoc,
    hcolumn]

theorem layout_textEnd (u : Text) {w : Text} (hw : ∀ c ∈ w, isWhite c = true) :
    layout u = layout (u ++ w) := by
  obtain ⟨front, l, hl, -, hcut⟩ := exists_lastLine u
  have hpiece : ∀ m ∈ cutAt '\n' w, ∀ c ∈ m, isWhite c = true := fun m hm c hc =>
    hw c (mem_of_mem_cutAt hm hc)
  have hnil := hcut []
  rw [List.append_nil, List.append_nil, cutAt_of_not_mem hl] at hnil
  rw [layout_eq, layout_eq, hnil, hcut, cutAt_append_eq_cons hl, List.map_append, List.map_append,
    List.map_cons, List.map_cons, List.map_nil,
    normalLine_append_white (hpiece _ (firstLine_mem_cutAt w)), List.append_cons _ _ (List.map _ _)]
  refine (dropTrailingBlanks_append fun m hm => ?_).symm
  obtain ⟨x, hx, rfl⟩ := List.mem_map.1 hm
  rw [isBlank_normalLine]
  exact List.all_eq_true.2 (hpiece x (List.mem_of_mem_tail hx))

theorem layout_eq_of_respells {s t : Text} (h : Respells s t) : layout s = layout t := by
  cases h with
  | carriageReturn u v =>
    have hreturn : isWhite '\r' = true ∧ '\r' ≠ '\n' := by decide
    exact layout_lineEnd u v (List.forall_mem_singleton.2 hreturn)
  | lineEnd u v hw => exact layout_lineEnd u v hw
  | tab u v => exact layout_tab u v
  | textEnd _ hw => exact layout_textEnd s hw

theorem SameLayout.layout_eq {s t : Text} (h : SameLayout s t) : layout s = layout t := by
  induction h with
  | rel s t h => exact layout_eq_of_respells h
  | refl s => rfl
  | symm s t _ ih => exact ih.symm
  | trans s t u _ _ ih ih' => exact ih.trans ih'

/-! ## Every source can be written as its layout -/

namespace SameLayout

/-- Tabs can be replaced, one after the other. -/
theorem exists_noTab (s : Text) : ∃ t, SameLayout s t ∧ '\t' ∉ t := by
  induction hn : s.count '\t' generalizing s with
  | zero => exact ⟨s, .refl s, List.count_eq_zero.1 hn⟩
  | succ n ih =>
    have hmem : '\t' ∈ s := List.count_pos_iff.1 (by omega)
    obtain ⟨u, v, rfl⟩ := List.append_of_mem hmem
    have hcount : (u ++ (List.replicate (tabStop (column u) - column u) ' ' ++ v)).count '\t' = n := by
      rw [List.count_append, List.count_cons_self] at hn
      rw [List.count_append, List.count_append, List.count_eq_zero_of_not_mem (l := List.replicate _ _)
        (by simp)]
      omega
    obtain ⟨t, ht, htab⟩ := ih _ hcount
    exact ⟨t, .trans _ _ _ (.rel _ _ (.tab u v)) ht, htab⟩

/-- White space at the end of the lines can be left out, below any other lines. -/
theorem ofLines_trimEnd (u : Text) {ls : List Text} (h : ∀ l ∈ ls, '\n' ∉ l) :
    SameLayout (u ++ ofLines ls) (u ++ ofLines (ls.map trimEnd)) := by
  induction ls generalizing u with
  | nil => exact .refl _
  | cons l ls ih =>
    obtain ⟨w, hlw, hw⟩ := exists_trimEnd_append l
    have hwhite : ∀ c ∈ w, isWhite c = true := List.all_eq_true.1 hw
    cases ls with
    | nil =>
      have hrel := Respells.textEnd (u ++ trimEnd l) hwhite
      rw [List.append_assoc, ← hlw] at hrel
      exact .symm _ _ (.rel _ _ hrel)
    | cons m ls =>
      have hnewline : ∀ c ∈ w, isWhite c = true ∧ c ≠ '\n' := fun c hc =>
        ⟨hwhite c hc, fun e => h l (List.mem_cons_self ..) (by rw [hlw, ← e]; simp [hc])⟩
      have hrel := Respells.lineEnd (u ++ trimEnd l) (ofLines (m :: ls)) hnewline
      rw [List.append_assoc, List.append_assoc, ← List.append_assoc (trimEnd l) w, ← hlw] at hrel
      have hrest := ih (u ++ trimEnd l ++ ['\n']) fun x hx => h x (List.mem_cons_of_mem _ hx)
      rw [List.append_assoc, List.append_assoc, List.append_assoc, List.append_assoc] at hrest
      rw [ofLines_cons_cons, List.map_cons, List.map_cons, ofLines_cons_cons]
      exact .trans _ _ _ (.symm _ _ (.rel _ _ hrel)) hrest

end SameLayout

theorem isBlank_ofLines {bs : List Text} (h : ∀ l ∈ bs, isBlank l = true) :
    isBlank (ofLines bs) = true := by
  rw [← words_eq_nil_iff, words_ofLines, List.flatMap_eq_nil_iff]
  exact fun l hl => words_eq_nil_iff.2 (h l hl)

/-- Blank lines below others are white space behind them. -/
theorem exists_ofLines_append (ls : List Text) {bs : List Text} (h : ∀ l ∈ bs, isBlank l = true) :
    ∃ w, isBlank w = true ∧ ofLines (ls ++ bs) = ofLines ls ++ w := by
  induction ls with
  | nil => exact ⟨ofLines bs, isBlank_ofLines h, rfl⟩
  | cons l ls ih =>
    cases ls with
    | nil =>
      cases bs with
      | nil => exact ⟨[], rfl, (List.append_nil _).symm⟩
      | cons b bs => exact ⟨'\n' :: ofLines (b :: bs), isBlank_ofLines h, ofLines_cons_cons l b bs⟩
    | cons m ls =>
      obtain ⟨w, hw, hlines⟩ := ih
      refine ⟨w, hw, ?_⟩
      rw [List.cons_append, List.cons_append, ofLines_cons_cons, ofLines_cons_cons, ← List.cons_append,
        hlines, List.append_assoc, List.cons_append]

/-- **Every source can be written as its layout**, one line below the other. -/
theorem sameLayout_ofLines_layout (s : Text) : SameLayout s (ofLines (layout s)) := by
  obtain ⟨t, hst, htab⟩ := SameLayout.exists_noTab s
  have htrim := SameLayout.ofLines_trimEnd [] fun l (hl : l ∈ cutAt '\n' t) =>
    sep_not_mem_of_mem_cutAt hl
  rw [List.nil_append, List.nil_append, ofLines_cutAt] at htrim
  have hlines : (cutAt '\n' t).map trimEnd = (cutAt '\n' t).map normalLine :=
    List.map_congr_left fun l hl =>
      (normalLine_of_noTab fun h => htab (mem_of_mem_cutAt hl h)).symm
  obtain ⟨bs, hbs, hall⟩ := exists_blanks_of_dropTrailingBlanks ((cutAt '\n' t).map normalLine)
  rw [hlines, hall, ← layout_eq, ← hst.layout_eq] at htrim
  obtain ⟨w, hw, hend⟩ := exists_ofLines_append (layout s) hbs
  rw [hend] at htrim
  have htextEnd := Respells.textEnd (ofLines (layout s)) (List.all_eq_true.1 hw)
  exact .trans _ _ _ hst (.trans _ _ _ htrim (.symm _ _ (.rel _ _ htextEnd)))

/-- **Sources have the same layout exactly if reading does not tell them apart**, blank lines at the
end aside. -/
theorem sameLayout_iff {s t : Text} : SameLayout s t ↔ layout s = layout t := by
  refine ⟨SameLayout.layout_eq, fun h => ?_⟩
  have hs := sameLayout_ofLines_layout s
  rw [h] at hs
  exact .trans _ _ _ hs (.symm _ _ (sameLayout_ofLines_layout t))

end Text

end StructuredText

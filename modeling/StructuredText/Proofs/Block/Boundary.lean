import StructuredText.Proofs.Block.Chunk

/-!
# Where lines can be cut

Whatever stands open at the end of some lines, a quote, the block of a directive, a comment, or a
paragraph that has announced a literal block, a blank line and then one that is not indented put an
end to it. So lines followed by such lines have the chunks of the former and those of the latter,
further down (`chunksFrom_append`).

Two sources with a blank line between them have the lines of the former, a few blank lines, and the
lines of the latter (`exists_lines_append`).
-/

namespace StructuredText

namespace Text

/-! ## Two sources -/

/-- The first line of a text that is not blank, if there is one, begins without space. -/
def BeginsFlush (t : Text) : Prop :=
  ∀ l, (lines t).find? (fun l => !isBlank l) = some l → l.head? ≠ some ' ' ∧ l.head? ≠ some '\t'

/-- **The lines of two sources with a blank line between them.** The first line of the second source
has as many lines before it as there are newlines. -/
theorem exists_lines_append (s₁ s₂ : Text) :
    ∃ n, lines (s₁ ++ '\n' :: '\n' :: s₂) = lines s₁ ++ List.replicate (n + 1) [] ++ lines s₂ ∧
      (lines s₁).length + (n + 1) = s₁.count '\n' + 2 := by
  induction s₁ with
  | nil => exact ⟨1, rfl, rfl⟩
  | cons c t ih =>
    obtain ⟨n, hlines, hlength⟩ := ih
    by_cases hc : c = '\n'
    · subst hc
      refine ⟨n, ?_, ?_⟩
      · rw [List.cons_append, lines, if_pos rfl, lines, if_pos rfl, hlines]
        rfl
      · rw [lines, if_pos rfl, List.length_cons, List.count_cons_self]
        omega
    · rw [List.cons_append, lines, if_neg hc, lines, if_neg hc, hlines, List.count_cons_of_ne hc]
      cases ht : lines t with
      | nil =>
        -- The line that the character makes takes the place of a blank one.
        rw [ht, List.length_nil] at hlength
        obtain ⟨m, rfl⟩ : ∃ m, n = m + 1 := ⟨n - 1, by omega⟩
        refine ⟨m, rfl, ?_⟩
        show 1 + (m + 1) = _
        omega
      | cons l ls =>
        rw [ht] at hlength
        exact ⟨n, rfl, hlength⟩

theorem isBlank_trimEnd (t : Text) : isBlank (trimEnd t) = isBlank t := by
  induction t with
  | nil => rfl
  | cons c t ih =>
    have hcons : ∀ u : Text, isBlank (c :: u) = (isWhite c && isBlank u) := fun u => List.all_cons
    rw [trimEnd, hcons]
    split
    · next ht =>
      have hblank : isBlank t = true := by
        rw [← ih, ht]
        rfl
      split
      · next hc => rw [hc, hblank]; rfl
      · next hc => rw [hcons, hblank]; rfl
    · rw [hcons, ih]

theorem isBlank_expandTabsFrom (column : Nat) (t : Text) :
    isBlank (expandTabsFrom column t) = isBlank t := by
  induction t generalizing column with
  | nil => rfl
  | cons c t ih =>
    rw [expandTabsFrom]
    split
    · next hc =>
      have hpad : ∀ n, isBlank (List.replicate n ' ') = true := fun n =>
        List.all_eq_true.2 fun d hd => by rw [List.eq_of_mem_replicate hd]; rfl
      subst hc
      show (List.replicate _ ' ' ++ expandTabsFrom _ t).all isWhite = _
      rw [List.all_append]
      show (isBlank (List.replicate _ ' ') && isBlank (expandTabsFrom _ t)) = _
      rw [hpad, ih]
      rfl
    · show (isWhite c && isBlank (expandTabsFrom _ t)) = _
      rw [ih]
      rfl

/-- Reading a line neither makes it blank nor fills it. -/
theorem isBlank_normalLine (l : Text) : isBlank (normalLine l) = isBlank l := by
  rw [normalLine, isBlank_trimEnd, expandTabs, isBlank_expandTabsFrom]

/-- The first line of such a text that is not blank is not indented once tabs are expanded. -/
theorem BeginsFlush.indentation_eq {t : Text} (h : t.BeginsFlush) {l : Text}
    (hl : (normalLines t).find? (fun l => !isBlank l) = some l) : indentation l = 0 := by
  have hblank : (fun l => !isBlank l) ∘ normalLine = fun l => !isBlank l := by
    funext m
    rw [Function.comp_apply, isBlank_normalLine]
  rw [normalLines_eq, List.find?_map, hblank] at hl
  obtain ⟨m, hm, rfl⟩ := Option.map_eq_some_iff.1 hl
  obtain ⟨hspace, htab⟩ := h m hm
  cases m with
  | nil => rfl
  | cons c u =>
    have hc : c ≠ ' ' := fun e => hspace (by rw [e]; rfl)
    have hc' : c ≠ '\t' := fun e => htab (by rw [e]; rfl)
    rw [normalLine, expandTabs, expandTabsFrom, if_neg hc', trimEnd]
    split
    · split
      · rfl
      · simp [indentation, hc]
    · simp [indentation, hc]

/-- Lines that put an end to whatever stands open: they begin with a blank one, and the first that is
not blank is not indented. -/
structure StartsAnew (ls : List Text) : Prop where
  head : ∀ l, ls.head? = some l → isBlank l = true
  flush : ∀ l, ls.find? (fun l => !isBlank l) = some l → indentation l = 0

theorem startsAnew_replicate (n : Nat) {ls : List Text}
    (h : ∀ l, ls.find? (fun l => !isBlank l) = some l → indentation l = 0) :
    StartsAnew (List.replicate (n + 1) [] ++ ls) := by
  refine ⟨fun l hl => ?_, fun l hl => ?_⟩
  · cases hl
    rfl
  · have hnone : (List.replicate (n + 1) ([] : Text)).find? (fun l => !isBlank l) = none := by
      simp [isBlank_nil]
    rw [List.find?_append, hnone, Option.none_or] at hl
    exact h l hl

/-- Two sources with a blank line between them, line by line. -/
theorem exists_normalLines_append {s₂ : Text} (h : s₂.BeginsFlush) (s₁ : Text) :
    ∃ n, normalLines (s₁ ++ '\n' :: '\n' :: s₂) =
        normalLines s₁ ++ (List.replicate (n + 1) [] ++ normalLines s₂) ∧
      (normalLines s₁).length + (n + 1) = s₁.count '\n' + 2 ∧
        StartsAnew (List.replicate (n + 1) [] ++ normalLines s₂) := by
  obtain ⟨n, hlines, hlength⟩ := exists_lines_append s₁ s₂
  refine ⟨n, ?_, ?_, startsAnew_replicate n fun l hl => h.indentation_eq hl⟩
  · rw [normalLines, hlines, List.map_append, List.map_append, List.map_replicate, List.append_assoc]
    rfl
  · rw [normalLines, List.length_map, hlength]

namespace StartsAnew

variable {ls : List Text}

theorem of_head_dropWhile (h : StartsAnew ls) {l : Text}
    (hl : (ls.dropWhile isBlank).head? = some l) : isBlank l = false ∧ indentation l = 0 := by
  refine ⟨List.head_dropWhile_stop hl, h.flush l ?_⟩
  rw [List.find?_eq_head?_dropWhile_not]
  simpa using hl

/-- The blank lines at the front are all that could continue a block. -/
theorem cut (h : StartsAnew ls) : ls.takeWhile continuesBlock = ls.takeWhile isBlank ∧
    ls.dropWhile continuesBlock = ls.dropWhile isBlank := by
  have hblank : ∀ l ∈ ls.takeWhile isBlank, continuesBlock l = true := fun l hl => by
    rw [continuesBlock, List.of_mem_takeWhile hl, Bool.true_or]
  have hstop : ∀ l, (ls.dropWhile isBlank).head? = some l → continuesBlock l = false := by
    intro l hl
    obtain ⟨hb, hi⟩ := h.of_head_dropWhile hl
    rw [continuesBlock, hb, hi]
    rfl
  have happend : ls.takeWhile isBlank ++ ls.dropWhile isBlank = ls := List.takeWhile_append_dropWhile
  constructor
  · conv_lhs => rw [← happend]
    exact List.takeWhile_append_stop hblank hstop
  · conv_lhs => rw [← happend]
    exact List.dropWhile_append_stop hblank hstop

end StartsAnew

end Text

/-! ## Chunks -/

open Text (isBlank continuesBlock StartsAnew)

/-- Blank lines in front belong to no chunk. -/
theorem chunksFrom_blanks (literal : Bool) (index : Nat) {bs : List Text}
    (h : ∀ l ∈ bs, isBlank l = true) (ls : List Text) :
    chunksFrom literal index (bs ++ ls) = chunksFrom literal (index + bs.length) ls := by
  induction bs generalizing index with
  | nil => rfl
  | cons b bs ih =>
    rw [List.cons_append, chunksFrom, if_pos (h b (List.mem_cons_self ..)),
      ih (index + 1) fun l hl => h l (List.mem_cons_of_mem _ hl), List.length_cons]
    congr 1
    omega

section StartsAnew

variable {rest : List Text} (h : StartsAnew rest)

include h

/-- An announced literal block does not begin with a line that is not indented. -/
theorem chunksFrom_literal (literal : Bool) (index : Nat) :
    chunksFrom literal index rest =
      chunksFrom false (index + (rest.takeWhile isBlank).length) (rest.dropWhile isBlank) := by
  have happend : rest.takeWhile isBlank ++ rest.dropWhile isBlank = rest :=
    List.takeWhile_append_dropWhile
  have hblank : ∀ l ∈ rest.takeWhile isBlank, isBlank l = true := fun l hl =>
    List.of_mem_takeWhile hl
  have hblanks := chunksFrom_blanks literal index hblank (rest.dropWhile isBlank)
  rw [happend] at hblanks
  rw [hblanks]
  cases hrest : rest.dropWhile isBlank with
  | nil => rw [chunksFrom, chunksFrom]
  | cons l ls =>
    have hhead : (rest.dropWhile isBlank).head? = some l := by rw [hrest]; rfl
    obtain ⟨hb, hi⟩ := h.of_head_dropWhile hhead
    have hfilled : ¬isBlank l = true := by rw [hb]; exact Bool.false_ne_true
    have hplain : ¬0 < Text.indentation l := by omega
    rw [chunksFrom, chunksFrom, if_neg hfilled, if_neg hfilled, if_neg hplain, if_neg hplain]

/-- A block does not reach beyond the line where others start anew. -/
theorem blockLines_append (l : Text) (ls : List Text) :
    blockLines l (ls ++ rest) = blockLines l ls := by
  rw [blockLines, blockLines, List.takeWhile_append]
  split
  · next hall =>
    have htake : ls.takeWhile continuesBlock = ls := (List.takeWhile_prefix _).eq_of_length hall
    rw [htake, h.cut.1, Text.dropTrailingBlanks_append fun m hm => List.of_mem_takeWhile hm]
  · rfl

/-- What follows a block. -/
theorem chunksFrom_dropWhile_append (index : Nat) (ls : List Text) :
    chunksFrom false (index + ((ls ++ rest).takeWhile continuesBlock).length)
        ((ls ++ rest).dropWhile continuesBlock) =
      chunksFrom false (index + (ls.takeWhile continuesBlock).length)
        (ls.dropWhile continuesBlock ++ rest) := by
  rw [List.takeWhile_append, List.dropWhile_append]
  by_cases hall : (ls.takeWhile continuesBlock).length = ls.length
  · have htake : ls.takeWhile continuesBlock = ls := (List.takeWhile_prefix _).eq_of_length hall
    have hdrop : ls.dropWhile continuesBlock = [] := by
      rw [List.dropWhile_eq_nil_iff]
      exact List.takeWhile_eq_self_iff.1 htake
    rw [if_pos hall, hdrop, List.isEmpty_nil, if_pos rfl, htake, h.cut.1, h.cut.2, List.nil_append,
      chunksFrom_literal h false (index + ls.length), List.length_append, Nat.add_assoc]
  · have hdrop : ls.dropWhile continuesBlock ≠ [] := fun hnil =>
      hall (congrArg List.length (List.takeWhile_eq_self_iff.2 (List.dropWhile_eq_nil_iff.1 hnil)))
    rw [if_neg hall, if_neg (by simpa using hdrop)]

/-- A paragraph ends before the blank line. -/
theorem takeWhile_filled_append (ls : List Text) :
    (ls ++ rest).takeWhile (fun l => !isBlank l) = ls.takeWhile (fun l => !isBlank l) ∧
      (ls ++ rest).dropWhile (fun l => !isBlank l) = ls.dropWhile (fun l => !isBlank l) ++ rest := by
  have hstop : ∀ l, (ls.dropWhile (fun l => !isBlank l) ++ rest).head? = some l →
      (!isBlank l) = false := by
    intro l hl
    rw [List.head?_append] at hl
    rcases Option.or_eq_some_iff.1 hl with hl | ⟨-, hl⟩
    · exact List.head_dropWhile_stop (p := fun l => !isBlank l) hl
    · rw [h.head l hl]
      rfl
  have hfront : ∀ l ∈ ls.takeWhile (fun l => !isBlank l), (!isBlank l) = true := fun l hl =>
    List.of_mem_takeWhile (p := fun l => !isBlank l) hl
  have happend : ls.takeWhile (fun l => !isBlank l) ++ (ls.dropWhile (fun l => !isBlank l) ++ rest) =
      ls ++ rest := by
    rw [← List.append_assoc, List.takeWhile_append_dropWhile]
  rw [← happend]
  exact ⟨List.takeWhile_append_stop hfront hstop, List.dropWhile_append_stop hfront hstop⟩

/-- **Lines that start anew have the chunks that they have alone**, and the lines before them too. -/
theorem chunksFrom_append (literal : Bool) (index : Nat) (ls : List Text) :
    chunksFrom literal index (ls ++ rest) =
      chunksFrom literal index ls ++ chunksFrom false (index + ls.length) rest := by
  -- The lines of a chunk and those left behind it are all the lines there are.
  have hindex : ∀ (p : Text → Bool) (index : Nat) (ls : List Text),
      index + 1 + (ls.takeWhile p).length + (ls.dropWhile p).length = index + (ls.length + 1) := by
    intro p index ls
    have hlength : (ls.takeWhile p ++ ls.dropWhile p).length = ls.length := by
      rw [List.takeWhile_append_dropWhile]
    rw [List.length_append] at hlength
    omega
  fun_induction chunksFrom literal index ls with
  | case1 literal index =>
    rw [List.nil_append, List.nil_append, List.length_nil, Nat.add_zero, chunksFrom_literal h,
      ← chunksFrom_literal h]
  | case2 literal index l ls hb ih =>
    rw [List.cons_append, chunksFrom, if_pos hb, ih, List.length_cons, Nat.add_assoc,
      Nat.add_comm 1]
  | case3 literal index l ls hb hi ih =>
    rw [List.cons_append, chunksFrom, if_neg hb, if_pos hi, blockLines_append h,
      chunksFrom_dropWhile_append h, ih, hindex, List.cons_append, List.length_cons]
  | case4 literal index l ls hb hi he ih =>
    rw [List.cons_append, chunksFrom, if_neg hb, if_neg hi, if_pos he, blockLines_append h,
      chunksFrom_dropWhile_append h, ih, hindex, List.cons_append, List.length_cons]
  | case5 literal index l ls hb hi he paragraph ih =>
    obtain ⟨htake, hdrop⟩ := takeWhile_filled_append h ls
    have hparagraph : index + paragraph.length + (ls.dropWhile fun l => !isBlank l).length =
        index + (ls.length + 1) := by
      rw [← hindex (fun l => !isBlank l), List.length_cons, ← Nat.add_assoc,
        Nat.add_right_comm index 1]
    rw [List.cons_append, chunksFrom, if_neg hb, if_neg hi, if_neg he, htake, hdrop]
    dsimp only
    rw [ih, hparagraph]
    rfl

end StartsAnew

/-- The same lines further down have the same chunks, further down. -/
theorem chunksFrom_add (literal : Bool) (index k : Nat) (ls : List Text) :
    chunksFrom literal (index + k) ls =
      (chunksFrom literal index ls).map fun c => { c with start := c.start + k } := by
  fun_induction chunksFrom literal index ls with
  | case1 literal index =>
    rw [chunksFrom]
    rfl
  | case2 literal index l ls hb ih => rw [chunksFrom, if_pos hb, Nat.add_right_comm, ih]
  | case3 literal index l ls hb hi ih =>
    rw [chunksFrom, if_neg hb, if_pos hi, Nat.add_right_comm index k, Nat.add_right_comm _ k, ih,
      List.map_cons]
  | case4 literal index l ls hb hi he ih =>
    rw [chunksFrom, if_neg hb, if_neg hi, if_pos he, Nat.add_right_comm index k,
      Nat.add_right_comm _ k, ih, List.map_cons]
  | case5 literal index l ls hb hi he paragraph ih =>
    rw [chunksFrom, if_neg hb, if_neg hi, if_neg he]
    dsimp only
    rw [Nat.add_right_comm, ih, List.map_cons]

end StructuredText

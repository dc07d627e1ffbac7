import StructuredText.Proofs.Invocation.Division

/-!
# Where content stands in its block

The content of a block is one run of its last lines, with one exception: where a directive takes no
arguments, the lines before its options are content too, and the options are left out of the middle
(`Divides.content_cases`). The index of a content line counts on as if there were no gap. What has to
be added to it, `gap`, can be told from the content and the extent of the block
(`Divides.getElem?_content`): it is zero up to the first blank line, and after it the number of lines
that were left out (`Divides.gap_eq`).
-/

namespace StructuredText

open Text

/-- The first paragraph of some content. -/
def leadingLines (content : List Text) : List Text := content.takeWhile fun l => !isBlank l

/-- How far the content line with the given position stands behind the index that its position gives
it, where `last` is the index of the line after the block. -/
def gap (last contentOffset : Nat) (content : List Text) (position : Nat) : Nat :=
  if position < (leadingLines content).length then 0 else last - (contentOffset + content.length)

namespace Shape

/-- A body with lines in it is the end of the block. -/
theorem drop_of_blockBody {lines body : List Text} {offset start : Nat}
    (h : blockBody lines offset = (body, start)) (hend : EndsFilled lines.tail) (hne : body ≠ []) :
    ∃ k, start = offset + k ∧ body = lines.drop k := by
  obtain ⟨k, hstart, hbody, -⟩ := blockBody_spec h
  refine ⟨k, hstart, ?_⟩
  cases lines with
  | nil => exact hbody
  | cons first below =>
    rw [List.tail_cons] at hend
    cases hb : isBlank first with
    | false => rwa [dropTrailingBlanks_eq_self (hend.cons hb)] at hbody
    | true =>
      cases below with
      | nil =>
        -- A single blank line has no body.
        have hnil : dropTrailingBlanks [first] = [] := by simp [dropTrailingBlanks, hb]
        rw [hnil, List.drop_nil] at hbody
        exact absurd hbody hne
      | cons l ls =>
        have hall : EndsFilled (first :: l :: ls) := fun x hx =>
          hend x (by rwa [List.getLast?_cons_cons] at hx)
        rwa [dropTrailingBlanks_eq_self hall] at hbody

section Divides

variable {shape : Shape} {lines : List Text} {offset : Nat} {before fields tail : List Text}
  {start : Nat} {parts : Parts}

/-- Whether the content begins before the fields and goes on after them. -/
def Divided (shape : Shape) (before : List Text) : Prop :=
  shape.takesArguments = false ∧ before ≠ []

instance (shape : Shape) (before : List Text) : Decidable (shape.Divided before) :=
  inferInstanceAs (Decidable (_ ∧ _))

/-- **The content is what stands before and after the fields, or what follows a blank line.** -/
theorem Divides.content_cases (h : shape.Divides lines offset before fields tail start parts) :
    (shape.Divided before ∧ parts.content = before ++ tail ∧ parts.contentOffset = start) ∨
      ¬shape.Divided before ∧ ∃ m, parts.content = tail.drop (1 + m) ∧
        parts.contentOffset = start + (before.length + fields.length) + (1 + m) := by
  have hcontent := h.content
  have hoffset := h.contentOffset
  have hiff : (!shape.takesArguments && decide (before ≠ [])) = true ↔ shape.Divided before := by
    simp [Divided]
  unfold contentAfter at hcontent hoffset
  by_cases hdivided : shape.Divided before
  · rw [if_pos (hiff.2 hdivided)] at hcontent hoffset
    obtain ⟨l, ls, rfl⟩ := List.exists_cons_of_ne_nil hdivided.2
    have hl := (h.before_plain l (List.mem_cons_self ..)).1
    rw [List.cons_append, List.dropWhile_cons_of_neg (by simp [hl])] at hcontent
    rw [List.cons_append, List.takeWhile_cons_of_neg (by simp [hl])] at hoffset
    exact Or.inl ⟨hdivided, hcontent, hoffset⟩
  · rw [if_neg fun hno => hdivided (hiff.1 hno)] at hcontent hoffset
    refine Or.inr ⟨hdivided, ((tail.drop 1).takeWhile isBlank).length, ?_,
      by rw [hoffset, Nat.add_assoc]⟩
    rw [hcontent, ← List.drop_drop, List.drop_takeWhile_length]

/-- The body of a block that has content stands at the end of the block. -/
theorem Divides.exists_body (h : shape.Divides lines offset before fields tail start parts)
    (hend : EndsFilled lines.tail) (hne : parts.content ≠ []) :
    ∃ k, start = offset + k ∧ lines.length = k + (before.length + fields.length + tail.length) ∧
      ∀ i, lines[k + i]? = (before ++ fields ++ tail)[i]? := by
  have hbody : before ++ fields ++ tail ≠ [] := by
    obtain ⟨l, ls, hl⟩ := List.exists_cons_of_ne_nil hne
    have hmem : l ∈ parts.content := by
      rw [hl]
      exact List.mem_cons_self ..
    exact List.ne_nil_of_mem (h.contentAfter_spec.2 l (h.content_suffix.subset hmem))
  obtain ⟨k, hstart, hdrop⟩ := drop_of_blockBody h.body hend hbody
  have hlength := congrArg List.length hdrop
  have hpos := List.length_pos_iff.2 hbody
  simp only [List.length_append, List.length_drop] at hlength hpos
  exact ⟨k, hstart, by omega, fun i => by rw [hdrop, List.getElem?_drop]⟩

/-- **The gap is that of the fields**, in content that begins before them and for lines after them. -/
theorem Divides.gap_eq (h : shape.Divides lines offset before fields tail start parts)
    (hend : EndsFilled lines.tail) {j : Nat} (hj : j < parts.content.length) :
    gap (offset + lines.length) parts.contentOffset parts.content j =
      if shape.Divided before ∧ before.length ≤ j then fields.length else 0 := by
  obtain ⟨k, rfl, hlength, -⟩ := h.exists_body hend (List.ne_nil_of_length_pos (by omega))
  rcases h.content_cases with ⟨hdivided, hcontent, hoffset⟩ | ⟨hplain, m, hcontent, hoffset⟩
  -- The lines before the fields are filled, and a blank line follows the fields.
  · have hlead : leadingLines parts.content = before := by
      rw [hcontent]
      refine List.takeWhile_append_stop (fun x hx => ?_) fun x hx => ?_
      · simp [(h.before_plain x hx).1]
      · simp [h.tail_head x hx]
    rw [gap, hlead, hoffset, hcontent, List.length_append]
    by_cases hlt : j < before.length
    · rw [if_pos hlt, if_neg fun hno => by omega]
    · rw [if_neg hlt, if_pos ⟨hdivided, by omega⟩]
      omega
  -- The content ends with the block and is counted without a gap.
  · rw [if_neg fun hno => hplain hno.1, gap, hoffset, hcontent, List.length_drop]
    rw [hcontent, List.length_drop] at hj
    split
    · rfl
    · omega

/-- **Where a line of the content stands in the block.** -/
theorem Divides.getElem?_content (h : shape.Divides lines offset before fields tail start parts)
    (hend : EndsFilled lines.tail) {j : Nat} {l : Text} (hl : parts.content[j]? = some l) :
    ∃ b, lines[b]? = some l ∧ offset + b = parts.contentOffset + j +
      gap (offset + lines.length) parts.contentOffset parts.content j := by
  have hj := (List.getElem?_eq_some_iff.1 hl).1
  rw [h.gap_eq hend hj]
  obtain ⟨k, rfl, -, hline⟩ := h.exists_body hend (List.ne_nil_of_length_pos (by omega))
  rcases h.content_cases with ⟨hdivided, hcontent, hoffset⟩ | ⟨hplain, m, hcontent, hoffset⟩
  · rw [hcontent] at hl
    by_cases hlt : j < before.length
    · rw [List.getElem?_append_left hlt] at hl
      refine ⟨k + j, ?_, by rw [if_neg fun hno => by omega, hoffset]; omega⟩
      rw [hline, List.append_assoc, List.getElem?_append_left hlt, hl]
    · rw [List.getElem?_append_right (by omega)] at hl
      refine ⟨k + (j + fields.length), ?_, by rw [if_pos ⟨hdivided, by omega⟩, hoffset]; omega⟩
      rw [hline, List.getElem?_append_right (by rw [List.length_append]; omega), ← hl,
        List.length_append]
      congr 1
      omega
  · rw [hcontent, List.getElem?_drop] at hl
    refine ⟨k + (before.length + fields.length + (1 + m + j)), ?_,
      by rw [if_neg fun hno => hplain hno.1, hoffset]; omega⟩
    rw [hline, List.getElem?_append_right (by rw [List.length_append]; omega), ← hl,
      List.length_append]
    congr 1
    omega

end Divides

end Shape

end StructuredText

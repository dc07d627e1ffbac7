import StructuredText.Block.DirectiveMarker
import StructuredText.Text.Lines

/-!
# Chunks

The lines of a document are cut into chunks, one for each block: an indented block is a quote, two
dots begin explicit markup that extends over the indented lines below, and all else up to a blank
line is a paragraph. A paragraph that ends with two colons announces that an indented block right
after it is literal. Blank lines between chunks belong to none, and a chunk never ends with one.

How the lines are cut depends on the lines alone. What is inside a quote is cut in turn, once it is
out of its margin; that its lines are then less indented (`totalIndentation_quote_lt`) is why this
comes to an end.
-/

namespace StructuredText

/-- What a chunk is. -/
inductive ChunkKind where
  | quote
  | explicit
  | paragraph
  | literal
  deriving DecidableEq, Repr

/-- The lines of one block. -/
structure Chunk where
  kind : ChunkKind
  /-- The index of the first line. -/
  start : Nat
  lines : List Text
  deriving DecidableEq, Repr

/-- The text of a paragraph without the mark that announces a literal block, and whether there is
such a mark. One colon of the mark is part of the text, unless the mark stands alone or after a
space. -/
def literalAnnouncement (text : Text) : Text × Bool :=
  if text = [':', ':'] then ([], true)
  else match Text.before? [' ', ':', ':'] text with
    | some t => (Text.trimEnd t, true)
    | none =>
      match Text.before? [':', ':'] text with
      | some t => (t ++ [':'], true)
      | none => (text, false)

/-- Whether the lines of a paragraph announce a literal block. -/
def announcesLiteral (lines : List Text) : Bool := (literalAnnouncement (Text.ofLines lines)).2

/-- The first line and the lines below that continue its block, without blank lines at the end. -/
def blockLines (first : Text) (below : List Text) : List Text :=
  first :: Text.dropTrailingBlanks (below.takeWhile Text.continuesBlock)

theorem length_dropWhile_le_length (p : Text → Bool) (ls : List Text) :
    (ls.dropWhile p).length ≤ ls.length :=
  (List.dropWhile_sublist p).length_le

/-- The chunks of lines the first of which has the given index; `literal` says whether a literal
block has been announced. -/
def chunksFrom (literal : Bool) (index : Nat) : List Text → List Chunk
  | [] => []
  | l :: ls =>
    if Text.isBlank l then chunksFrom literal (index + 1) ls
    else if 0 < Text.indentation l then
      ⟨if literal then .literal else .quote, index, blockLines l ls⟩ ::
        chunksFrom false (index + 1 + (ls.takeWhile Text.continuesBlock).length)
          (ls.dropWhile Text.continuesBlock)
    else if isExplicit l then
      ⟨.explicit, index, blockLines l ls⟩ ::
        chunksFrom false (index + 1 + (ls.takeWhile Text.continuesBlock).length)
          (ls.dropWhile Text.continuesBlock)
    else
      let paragraph := l :: ls.takeWhile fun l => !Text.isBlank l
      ⟨.paragraph, index, paragraph⟩ ::
        chunksFrom (announcesLiteral paragraph) (index + paragraph.length)
          (ls.dropWhile fun l => !Text.isBlank l)
termination_by ls => ls.length
decreasing_by
  · simp
  · exact Nat.lt_succ_of_le (length_dropWhile_le_length _ ls)
  · exact Nat.lt_succ_of_le (length_dropWhile_le_length _ ls)
  · exact Nat.lt_succ_of_le (length_dropWhile_le_length _ ls)

/-- The chunks of the lines of a document or of the content of a block. -/
def chunks (ls : List Text) : List Chunk := chunksFrom false 0 ls

/-! ## A quote out of its margin is less indented -/

theorem dropTrailingBlanks_sublist (ls : List Text) : (Text.dropTrailingBlanks ls).Sublist ls := by
  have h := (List.dropWhile_sublist Text.isBlank (l := ls.reverse)).reverse
  rwa [List.reverse_reverse] at h

theorem blockLines_sublist (l : Text) (ls : List Text) : (blockLines l ls).Sublist (l :: ls) :=
  ((dropTrailingBlanks_sublist _).trans (List.takeWhile_sublist _)).cons_cons l

/-- Every chunk is made of lines in their order. -/
theorem sublist_of_mem_chunksFrom {literal : Bool} {index : Nat} {ls : List Text} {c : Chunk}
    (h : c ∈ chunksFrom literal index ls) : c.lines.Sublist ls := by
  fun_induction chunksFrom literal index ls with
  | case1 => simp at h
  | case2 literal index l ls _ ih => exact (ih h).cons l
  | case3 literal index l ls _ _ ih =>
    rcases List.mem_cons.1 h with rfl | h
    · exact blockLines_sublist l ls
    · exact ((ih h).trans (List.dropWhile_sublist _)).cons l
  | case4 literal index l ls _ _ _ ih =>
    rcases List.mem_cons.1 h with rfl | h
    · exact blockLines_sublist l ls
    · exact ((ih h).trans (List.dropWhile_sublist _)).cons l
  | case5 literal index l ls _ _ _ paragraph ih =>
    rcases List.mem_cons.1 h with rfl | h
    · exact (List.takeWhile_sublist _).cons_cons l
    · exact ((ih h).trans (List.dropWhile_sublist _)).cons l

/-- A quote begins with an indented line, and its other lines are indented or blank. -/
theorem lines_of_quote_mem {literal : Bool} {index : Nat} {ls : List Text} {c : Chunk}
    (h : c ∈ chunksFrom literal index ls) (hk : c.kind = .quote) :
    ∃ l below, c.lines = l :: below ∧ Text.isBlank l = false ∧ 0 < Text.indentation l ∧
      ∀ x ∈ below, Text.continuesBlock x = true := by
  fun_induction chunksFrom literal index ls with
  | case1 => simp at h
  | case2 literal index l ls _ ih => exact ih h
  | case3 literal index l ls hb hi ih =>
    rcases List.mem_cons.1 h with rfl | h
    · refine ⟨l, _, rfl, by simpa using hb, hi, fun x hx => ?_⟩
      exact List.all_eq_true.1 List.all_takeWhile x ((dropTrailingBlanks_sublist _).subset hx)
    · exact ih h
  | case4 literal index l ls _ _ _ ih =>
    rcases List.mem_cons.1 h with rfl | h
    · cases hk
    · exact ih h
  | case5 literal index l ls _ _ _ paragraph ih =>
    rcases List.mem_cons.1 h with rfl | h
    · cases hk
    · exact ih h

/-- The lines of a quote, out of their margin, are less indented than the lines it was cut from. -/
theorem totalIndentation_quote_lt {literal : Bool} {index : Nat} {ls : List Text} {c : Chunk}
    (h : c ∈ chunksFrom literal index ls) (hk : c.kind = .quote) :
    Text.totalIndentation (Text.dropMargin c.lines) < Text.totalIndentation ls := by
  obtain ⟨l, below, hc, hb, hi, hbelow⟩ := lines_of_quote_mem h hk
  refine Nat.lt_of_lt_of_le ?_ (Text.totalIndentation_le_of_sublist (sublist_of_mem_chunksFrom h))
  rw [hc]
  refine Text.totalIndentation_dropMargin_lt (List.mem_cons_self ..) hb fun x hx hxb => ?_
  rcases List.mem_cons.1 hx with rfl | hx
  · exact hi
  · simpa [Text.continuesBlock, hxb] using hbelow x hx

end StructuredText

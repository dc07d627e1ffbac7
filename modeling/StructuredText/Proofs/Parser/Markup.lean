import StructuredText.Proofs.Block.MarkerGrammar
import StructuredText.Proofs.Invocation.Optionless
import StructuredText.Proofs.Parser.Blocks
import StructuredText.Proofs.Registry.LookUp
import StructuredText.Proofs.Registry.Registration

/-!
# Directives and comments

Explicit markup is handled as a directive or becomes a comment, whatever the registry and wherever
the block stands (`Chunk.IsDirective`, `Chunk.IsComment`). Both are said of what a parser makes of
the block, and so it has to be shown that the blocks of a directive tell its name and its first line:
an unknown name is reported, and a directive that repeats its content shows the line
(`IsDirective.unique`). The line alone decides which of the two it is, by the grammar of markers
(`isDirective_iff_beginsDirective`).
-/

namespace StructuredText

open Text (isBlank)

namespace Chunk

/-- The block is handled as a directive of this name, and `first`, which is an end of its line, is the
first line of the directive's block. -/
structure IsDirective (c : Chunk) (name first : Text) : Prop where
  suffix : first <:+ c.lines.headD []
  blocks : ∀ (p : Parser) (nested quoted : Parser.Nested) (offset : Nat),
    p.chunkBlocks nested quoted offset c =
      p.directiveBlocks nested name (first :: Text.dropMargin c.lines.tail) (Text.ofLines c.lines)
        (offset + c.start)

/-- The block becomes a comment. -/
def IsComment (c : Chunk) : Prop :=
  ∀ (p : Parser) (nested quoted : Parser.Nested) (offset : Nat),
    p.chunkBlocks nested quoted offset c =
      .ok [.comment (offset + c.start + 1) (Text.ofLines c.lines)]

variable {c : Chunk} {line name name' first first' : Text}

theorem headD_lines (hline : c.lines.head? = some line) : c.lines.headD [] = line := by
  rw [List.headD_eq_head?_getD, hline]
  rfl

theorem isDirective_of_marker (hk : c.kind = .explicit) (hline : c.lines.head? = some line)
    (h : directiveMarker? line = some (name, first)) : c.IsDirective name first := by
  have hhead := headD_lines hline
  constructor
  · rw [hhead]
    exact (of_directiveMarker? h).2
  · intro p nested quoted offset
    rw [Parser.chunkBlocks_explicit hk]
    exact Parser.explicitBlocks_directive (by rwa [hhead])

theorem isComment_of_marker (hk : c.kind = .explicit) (hline : c.lines.head? = some line)
    (h : directiveMarker? line = none) : c.IsComment := by
  have hhead := headD_lines hline
  intro p nested quoted offset
  rw [Parser.chunkBlocks_explicit hk]
  exact Parser.explicitBlocks_comment (by rwa [hhead])

/-! ## What the blocks tell -/

/-- What a parser with this registry makes of the block at the beginning of a document. -/
def observed (c : Chunk) (r : Registry) : Except ParseError (List Block) :=
  Parser.chunkBlocks ⟨r, { fileText := fun _ => .error [] }⟩ (fun _ _ => .ok [])
    (fun _ _ => .ok []) 0 c

theorem IsDirective.observed_eq (h : c.IsDirective name first) (r : Registry) :
    c.observed r = Parser.directiveBlocks ⟨r, { fileText := fun _ => .error [] }⟩
      (fun _ _ => .ok []) name (first :: Text.dropMargin c.lines.tail) (Text.ofLines c.lines)
      (0 + c.start) :=
  h.blocks _ _ _ _

/-- Where no directive is known, the name is reported. -/
theorem IsDirective.observed_empty (h : c.IsDirective name first) :
    c.observed .empty = .error (.unknownDirective name (0 + c.start + 1)) := by
  have hunknown : Registry.empty.directive? name = none := by
    cases hd : Registry.empty.directive? name with
    | none => rfl
    | some d =>
      have hnothing : False := Registry.of_directive? (P := fun _ => False)
        (fun _ he => by cases he) (fun _ he => by cases he) (fun _ he => by cases he) hd
      exact hnothing.elim
  rw [h.observed_eq]
  exact Parser.directiveBlocks_unknown hunknown

theorem IsDirective.not_isComment (h : c.IsDirective name first) : ¬c.IsComment := by
  intro hcomment
  have hobserved := h.observed_empty
  rw [observed, hcomment] at hobserved
  cases hobserved

/-- The directive that shows the lines of its content. -/
def echo : Directive :=
  .custom { content := true } fun inv _ => .ok (inv.content.map (Block.comment 0))

theorem exists_divide_echo (lines : List Text) (offset : Nat) :
    ∃ start, echo.shape.divide lines offset =
      .ok ⟨[], ∅, (Shape.blockBody lines offset).1.dropWhile isBlank, start⟩ := by
  have hnone : echo.shape.options = .none := rfl
  rw [Shape.divide_of_none hnone]
  exact ⟨_, Shape.collect_eq_ok_iff.2 ⟨rfl, fun _ => rfl⟩⟩

theorem IsDirective.observed_echo (h : c.IsDirective name first) :
    c.observed (Registry.empty.registerDirective name echo) =
      .ok (((Shape.blockBody (first :: Text.dropMargin c.lines.tail)
        (0 + c.start)).1.dropWhile isBlank).map (Block.comment 0)) := by
  obtain ⟨start, hdivide⟩ :=
    exists_divide_echo (first :: Text.dropMargin c.lines.tail) (0 + c.start)
  rw [h.observed_eq, Parser.directiveBlocks, Registry.directive?_registerDirective]
  dsimp only
  rw [Parser.invocation, hdivide]
  rfl

/-- **The name and the first line of a directive's block can be told from what is made of it**, if its
line has no white space at the end. -/
theorem IsDirective.unique (ht : Text.Trimmed (c.lines.headD [])) (h : c.IsDirective name first)
    (h' : c.IsDirective name' first') : name = name' ∧ first = first' := by
  have hname : name = name' := by
    have hobserved := h.observed_empty
    rw [h'.observed_empty] at hobserved
    cases hobserved
    rfl
  subst hname
  refine ⟨rfl, ?_⟩
  have hobserved := h.observed_echo
  rw [h'.observed_echo] at hobserved
  have hcontent := List.map_injective_iff.2 (fun _ _ h => (Block.comment.inj h).2)
    (Except.ok.inj hobserved)
  -- The lines that are not blank show the first one, unless it is blank.
  have hfilled := congrArg (List.filter fun l => !isBlank l) hcontent
  rw [Shape.filter_blockBody, Shape.filter_blockBody] at hfilled
  rcases List.of_filter_cons_eq hfilled with heq | ⟨hblank', hblank⟩
  · exact heq.symm
  · rw [Bool.not_eq_false'] at hblank hblank'
    have hnil := (ht.suffix h.suffix).eq_nil_of_isBlank hblank
    have hnil' := (ht.suffix h'.suffix).eq_nil_of_isBlank hblank'
    rw [hnil, hnil']

/-! ## What the line decides -/

/-- **Explicit markup is a directive exactly as its line says by the grammar of markers**, with at
most one name and one first line, and a comment if its line is none of a directive. -/
theorem isDirective_iff_beginsDirective {lines : List Text} (hc : c ∈ chunks lines)
    (hline : c.lines.head? = some line) (ht : Text.Trimmed line) (hdots : ['.', '.', ' '] <+: line) :
    (∀ name first, c.IsDirective name first ↔ BeginsDirective line name first) ∧
    (∀ name first name' first', BeginsDirective line name first →
      BeginsDirective line name' first' → name = name' ∧ first = first') ∧
    (c.IsComment ↔ ∀ name first, ¬BeginsDirective line name first) := by
  have hexplicit : isExplicit line = true := by
    obtain ⟨t, rfl⟩ := hdots
    rfl
  have hk := kind_of_isExplicit hc hline hexplicit
  have hhead := headD_lines hline
  have hbegins : ∀ name first, BeginsDirective line name first → c.IsDirective name first := by
    intro name first h
    exact isDirective_of_marker hk hline (directiveMarker?_eq_some_iff.2 h)
  have hcomment : (∀ name first, ¬BeginsDirective line name first) → c.IsComment := by
    intro h
    exact isComment_of_marker hk hline (directiveMarker?_eq_none_iff.2 h)
  refine ⟨?_, fun _ _ _ _ h h' => h.unique h', ?_, hcomment⟩
  · intro name first
    constructor
    · intro h
      by_cases hany : ∃ name' first', BeginsDirective line name' first'
      · obtain ⟨name', first', h'⟩ := hany
        obtain ⟨rfl, rfl⟩ := h.unique (by rwa [hhead]) (hbegins name' first' h')
        exact h'
      · exact absurd (hcomment fun name' first' h' => hany ⟨name', first', h'⟩) h.not_isComment
    · exact hbegins name first
  · intro h name first hdirective
    exact (hbegins name first hdirective).not_isComment h

/-- The colons in the name separate two runs, and those behind it end the marker. -/
theorem isDirective_iff_beginsDirective_colons :
    IsDirective ⟨.explicit, 1, [".. py:function:: f(x)", "   text"]⟩ "py:function" "f(x)" := by
  have hchunks : chunks ["", ".. py:function:: f(x)", "   text"] =
      [⟨.explicit, 1, [".. py:function:: f(x)", "   text"]⟩] := by cbv
  have hc : ⟨.explicit, 1, [".. py:function:: f(x)", "   text"]⟩ ∈
      chunks ["", ".. py:function:: f(x)", "   text"] := by
    rw [hchunks]
    exact List.mem_singleton_self _
  have ht : Text.Trimmed ".. py:function:: f(x)" := by
    intro c hc
    cases hc
    decide
  have hmarker : directiveMarker? ".. py:function:: f(x)" =
      some (("py:function" : Text), ("f(x)" : Text)) := by decide
  exact ((isDirective_iff_beginsDirective hc rfl ht (by decide)).1 _ _).2
    (directiveMarker?_eq_some_iff.1 hmarker)

end Chunk

end StructuredText

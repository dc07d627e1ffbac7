import StructuredText.Proofs.Invocation.Position
import StructuredText.Proofs.Parser.Reading

/-!
# Line numbers

The nodes of a document and its errors report lines. In content from which options were left out, the
lines after the gap are counted as if there were none; inside such content a reported line can be
smaller than the line of the source. `Invocation.sourceLine` makes up for the gap of one invocation,
and `sourceLine` for those of all invocations around a node.

Main result: the line so corrected is the line of the source on which the node stands
(`sourceLine_of_parse`), and the reported line is that line exactly if no invocation around the node
moves it. It follows from an invariant of all lines that a parse reads (`Placed`, `Enters.placed`).
-/

namespace StructuredText

open Text

namespace Invocation

/-- The line in the block's surroundings that is reported as `line` inside the content. -/
def sourceLine (inv : Invocation) (line : Nat) : Nat :=
  line + gap (inv.line - 1 + (cutAt '\n' inv.blockText).length) inv.contentOffset inv.content
    (line - 1 - inv.contentOffset)

theorem le_sourceLine (inv : Invocation) (line : Nat) : line ≤ inv.sourceLine line :=
  Nat.le_add_right _ _

theorem sourceLine_content (inv : Invocation) (j : Nat) :
    inv.sourceLine (inv.contentOffset + j + 1) = inv.contentOffset + j + 1 +
      gap (inv.line - 1 + (cutAt '\n' inv.blockText).length) inv.contentOffset inv.content j := by
  rw [sourceLine, Nat.add_sub_cancel, Nat.add_sub_cancel_left]

end Invocation

/-- The line of the source that is reported as `line` inside the content of invocations, the outermost
first. -/
def sourceLine (path : List Invocation) (line : Nat) : Nat :=
  path.foldr Invocation.sourceLine line

theorem sourceLine_cons (inv : Invocation) (path : List Invocation) (line : Nat) :
    sourceLine (inv :: path) line = inv.sourceLine (sourceLine path line) := rfl

theorem sourceLine_append_singleton (path : List Invocation) (inv : Invocation) (line : Nat) :
    sourceLine (path ++ [inv]) line = sourceLine path (inv.sourceLine line) := List.foldr_append

theorem le_sourceLine (path : List Invocation) (line : Nat) : line ≤ sourceLine path line := by
  induction path with
  | nil => exact Nat.le_refl line
  | cons inv path ih => exact Nat.le_trans ih (inv.le_sourceLine _)

/-- A line is reported as it is if no invocation moves it. -/
theorem sourceLine_eq_self_iff {path : List Invocation} {line : Nat} :
    sourceLine path line = line ↔ ∀ inv ∈ path, inv.sourceLine line = line := by
  induction path with
  | nil => exact ⟨fun _ _ hinv => absurd hinv List.not_mem_nil, fun _ => rfl⟩
  | cons inv path ih =>
    rw [sourceLine_cons, List.forall_mem_cons]
    constructor
    · intro h
      have hinner : sourceLine path line = line :=
        Nat.le_antisymm (Nat.le_trans (inv.le_sourceLine _) (Nat.le_of_eq h))
          (le_sourceLine path line)
      rw [hinner] at h
      exact ⟨h, ih.1 hinner⟩
    · rintro ⟨h, hpath⟩
      rw [ih.2 hpath, h]

namespace Parser

variable {p : Parser} {source : Text}

/-! ## Every line that is read stands in the source -/

/-- Each of the lines is the end of the line of the source that its number stands for. -/
def Placed (source : Text) (path : List Invocation) (lines : List Text) (offset : Nat) : Prop :=
  ∀ i l, lines[i]? = some l →
    ∃ m, (normalLines source)[sourceLine path (offset + i + 1) - 1]? = some m ∧ l <:+ m

theorem Placed.chunk {path : List Invocation} {lines : List Text} {offset : Nat}
    (h : Placed source path lines offset) {c : Chunk} (hc : c ∈ chunks lines) :
    Placed source path c.lines (offset + c.start) := by
  intro i l hl
  rw [Nat.add_assoc offset]
  exact h _ l (getElem?_of_mem_chunks hc hl)

theorem Placed.of_suffix {path : List Invocation} {lines lines' : List Text} {offset : Nat}
    (h : Placed source path lines offset)
    (hs : ∀ (i : Nat) (l : Text), lines'[i]? = some l → ∃ m, lines[i]? = some m ∧ l <:+ m) :
    Placed source path lines' offset := by
  intro i l hl
  obtain ⟨m, hm, hsuffix⟩ := hs i l hl
  obtain ⟨m', hm', hsuffix'⟩ := h i m hm
  exact ⟨m', hm', hsuffix.trans hsuffix'⟩

theorem suffix_of_getElem?_dropMargin {ls : List Text} {i : Nat} {l : Text}
    (h : (dropMargin ls)[i]? = some l) : ∃ m, ls[i]? = some m ∧ l <:+ m := by
  rw [dropMargin, List.getElem?_map] at h
  obtain ⟨m, hm, rfl⟩ := Option.map_eq_some_iff.1 h
  refine ⟨m, hm, ?_⟩
  split
  · exact List.nil_suffix
  · exact List.drop_suffix _ _

/-- The lines of a block are ends of the lines it was read from. -/
theorem suffix_of_getElem?_block {first name rest : Text} {below : List Text}
    (hmarker : directiveMarker? first = some (name, rest)) {i : Nat} {l : Text}
    (h : (rest :: dropMargin below)[i]? = some l) : ∃ m, (first :: below)[i]? = some m ∧ l <:+ m := by
  cases i with
  | zero =>
    cases h
    exact ⟨first, rfl, (of_directiveMarker? hmarker).2⟩
  | succ i =>
    rw [List.getElem?_cons_succ] at h ⊢
    exact suffix_of_getElem?_dropMargin h

/-- The content of an invocation stands in its block, where the invocation makes up for the gap. -/
theorem Reads.getElem?_content {lines : List Text} {index : Nat} {shape : Shape} {raw : Bool}
    {inv : Invocation} (h : p.Reads lines index shape raw inv) (hlines : ∀ l ∈ lines, IsLine l)
    (hend : EndsFilled lines.tail) {j : Nat} {l : Text} (hl : inv.content[j]? = some l) :
    ∃ b m, lines[b]? = some m ∧ l <:+ m ∧
      inv.sourceLine (inv.contentOffset + j + 1) = index + b + 1 := by
  cases h with
  | @intro name rest parts hmarker hknown hdivide =>
    cases lines with
    | nil => cases hmarker
    | cons first below =>
      rw [List.tail_cons] at hdivide
      obtain ⟨before, fields, tail, start, hd⟩ := Shape.divide_withAnyOption_eq_ok_iff.1 hdivide
      obtain ⟨b, hb, hoffset⟩ := hd.getElem?_content (endsFilled_dropMargin hend) hl
      obtain ⟨m, hm, hsuffix⟩ := suffix_of_getElem?_block hmarker hb
      refine ⟨b, m, hm, hsuffix, ?_⟩
      -- The extent of the block is that of the invocation's text.
      have hcut : cutAt '\n' (ofLines (first :: below)) = first :: below :=
        cutAt_ofLines (by simp) fun x hx => (hlines x hx).noNewline
      have hlength : (rest :: dropMargin below).length = (first :: below).length := by
        rw [List.length_cons, List.length_cons, length_dropMargin]
      rw [Invocation.sourceLine_content]
      show parts.contentOffset + j + 1 + gap (index + 1 - 1 + (cutAt '\n' (ofLines
        (first :: below))).length) parts.contentOffset parts.content j = index + b + 1
      rw [hcut, Nat.add_sub_cancel, ← hlength]
      omega

/-- **Every line that a parse reads stands in the source** where the invocations around it put it. -/
theorem Enters.placed {path : List Invocation} {lines : List Text} {offset : Nat}
    (h : p.Enters source path lines offset) : Placed source path lines offset := by
  induction h with
  | document =>
    intro i l hl
    exact ⟨l, by rwa [sourceLine, List.foldr_nil, Nat.zero_add], List.suffix_refl l⟩
  | quote _ hc _ ih => exact (ih.chunk hc).of_suffix fun i l hl => suffix_of_getElem?_dropMargin hl
  | @content path lines offset c shape inv henters hc _ hr ih =>
    intro j l hl
    obtain ⟨first, below, hlines, -, hend⟩ := lines_of_mem_chunksFrom hc
    have hplain : ∀ l ∈ c.lines, IsLine l := fun l hl => henters.isLine l (mem_of_mem_lines hc hl)
    obtain ⟨b, m, hm, hsuffix, hline⟩ :=
      hr.getElem?_content hplain (by rwa [hlines, List.tail_cons]) hl
    -- The invariant of the lines around the block takes over from the line in the block.
    obtain ⟨m', hm', hsuffix'⟩ := ih.chunk hc b m hm
    refine ⟨m', ?_, hsuffix.trans hsuffix'⟩
    rwa [sourceLine_append_singleton, hline]

/-- The first line of a chunk is the end of the line of the source that its number stands for. -/
theorem Enters.exists_source_line {path : List Invocation} {lines : List Text} {offset : Nat}
    (h : p.Enters source path lines offset) {c : Chunk} (hc : c ∈ chunks lines) :
    ∃ first m, c.lines.head? = some first ∧ lines[c.start]? = some first ∧
      (normalLines source)[sourceLine path (offset + c.start + 1) - 1]? = some m ∧ first <:+ m ∧
      firstLine (ofLines c.lines) = first := by
  obtain ⟨first, below, hlines, -, -⟩ := lines_of_mem_chunksFrom hc
  have hfirst : c.lines[0]? = some first := by rw [hlines, List.getElem?_cons_zero]
  obtain ⟨m, hm, hsuffix⟩ := h.placed.chunk hc 0 first hfirst
  refine ⟨first, m, by rw [hlines, List.head?_cons], ?_, hm, hsuffix, ?_⟩
  · have hstart := getElem?_of_mem_chunks hc hfirst
    rwa [Nat.add_zero] at hstart
  · have hplain : ∀ l ∈ first :: below, '\n' ∉ l := fun l hl =>
      (h.isLine l (mem_of_mem_lines hc (by rwa [hlines]))).noNewline
    rw [hlines, firstLine, cutAt_ofLines (by simp) hplain]
    rfl

end Parser

/-! ## What is reported -/

/-- The line that explicit markup reports, and its text. -/
def Block.origin? : Block → Option (Nat × Text)
  | comment line text => some (line, text)
  | directive inv _ _ => some (inv.line, inv.blockText)
  | _ => none

theorem Parser.Gives.origin {p : Parser} {nested : Parser.Nested} {lines : List Text} {offset : Nat}
    {b : Block} (h : p.Gives nested lines offset b) {line : Nat} {text : Text}
    (hb : b.origin? = some (line, text)) :
    ∃ c ∈ chunks lines, line = offset + c.start + 1 ∧ text = ofLines c.lines := by
  cases h with
  | comment hc hk =>
    cases hb
    exact ⟨_, hc, rfl, rfl⟩
  | directive hc hk hr hinner =>
    cases hr with
    | intro hmarker hknown hdivide =>
      cases hb
      exact ⟨_, hc, rfl, rfl⟩
  | quote hc hk hinner => cases hb
  | paragraph line is => cases hb
  | literal tag text => cases hb

namespace Passthrough

/-- **Where the reported lines stand in the source.** Explicit markup anywhere in a document, inside
the content of the invocations `path`, begins on the line `sourceLine path line` of the source, and so
does the marker of a directive that is unknown. That is the reported `line` exactly if none of the
invocations moves it. -/
theorem sourceLine_of_parse {e : Extensions} {r : Registry} (hr : registry e = .ok r)
    (config : ParserConfig) (source : Text) :
    (∀ d, Parser.parse ⟨r, config⟩ source = .ok d → ∀ (b : Block) (path : List Invocation),
      b.Occurs path d.children → ∀ line text, b.origin? = some (line, text) →
        1 ≤ line ∧ line ≤ (normalLines source).length ∧
        (∃ m, (normalLines source)[sourceLine path line - 1]? = some m ∧ firstLine text <:+ m) ∧
        (sourceLine path line = line ↔ ∀ inv ∈ path, inv.sourceLine line = line)) ∧
    (∀ name line, Parser.parse ⟨r, config⟩ source = .error (.unknownDirective name line) →
      r.directive? name = none ∧ ∃ path lines offset marker rest,
        Parser.Enters ⟨r, config⟩ source path lines offset ∧
        lines[line - 1 - offset]? = some marker ∧ directiveMarker? marker = some (name, rest) ∧
        1 ≤ line ∧ line ≤ (normalLines source).length ∧
        (∃ m, (normalLines source)[sourceLine path line - 1]? = some m ∧ marker <:+ m) ∧
        (sourceLine path line = line ↔ ∀ inv ∈ path, inv.sourceLine line = line)) := by
  have hkept : r.KeepsDirectives := registry_keepsDirectives hr
  have hrange : ∀ {path : List Invocation} {line : Nat} {m : Text},
      (normalLines source)[sourceLine path line - 1]? = some m → 1 ≤ line →
        line ≤ (normalLines source).length := by
    intro path line m hm hline
    have hlt := (List.getElem?_eq_some_iff.1 hm).1
    have hle := le_sourceLine path line
    omega
  constructor
  · intro d hd b path hocc line text hb
    obtain ⟨lines, offset, n, henters, -, hgives⟩ :=
      Parser.exists_enters_of_occurs hkept .document (Parser.parse_eq_ok_iff.1 hd) hocc
    rw [List.nil_append] at henters
    obtain ⟨c, hc, rfl, rfl⟩ := hgives.origin hb
    obtain ⟨first, m, -, -, hm, hsuffix, hfirst⟩ := henters.exists_source_line hc
    exact ⟨Nat.le_add_left 1 _, hrange hm (Nat.le_add_left 1 _), ⟨m, hm, by rwa [hfirst]⟩,
      sourceLine_eq_self_iff⟩
  · intro name line herror
    obtain ⟨path, lines, offset, n, henters, -, hfails⟩ :=
      Parser.exists_enters_of_error hkept .document (Parser.parse_eq_error_iff.1 herror)
    rw [List.nil_append] at henters
    obtain ⟨hunknown, c, hc, rfl, rest, hmarker⟩ := hfails.marker
    obtain ⟨first, m, hhead, hstart, hm, hsuffix, -⟩ := henters.exists_source_line hc
    rw [List.headD_eq_head?_getD, hhead, Option.getD_some] at hmarker
    refine ⟨hunknown, path, lines, offset, first, rest, henters, ?_, hmarker,
      Nat.le_add_left 1 _, hrange hm (Nat.le_add_left 1 _), ⟨m, hm, hsuffix⟩,
      sourceLine_eq_self_iff⟩
    rwa [Nat.add_sub_cancel, Nat.add_sub_cancel_left]

/-- A block whose content begins before its option and goes on after it. -/
def gappedSource : Text := ".. glossary:: .. a\n   :sorted:\n\n   .. c"

def gappedInvocation : Invocation :=
  { name := "glossary"
    arguments := []
    options := .flag "sorted"
    content := [".. a", "", ".. c"]
    line := 1
    contentOffset := 0
    blockText := gappedSource }

theorem parse_gappedSource {r : Registry} (hr : registry {} = .ok r) :
    Parser.parse ⟨r, { fileText := fun _ => .error [] }⟩ gappedSource = .ok
      ⟨[.directive gappedInvocation false [.comment 1 ".. a", .comment 3 ".. c"]]⟩ := by
  have hname : IsFieldName "sorted" := ⟨by decide, by decide, by decide, by decide⟩
  have hdivide : Directive.glossary.shape.Divides [".. a", ":sorted:", "", ".. c"] 0 [".. a"]
      [":sorted:"] ["", ".. c"] 0
      ⟨[], .flag "sorted", [".. a", "", ".. c"], 0⟩ := by
    refine ⟨rfl, by decide, by decide, ?_, ?_, readFields_flag hname, rfl, rfl, rfl, fun _ => rfl⟩
    · intro l hl
      cases hl
      decide
    · intro l hl
      cases hl
      decide
  have hlines : Text.normalLines gappedSource =
      (".. glossary:: .. a" :: ["   :sorted:", "", "   .. c"] : List Text) := by decide
  have hchildren : (if false then .ok [] else Parser.nestedWithin
      ⟨r, { fileText := fun _ => .error [] }⟩ 16 [".. a", "", ".. c"] 0) =
        .ok [.comment 1 ".. a", .comment 3 ".. c"] := by
    have hchunks : chunks [".. a", "", ".. c"] =
        [⟨.explicit, 0, [".. a"]⟩, ⟨.explicit, 2, [".. c"]⟩] := by cbv
    rw [if_neg Bool.false_ne_true]
    show Parser.blocks _ _ _ _ = _
    rw [Parser.blocks_eq, hchunks]
    rfl
  rw [Parser.parse_of_kept_marker hlines (by decide) (by decide) (by decide)
    (directive?_glossary hr) (Shape.divide_withAnyOption_eq_ok_iff.2 ⟨_, _, _, _, hdivide⟩)
    hchildren]
  rfl

theorem occurs_gappedSource : (Block.comment 3 ".. c").Occurs [gappedInvocation]
    [.directive gappedInvocation false [.comment 1 ".. a", .comment 3 ".. c"]] :=
  .directive (List.mem_singleton_self _) (.here (by simp))

/-- The second comment reports the third line, and stands on the fourth. -/
theorem sourceLine_of_parse_gappedSource :
    ∃ (r : Registry) (d : Document), registry {} = .ok r ∧
      Parser.parse ⟨r, { fileText := fun _ => .error [] }⟩ gappedSource = .ok d ∧
      (Block.comment 3 ".. c").Occurs [gappedInvocation] d.children ∧
      sourceLine [gappedInvocation] 3 = 4 ∧
      ∃ m, (normalLines gappedSource)[sourceLine [gappedInvocation] 3 - 1]? = some m ∧
        firstLine ".. c" <:+ m := by
  obtain ⟨r, hr⟩ := exists_registry_default
  have hd := parse_gappedSource hr
  obtain ⟨-, -, hline, -⟩ := (sourceLine_of_parse hr { fileText := fun _ => .error [] }
    gappedSource).1 _ hd _ _ occurs_gappedSource 3 ".. c" rfl
  exact ⟨r, _, hr, hd, occurs_gappedSource, by decide, hline⟩

/-- The third line does not end with the second comment. -/
theorem not_line_of_gappedSource :
    ∃ (r : Registry) (d : Document) (b : Block) (path : List Invocation) (line : Nat) (text : Text),
      registry {} = .ok r ∧
      Parser.parse ⟨r, { fileText := fun _ => .error [] }⟩ gappedSource = .ok d ∧
      b.Occurs path d.children ∧ b.origin? = some (line, text) ∧
      ¬∃ m, (normalLines gappedSource)[line - 1]? = some m ∧ firstLine text <:+ m := by
  obtain ⟨r, hr⟩ := exists_registry_default
  refine ⟨r, _, _, _, 3, ".. c", hr, parse_gappedSource hr, occurs_gappedSource, rfl, ?_⟩
  rintro ⟨m, hm, hsuffix⟩
  have hblank : (normalLines gappedSource)[3 - 1]? = some [] := by decide
  rw [hblank] at hm
  cases hm
  revert hsuffix
  decide

end Passthrough

end StructuredText

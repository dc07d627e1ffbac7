import StructuredText.Proofs.Document.Occurrence
import StructuredText.Proofs.Invocation.Division
import StructuredText.Proofs.Block.Chunk
import StructuredText.Proofs.Block.DirectiveMarker
import StructuredText.Proofs.Parser.Blocks
import StructuredText.Proofs.Passthrough.Interception

/-!
# What a parse reads

A parse reads the lines of the document, the lines of the quotes among them, and the content of the
invocations that are not raw. `Enters` follows it through these; what holds of the lines of a document
and passes to quotes and to content holds of all lines that a parse ever reads.

Every block of a parsed document comes from a chunk of lines that were read so
(`exists_enters_of_occurs`), and so does every error (`exists_enters_of_error`). With them a statement
on blocks or errors becomes one on lines.
-/

namespace StructuredText

namespace Parser

/-- The lines of explicit markup, whose first line has the given index, are a directive, and `inv` is
the invocation that is kept. -/
inductive Reads (p : Parser) (lines : List Text) (index : Nat) (shape : Shape) (raw : Bool) :
    Invocation → Prop where
  | intro {name rest : Text} {parts : Parts}
      (hmarker : directiveMarker? (lines.headD []) = some (name, rest))
      (hknown : p.registry.directive? name = some (.passthrough shape raw))
      (hdivide : shape.withAnyOption.divide (rest :: Text.dropMargin lines.tail) index = .ok parts) :
      Reads p lines index shape raw (keptInvocation name (Text.ofLines lines) index parts)

/-- A parse of the source comes to read the lines, the first of which it takes for the line with the
index `offset`, inside the content of the given invocations, the outermost first. -/
inductive Enters (p : Parser) (source : Text) :
    (path : List Invocation) → (lines : List Text) → (offset : Nat) → Prop where
  | document : Enters p source [] (Text.normalLines source) 0
  | quote {path : List Invocation} {lines : List Text} {offset : Nat} {c : Chunk}
      (h : Enters p source path lines offset) (hc : c ∈ chunks lines) (hk : c.kind = .quote) :
      Enters p source path (Text.dropMargin c.lines) (offset + c.start)
  | content {path : List Invocation} {lines : List Text} {offset : Nat} {c : Chunk}
      {shape : Shape} {inv : Invocation} (h : Enters p source path lines offset)
      (hc : c ∈ chunks lines) (hk : c.kind = .explicit)
      (hr : p.Reads c.lines (offset + c.start) shape false inv) :
      Enters p source (path ++ [inv]) inv.content inv.contentOffset

variable {p : Parser} {source : Text}

/-! ## What holds of every line that is read -/

theorem isLine_block {lines : List Text} (h : ∀ l ∈ lines, Text.IsLine l) {name rest : Text}
    (hmarker : directiveMarker? (lines.headD []) = some (name, rest)) :
    ∀ l ∈ rest :: Text.dropMargin lines.tail, Text.IsLine l :=
  forall_mem_block (fun h hsuffix => h.suffix hsuffix) h hmarker

theorem Enters.isLine {path : List Invocation} {lines : List Text} {offset : Nat}
    (h : p.Enters source path lines offset) : ∀ l ∈ lines, Text.IsLine l := by
  induction h with
  | document => exact fun l hl => Text.isLine_of_mem_normalLines hl
  | quote _ hc _ ih =>
    exact Text.isLine_of_mem_dropMargin fun l hl => ih l (mem_of_mem_lines hc hl)
  | content _ hc _ hr ih =>
    intro l hl
    cases hr with
    | intro hmarker hknown hdivide =>
      have hblock := isLine_block (fun l hl => ih l (mem_of_mem_lines hc hl)) hmarker
      obtain ⟨before, fields, tail, start, hd⟩ := Shape.divide_withAnyOption_eq_ok_iff.1 hdivide
      exact hblock l (hd.mem_lines_of_mem_content hl)

/-! ## Blocks come from what is read -/

/-- What a parse of lines, the first of which has the index `offset`, can give as a block. -/
inductive Gives (p : Parser) (nested : Nested) (lines : List Text) (offset : Nat) : Block → Prop where
  | quote {c : Chunk} {inner : List Block} (hc : c ∈ chunks lines) (hk : c.kind = .quote)
      (hinner : p.blocks nested (Text.dropMargin c.lines) (offset + c.start) = .ok inner) :
      Gives p nested lines offset (.quote (offset + c.start + 1) inner)
  | comment {c : Chunk} (hc : c ∈ chunks lines) (hk : c.kind = .explicit) :
      Gives p nested lines offset (.comment (offset + c.start + 1) (Text.ofLines c.lines))
  | directive {c : Chunk} {shape : Shape} {raw : Bool} {inv : Invocation} {inner : List Block}
      (hc : c ∈ chunks lines) (hk : c.kind = .explicit)
      (hr : p.Reads c.lines (offset + c.start) shape raw inv)
      (hinner : (if raw then .ok [] else nested inv.content inv.contentOffset) = .ok inner) :
      Gives p nested lines offset (.directive inv raw inner)
  | paragraph (line : Nat) (is : List Inline) : Gives p nested lines offset (.paragraph line is)
  | literal (tag text : Text) : Gives p nested lines offset (.ofText tag text)

/-- Explicit markup comes to a comment, or to the node of an invocation. -/
theorem comment_or_directive_of_explicitBlocks (hkept : p.registry.KeepsDirectives)
    {nested : Nested} {index : Nat} {lines : List Text} {bs : List Block}
    (h : p.explicitBlocks nested index lines = .ok bs) :
    bs = [.comment (index + 1) (Text.ofLines lines)] ∨
      ∃ shape raw inv children, p.Reads lines index shape raw inv ∧
        (if raw then .ok [] else nested inv.content inv.contentOffset) = .ok children ∧
        bs = [.directive inv raw children] := by
  cases hm : directiveMarker? (lines.headD []) with
  | none =>
    rw [explicitBlocks_comment hm] at h
    cases h
    exact Or.inl rfl
  | some marker =>
    obtain ⟨name, rest⟩ := marker
    rw [explicitBlocks_directive hm] at h
    cases hd : p.registry.directive? name with
    | none =>
      rw [directiveBlocks_unknown hd] at h
      cases h
    | some d =>
      obtain ⟨shape, raw, rfl⟩ := hkept name d hd
      obtain ⟨parts, children, hdivide, hchildren, rfl⟩ := (directiveBlocks_kept_eq_ok_iff hd).1 h
      exact Or.inr ⟨shape, raw, _, children, .intro hm hd hdivide, hchildren, rfl⟩

theorem gives_of_mem_explicitBlocks (hkept : p.registry.KeepsDirectives) {nested : Nested}
    {lines : List Text} {offset : Nat} {c : Chunk} (hc : c ∈ chunks lines)
    (hk : c.kind = .explicit) {bs : List Block}
    (h : p.explicitBlocks nested (offset + c.start) c.lines = .ok bs) {b : Block} (hb : b ∈ bs) :
    p.Gives nested lines offset b := by
  rcases comment_or_directive_of_explicitBlocks hkept h with
    rfl | ⟨shape, raw, inv, children, hr, hchildren, rfl⟩
  · rw [List.mem_singleton.1 hb]
    exact .comment hc hk
  · rw [List.mem_singleton.1 hb]
    exact .directive hc hk hr hchildren

theorem gives_of_mem_blocks (hkept : p.registry.KeepsDirectives) {nested : Nested}
    {lines : List Text} {offset : Nat} {bs : List Block}
    (h : p.blocks nested lines offset = .ok bs) {b : Block} (hb : b ∈ bs) :
    p.Gives nested lines offset b := by
  obtain ⟨c, hc, bs', hbs', hb⟩ := mem_blocks h hb
  cases hk : c.kind with
  | quote =>
    rw [chunkBlocks_quote hk] at hbs'
    obtain ⟨inner, hinner, rfl⟩ := Except.map_eq_ok_iff.1 hbs'
    rw [List.mem_singleton.1 hb]
    exact .quote hc hk hinner
  | explicit =>
    rw [chunkBlocks_explicit hk] at hbs'
    exact gives_of_mem_explicitBlocks hkept hc hk hbs' hb
  | paragraph =>
    rw [chunkBlocks_paragraph hk] at hbs'
    obtain ⟨is, rfl⟩ := mem_paragraphBlocks hbs' hb
    exact .paragraph _ is
  | literal =>
    rw [chunkBlocks_literal hk] at hbs'
    cases hbs'
    rw [List.mem_singleton.1 hb]
    exact .literal _ _

theorem nested_eq_ok {levels : Nat} {lines : List Text} {offset : Nat} {bs : List Block}
    (h : p.nestedWithin levels lines offset = .ok bs) :
    ∃ n, levels = n + 1 ∧ p.blocks (p.nestedWithin n) lines offset = .ok bs := by
  cases levels with
  | zero => cases h
  | succ n => exact ⟨n, rfl, by rw [← blocksWithin_eq]; exact h⟩

/-- **Every block of a parse is given by lines that the parse read**, with as many levels less to go
as there are invocations around the block. -/
theorem exists_enters_of_occurs (hkept : p.registry.KeepsDirectives) {b : Block}
    {path path' : List Invocation} {lines : List Text} {offset levels : Nat} {bs : List Block}
    (henters : p.Enters source path lines offset)
    (h : p.blocks (p.nestedWithin levels) lines offset = .ok bs) (hocc : b.Occurs path' bs) :
    ∃ lines' offset' n, p.Enters source (path ++ path') lines' offset' ∧
      levels = n + path'.length ∧ p.Gives (p.nestedWithin n) lines' offset' b := by
  induction hocc generalizing path lines offset levels with
  | here hb =>
    exact ⟨lines, offset, levels, by rwa [List.append_nil], rfl, gives_of_mem_blocks hkept h hb⟩
  | quote hb hin ih =>
    cases gives_of_mem_blocks hkept h hb with
    | quote hc hk hinner => exact ih (henters.quote hc hk) hinner
  -- The only elements are literal blocks, and nothing is nested in them.
  | element hb hin ih =>
    cases gives_of_mem_blocks hkept h hb with
    | literal tag text => exact absurd hin Block.not_occurs_nil
  | @directive _ _ _ _ raw hb hin ih =>
    cases gives_of_mem_blocks hkept h hb with
    | directive hc hk hr hinner =>
      -- Something occurs inside the node, so that its content was parsed, one level deeper.
      cases raw with
      | true =>
        cases hinner
        exact absurd hin Block.not_occurs_nil
      | false =>
        obtain ⟨n, rfl, hblocks⟩ := nested_eq_ok hinner
        obtain ⟨lines', offset', m, henters', rfl, hgives⟩ :=
          ih (henters.content hc hk hr) hblocks
        refine ⟨lines', offset', m, ?_, by rw [List.length_cons]; omega, hgives⟩
        rwa [List.append_assoc] at henters'

/-! ## Errors come from what is read -/

/-- What a parse of lines, the first of which has the index `offset`, can fail with by itself when
`levels` levels are left. -/
inductive Fails (p : Parser) : (levels : Nat) → List Text → (offset : Nat) → ParseError → Prop where
  | unknown {levels : Nat} {lines : List Text} {offset : Nat} {c : Chunk} {name rest : Text}
      (hc : c ∈ chunks lines) (hk : c.kind = .explicit)
      (hmarker : directiveMarker? (c.lines.headD []) = some (name, rest))
      (hunknown : p.registry.directive? name = none) :
      Fails p levels lines offset (.unknownDirective name (offset + c.start + 1))
  | block {levels : Nat} {lines : List Text} {offset : Nat} {c : Chunk} {name rest : Text}
      {shape : Shape} {raw : Bool} {cause : BlockError}
      (hc : c ∈ chunks lines) (hk : c.kind = .explicit)
      (hmarker : directiveMarker? (c.lines.headD []) = some (name, rest))
      (hknown : p.registry.directive? name = some (.passthrough shape raw))
      (hdivide : shape.withAnyOption.divide (rest :: Text.dropMargin c.lines.tail)
        (offset + c.start) = .error cause) :
      Fails p levels lines offset (.directive name (offset + c.start + 1) (.block cause))
  | depth {lines : List Text} {offset : Nat} {c : Chunk} {shape : Shape} {inv : Invocation}
      (hc : c ∈ chunks lines) (hk : c.kind = .explicit)
      (hr : p.Reads c.lines (offset + c.start) shape false inv) :
      Fails p 0 lines offset (.depthExceeded (inv.contentOffset + 1) p.config.maxDepth)
  | inline {levels : Nat} {lines : List Text} {offset : Nat} {c : Chunk} {e : ParseError}
      (hc : c ∈ chunks lines) (hk : c.kind = .paragraph)
      (h : inlineNodes p.registry (literalAnnouncement (Text.ofLines c.lines)).1
        (offset + c.start + 1) = .error e) : Fails p levels lines offset e

/-- The error of explicit markup is its own, or that of the content of an invocation. -/
theorem fails_of_explicitBlocks (hkept : p.registry.KeepsDirectives) {levels : Nat}
    {lines : List Text} {offset : Nat} {c : Chunk} (hc : c ∈ chunks lines) (hk : c.kind = .explicit)
    {e : ParseError}
    (h : p.explicitBlocks (p.nestedWithin levels) (offset + c.start) c.lines = .error e) :
    p.Fails levels lines offset e ∨ ∃ shape inv n,
      p.Reads c.lines (offset + c.start) shape false inv ∧ levels = n + 1 ∧
        p.blocks (p.nestedWithin n) inv.content inv.contentOffset = .error e := by
  cases hm : directiveMarker? (c.lines.headD []) with
  | none =>
    rw [explicitBlocks_comment hm] at h
    cases h
  | some marker =>
    obtain ⟨name, rest⟩ := marker
    rw [explicitBlocks_directive hm] at h
    cases hd : p.registry.directive? name with
    | none =>
      rw [directiveBlocks_unknown hd] at h
      cases h
      exact Or.inl (.unknown hc hk hm hd)
    | some d =>
      obtain ⟨shape, raw, rfl⟩ := hkept name d hd
      rw [directiveBlocks_kept hd] at h
      cases hdivide : shape.withAnyOption.divide (rest :: Text.dropMargin c.lines.tail)
          (offset + c.start) with
      | error cause =>
        rw [hdivide] at h
        cases h
        exact Or.inl (.block hc hk hm hd hdivide)
      | ok parts =>
        rw [hdivide] at h
        replace h := Except.map_eq_error_iff.1 h
        cases raw with
        | true => cases h
        | false =>
          have hr : p.Reads c.lines (offset + c.start) shape false _ := .intro hm hd hdivide
          cases levels with
          | zero =>
            cases h
            exact Or.inl (.depth hc hk hr)
          | succ n =>
            refine Or.inr ⟨shape, _, n, hr, rfl, ?_⟩
            rw [← blocksWithin_eq]
            exact h

/-- **Every error of a parse is one of lines that the parse read**, with as many levels less to go as
there are invocations around these lines. -/
theorem exists_enters_of_error (hkept : p.registry.KeepsDirectives) {levels : Nat} {e : ParseError}
    {path : List Invocation} {lines : List Text} {offset : Nat}
    (henters : p.Enters source path lines offset)
    (h : p.blocks (p.nestedWithin levels) lines offset = .error e) :
    ∃ path' lines' offset' n, p.Enters source (path ++ path') lines' offset' ∧
      levels = n + path'.length ∧ p.Fails n lines' offset' e := by
  induction levels using Nat.strongRecOn generalizing path lines offset with
  | _ levels ihLevels =>
    -- The content of an invocation has fewer levels, and that of a quote less indentation.
    induction lines, offset using quote_induction with
    | step lines offset ihQuote =>
      obtain ⟨c, hc, hchunk⟩ := error_of_blocks h
      have hhere : p.Fails levels lines offset e → ∃ path' lines' offset' n,
          p.Enters source (path ++ path') lines' offset' ∧ levels = n + path'.length ∧
            p.Fails n lines' offset' e := fun hfails =>
        ⟨[], lines, offset, levels, by rwa [List.append_nil], rfl, hfails⟩
      cases hk : c.kind with
      | quote =>
        rw [chunkBlocks_quote hk] at hchunk
        exact ihQuote c hc hk (henters.quote hc hk) (Except.map_eq_error_iff.1 hchunk)
      | explicit =>
        rw [chunkBlocks_explicit hk] at hchunk
        rcases fails_of_explicitBlocks hkept hc hk hchunk with
          hfails | ⟨shape, inv, n, hr, rfl, hinner⟩
        · exact hhere hfails
        · obtain ⟨path', lines', offset', m, henters', rfl, hfails⟩ :=
            ihLevels n (Nat.lt_succ_self n) (henters.content hc hk hr) hinner
          refine ⟨inv :: path', lines', offset', m, ?_, by rw [List.length_cons]; omega, hfails⟩
          rwa [List.append_assoc] at henters'
      | paragraph =>
        rw [chunkBlocks_paragraph hk] at hchunk
        simp only [paragraphBlocks] at hchunk
        split at hchunk
        · cases hchunk
        · exact hhere (.inline hc hk (Except.map_eq_error_iff.1 hchunk))
      | literal =>
        rw [chunkBlocks_literal hk] at hchunk
        cases hchunk

/-- The errors of inline markup: a role that is unknown, or one that refuses its text. -/
inductive OfRole (r : Registry) : ParseError → Prop where
  | unknown {name : Text} (line : Nat) (h : r.role? name = none) : OfRole r (.unknownRole name line)
  | refused {i : Interpreted} {role : Role} {fault : RoleFault} (h : r.role? i.name = some role)
      (hrun : role.run i = .error fault) : OfRole r (.role i.name i.line fault)

theorem ofRole_of_interpret {r : Registry} {i : Interpreted} {e : ParseError}
    (h : interpret r i = .error e) : OfRole r e := by
  cases hrole : r.role? i.name with
  | none =>
    rw [interpret, hrole] at h
    cases h
    exact .unknown _ hrole
  | some role =>
    rw [interpret, hrole] at h
    obtain ⟨fault, hrun, rfl⟩ := Except.mapError_eq_error_iff.1 h
    exact .refused hrole hrun

/-- Only interpreted text can be wrong. -/
theorem exists_interpret_of_assembleFrom {r : Registry} {line : Nat} {nodes : List Inline}
    {ss : List Segment} {e : ParseError} (h : assembleFrom r line nodes ss = .error e) :
    ∃ place c i, Segment.interpreted place c ∈ ss ∧ i.name = place.name ∧
      interpret r i = .error e := by
  induction ss generalizing line nodes with
  | nil => cases h
  | cons s ss ih =>
    rw [assembleFrom] at h
    split at h
    · next e' he =>
      cases h
      cases s with
      | interpreted place c =>
        exact ⟨place, c, _, List.mem_cons_self .., rfl, Except.map_eq_error_iff.1 he⟩
      | text s => cases he
      | emphasis c => cases he
      | strong c => cases he
      | literal c => cases he
      | phrase c _ => cases he
    · obtain ⟨place, c, i, hmem, hi⟩ := ih h
      exact ⟨place, c, i, List.mem_cons_of_mem _ hmem, hi⟩

theorem ofRole_of_inlineNodes {r : Registry} {text : Text} {line : Nat} {e : ParseError}
    (h : inlineNodes r text line = .error e) : OfRole r e := by
  obtain ⟨_, _, _, -, -, hinterpret⟩ := exists_interpret_of_assembleFrom h
  exact ofRole_of_interpret hinterpret

/-- A directive is unknown only where its marker stands. -/
theorem Fails.marker {levels : Nat} {lines : List Text} {offset : Nat} {name : Text} {line : Nat}
    (h : p.Fails levels lines offset (.unknownDirective name line)) :
    p.registry.directive? name = none ∧ ∃ c ∈ chunks lines, line = offset + c.start + 1 ∧
      ∃ rest, directiveMarker? (c.lines.headD []) = some (name, rest) := by
  cases h with
  | unknown hc hk hmarker hunknown => exact ⟨hunknown, _, hc, rfl, _, hmarker⟩
  | inline hc hk h => cases ofRole_of_inlineNodes h

end Parser

end StructuredText

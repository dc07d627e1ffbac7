import StructuredText.Parser
import StructuredText.Proofs.Block.Chunk
import StructuredText.Proofs.Block.DirectiveMarker
import StructuredText.Proofs.Except

/-!
# What a parse consists of

The blocks of some lines are those of their chunks, and an error is that of a chunk
(`mem_blocks`, `error_of_blocks`). The lemmas below say for each kind of chunk what it gives, so that
the parser is not opened again after this module. What is inside a quote is parsed by the same
function; a property of all lines therefore follows if it passes from the quotes among them to the
lines themselves (`quote_induction`).
-/

namespace StructuredText

namespace Parser

/-- The way in which a parser parses content when `levels` levels are left. -/
def nestedWithin (p : Parser) : (levels : Nat) → Nested
  | 0 => fun _ offset => .error (.depthExceeded (offset + 1) p.config.maxDepth)
  | levels + 1 => p.blocksWithin levels

theorem blocksWithin_eq (p : Parser) (levels : Nat) :
    p.blocksWithin levels = p.blocks (p.nestedWithin levels) := by
  cases levels <;> rfl

theorem parse_eq_ok_iff {p : Parser} {source : Text} {d : Document} :
    p.parse source = .ok d ↔
      p.blocks (p.nestedWithin p.config.maxDepth) (Text.normalLines source) 0 = .ok d.children := by
  rw [parse, blocksWithin_eq, Except.map_eq_ok_iff]
  constructor
  · rintro ⟨bs, hbs, rfl⟩
    exact hbs
  · intro h
    exact ⟨d.children, h, rfl⟩

theorem parse_eq_error_iff {p : Parser} {source : Text} {e : ParseError} :
    p.parse source = .error e ↔
      p.blocks (p.nestedWithin p.config.maxDepth) (Text.normalLines source) 0 = .error e := by
  rw [parse, blocksWithin_eq, Except.map_eq_error_iff]

/-- A property of lines holds of all lines if it passes to them from the quotes among them. -/
theorem quote_induction {motive : List Text → Nat → Prop}
    (step : ∀ lines offset, (∀ c ∈ chunks lines, c.kind = .quote →
      motive (Text.dropMargin c.lines) (offset + c.start)) → motive lines offset)
    (lines : List Text) (offset : Nat) : motive lines offset := by
  induction hn : Text.totalIndentation lines using Nat.strongRecOn generalizing lines offset with
  | _ n ih =>
    subst hn
    exact step lines offset fun c hc hk => ih _ (totalIndentation_quote_lt hc hk) _ _ rfl

/-- A block comes from one of the chunks. -/
theorem mem_blocks {p : Parser} {nested : Nested} {lines : List Text} {offset : Nat}
    {bs : List Block} (h : p.blocks nested lines offset = .ok bs) {b : Block} (hb : b ∈ bs) :
    ∃ c ∈ chunks lines, ∃ bs', p.chunkBlocks nested (p.blocks nested) offset c = .ok bs' ∧
      b ∈ bs' := by
  rw [blocks_eq] at h
  obtain ⟨parsed, hparsed, h⟩ := Except.bind_eq_ok_iff.1 h
  cases h
  obtain ⟨bs', hbs', hb⟩ := List.mem_flatten.1 hb
  obtain ⟨c, hc, hcb⟩ := Except.exists_of_mapM_eq_ok hparsed bs' hbs'
  exact ⟨c, hc, bs', hcb, hb⟩

/-- An error comes from one of the chunks. -/
theorem error_of_blocks {p : Parser} {nested : Nested} {lines : List Text} {offset : Nat}
    {e : ParseError} (h : p.blocks nested lines offset = .error e) :
    ∃ c ∈ chunks lines, p.chunkBlocks nested (p.blocks nested) offset c = .error e := by
  rw [blocks_eq] at h
  rcases Except.bind_eq_error_iff.1 h with h | ⟨parsed, -, h⟩
  · exact Except.exists_of_mapM_eq_error h
  · cases h

/-- Lines can be parsed if each of their chunks can. -/
theorem exists_blocks_eq_ok {p : Parser} {nested : Nested} {lines : List Text} {offset : Nat}
    (h : ∀ c ∈ chunks lines, ∃ bs, p.chunkBlocks nested (p.blocks nested) offset c = .ok bs) :
    ∃ bs, p.blocks nested lines offset = .ok bs := by
  cases hblocks : p.blocks nested lines offset with
  | ok bs => exact ⟨bs, rfl⟩
  | error e =>
    obtain ⟨c, hc, he⟩ := error_of_blocks hblocks
    obtain ⟨bs, hbs⟩ := h c hc
    rw [he] at hbs
    cases hbs

/-- Lines that are one chunk. -/
theorem blocks_of_chunk {p : Parser} {nested : Nested} {lines : List Text} {offset : Nat}
    {c : Chunk} (h : chunks lines = [c]) :
    p.blocks nested lines offset = p.chunkBlocks nested (p.blocks nested) offset c := by
  rw [blocks_eq, h, List.mapM_cons, List.mapM_nil]
  cases p.chunkBlocks nested (p.blocks nested) offset c with
  | error e => rfl
  | ok bs =>
    show Except.ok [bs].flatten = Except.ok bs
    rw [List.flatten_singleton]

section Chunks

variable {p : Parser} {nested quoted : Nested} {offset : Nat} {c : Chunk}

theorem chunkBlocks_quote (hk : c.kind = .quote) :
    p.chunkBlocks nested quoted offset c =
      (quoted (Text.dropMargin c.lines) (offset + c.start)).map fun bs =>
        [Block.quote (offset + c.start + 1) bs] := by
  rw [chunkBlocks, hk]

theorem chunkBlocks_explicit (hk : c.kind = .explicit) :
    p.chunkBlocks nested quoted offset c = p.explicitBlocks nested (offset + c.start) c.lines := by
  rw [chunkBlocks, hk]

theorem chunkBlocks_paragraph (hk : c.kind = .paragraph) :
    p.chunkBlocks nested quoted offset c = p.paragraphBlocks (offset + c.start) c.lines := by
  rw [chunkBlocks, hk]

theorem chunkBlocks_literal (hk : c.kind = .literal) :
    p.chunkBlocks nested quoted offset c = .ok [literalBlock c.lines] := by
  rw [chunkBlocks, hk]

theorem mem_paragraphBlocks {index : Nat} {lines : List Text} {bs : List Block}
    (h : p.paragraphBlocks index lines = .ok bs) {b : Block} (hb : b ∈ bs) :
    ∃ is, b = .paragraph (index + 1) is := by
  simp only [paragraphBlocks] at h
  split at h
  · cases h
    cases hb
  · obtain ⟨is, -, rfl⟩ := Except.map_eq_ok_iff.1 h
    exact ⟨is, List.mem_singleton.1 hb⟩

/-- Explicit markup without a directive's marker is a comment. -/
theorem explicitBlocks_comment {index : Nat} {lines : List Text}
    (h : directiveMarker? (lines.headD []) = none) :
    p.explicitBlocks nested index lines = .ok [.comment (index + 1) (Text.ofLines lines)] := by
  rw [explicitBlocks, h]

theorem explicitBlocks_directive {index : Nat} {lines : List Text} {name rest : Text}
    (h : directiveMarker? (lines.headD []) = some (name, rest)) :
    p.explicitBlocks nested index lines =
      p.directiveBlocks nested name (rest :: Text.dropMargin lines.tail) (Text.ofLines lines)
        index := by
  rw [explicitBlocks, h]

end Chunks

/-- What holds of the lines of explicit markup, and passes from a line to what is left of it, holds of
the lines that are taken for a directive block. -/
theorem forall_mem_block {P : Text → Prop} (hP : ∀ {l m : Text}, P l → m <:+ l → P m)
    {lines : List Text} (h : ∀ l ∈ lines, P l) {name rest : Text}
    (hmarker : directiveMarker? (lines.headD []) = some (name, rest)) :
    ∀ l ∈ rest :: Text.dropMargin lines.tail, P l := by
  intro l hl
  rcases List.mem_cons.1 hl with rfl | hl
  · cases lines with
    | nil => cases hmarker
    | cons first below =>
      exact hP (h first (List.mem_cons_self ..)) (of_directiveMarker? hmarker).2
  · obtain ⟨m, hm, hsuffix, -⟩ := Text.mem_dropMargin hl
    exact hP (h m (List.mem_of_mem_tail hm)) hsuffix

/-! ## Lines that begin with a directive -/

section Marker

variable {p : Parser} {nested : Nested} {l : Text} {ls : List Text} {offset : Nat}
  {name rest : Text}

theorem explicitBlocks_cons (h : directiveMarker? l = some (name, rest)) :
    p.explicitBlocks nested offset (l :: ls) =
      p.directiveBlocks nested name (rest :: Text.dropMargin ls) (Text.ofLines (l :: ls)) offset := by
  have hhead : directiveMarker? ((l :: ls).headD []) = some (name, rest) := h
  rw [explicitBlocks_directive hhead, List.tail_cons]

/-- The first blocks of such lines are those of the directive. -/
theorem exists_directiveBlocks (hm : directiveMarker? l = some (name, rest)) {bs : List Block}
    (h : p.blocks nested (l :: ls) offset = .ok bs) :
    ∃ below bs' bs'', below <+: ls ∧
      p.directiveBlocks nested name (rest :: Text.dropMargin below) (Text.ofLines (l :: below))
        offset = .ok bs' ∧ bs = bs' ++ bs'' := by
  obtain ⟨index, hchunks⟩ := exists_chunks_eq_cons (isExplicit_of_directiveMarker? hm) ls
  -- The blocks of the first chunk come first, whatever the other chunks are.
  rw [blocks_eq, hchunks, List.mapM_cons] at h
  obtain ⟨parsed, hparsed, h⟩ := Except.bind_eq_ok_iff.1 h
  obtain ⟨bs', hbs', hparsed⟩ := Except.bind_eq_ok_iff.1 hparsed
  obtain ⟨rest', -, hparsed⟩ := Except.bind_eq_ok_iff.1 hparsed
  cases hparsed
  cases h
  rw [chunkBlocks_explicit rfl, blockLines, explicitBlocks_cons hm] at hbs'
  exact ⟨_, bs', rest'.flatten, (List.cons_prefix_cons.1 (prefix_blockLines l ls)).2, hbs', rfl⟩

/-- **If the other lines continue the first, the blocks of the directive are all there are.** -/
theorem blocks_of_marker (hm : directiveMarker? l = some (name, rest))
    (hc : ∀ x ∈ ls, Text.continuesBlock x = true) (hend : Text.EndsFilled ls) :
    p.blocks nested (l :: ls) offset =
      p.directiveBlocks nested name (rest :: Text.dropMargin ls) (Text.ofLines (l :: ls))
        offset := by
  have hchunks := chunks_of_block (isExplicit_of_directiveMarker? hm) hc hend
  rw [blocks_of_chunk hchunks, chunkBlocks_explicit rfl, explicitBlocks_cons hm, Nat.add_zero]

/-- Parsing a source whose lines are a directive. -/
theorem parse_of_marker {source : Text} (hlines : Text.normalLines source = l :: ls)
    (hm : directiveMarker? l = some (name, rest)) (hc : ∀ x ∈ ls, Text.continuesBlock x = true)
    (hend : Text.EndsFilled ls) :
    p.parse source = (p.directiveBlocks (p.nestedWithin p.config.maxDepth) name
      (rest :: Text.dropMargin ls) (Text.ofLines (l :: ls)) 0).map Document.mk := by
  rw [parse, blocksWithin_eq, hlines, blocks_of_marker hm hc hend]

end Marker

/-! ## Directives that are kept -/

/-- What a kept directive makes of its parts, where `text` is its block and `index` that of its
marker. -/
def keptInvocation (name : Text) (text : Text) (index : Nat) (parts : Parts) : Invocation :=
  { name
    arguments := parts.arguments
    options := parts.options
    content := parts.content
    line := index + 1
    contentOffset := parts.contentOffset
    blockText := text }

section Kept

variable {p : Parser} {nested : Nested} {name : Text} {lines : List Text} {text : Text}
  {index : Nat} {shape : Shape} {raw : Bool}

/-- The blocks of a kept directive: its node, whose content is parsed if it is not raw. -/
theorem directiveBlocks_kept (hd : p.registry.directive? name = some (.passthrough shape raw)) :
    p.directiveBlocks nested name lines text index =
      match shape.withAnyOption.divide lines index with
      | .error cause => .error (.directive name (index + 1) (.block cause))
      | .ok parts =>
        (if raw then .ok [] else nested parts.content parts.contentOffset).map fun children =>
          [.directive (keptInvocation name text index parts) raw children] := by
  rw [directiveBlocks, hd]
  dsimp only
  rw [invocation]
  have hshape : (Directive.passthrough shape raw).shape = shape.withAnyOption := rfl
  rw [hshape]
  cases shape.withAnyOption.divide lines index with
  | error cause => rfl
  | ok parts =>
    dsimp only
    cases raw with
    | true => rfl
    | false =>
      simp only [Directive.run, parseContent, context, keptInvocation, Bool.false_eq_true, if_false]
      cases nested parts.content parts.contentOffset with
      | error e => rfl
      | ok children => rfl

theorem directiveBlocks_unknown (hd : p.registry.directive? name = none) :
    p.directiveBlocks nested name lines text index = .error (.unknownDirective name (index + 1)) := by
  rw [directiveBlocks, hd]

theorem directiveBlocks_kept_eq_ok_iff
    (hd : p.registry.directive? name = some (.passthrough shape raw)) {bs : List Block} :
    p.directiveBlocks nested name lines text index = .ok bs ↔
      ∃ parts children, shape.withAnyOption.divide lines index = .ok parts ∧
        (if raw then .ok [] else nested parts.content parts.contentOffset) = .ok children ∧
        bs = [.directive (keptInvocation name text index parts) raw children] := by
  rw [directiveBlocks_kept hd]
  cases shape.withAnyOption.divide lines index with
  | error cause => simp
  | ok parts =>
    dsimp only
    rw [Except.map_eq_ok_iff]
    constructor
    · rintro ⟨children, hchildren, rfl⟩
      exact ⟨parts, children, rfl, hchildren, rfl⟩
    · rintro ⟨parts', children, hparts, hchildren, rfl⟩
      cases hparts
      exact ⟨children, hchildren, rfl⟩

/-- Parsing a source whose lines are a kept directive. -/
theorem parse_of_kept_marker {source l rest : Text} {ls : List Text} {parts : Parts}
    {children : List Block} (hlines : Text.normalLines source = l :: ls)
    (hm : directiveMarker? l = some (name, rest)) (hc : ∀ x ∈ ls, Text.continuesBlock x = true)
    (hend : Text.EndsFilled ls) (hd : p.registry.directive? name = some (.passthrough shape raw))
    (hdivide : shape.withAnyOption.divide (rest :: Text.dropMargin ls) 0 = .ok parts)
    (hchildren : (if raw then .ok [] else
      p.nestedWithin p.config.maxDepth parts.content parts.contentOffset) = .ok children) :
    p.parse source =
      .ok ⟨[.directive (keptInvocation name (Text.ofLines (l :: ls)) 0 parts) raw children]⟩ := by
  rw [parse_of_marker hlines hm hc hend, Except.map_eq_ok_iff]
  exact ⟨_, (directiveBlocks_kept_eq_ok_iff hd).2 ⟨parts, children, hdivide, hchildren, rfl⟩, rfl⟩

end Kept

end Parser

end StructuredText

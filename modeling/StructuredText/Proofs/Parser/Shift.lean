import StructuredText.Proofs.Invocation.Division
import StructuredText.Proofs.Parser.Blocks
import StructuredText.Proofs.Passthrough.Interception

/-!
# Parsing further down

Where directives are kept and roles are the library's own, the index of the first line is only added
to the lines that are reported: the same lines further down give the same blocks and errors, further
down (`blocks_add`, and on every level `shifts_nestedWithin`). In particular whether they can be
parsed does not depend on where they stand (`exists_nested_ok`).
-/

namespace StructuredText

/-- The invocation `k` lines further down. -/
def Invocation.shift (k : Nat) (inv : Invocation) : Invocation :=
  { inv with line := inv.line + k, contentOffset := inv.contentOffset + k }

mutual

/-- The block `k` lines further down, with all that is nested in it. -/
def Block.shift (k : Nat) : Block → Block
  | .paragraph line is => .paragraph (line + k) is
  | .quote line bs => .quote (line + k) (Block.shiftAll k bs)
  | .comment line text => .comment (line + k) text
  | .element tag attributes text bs => .element tag attributes text (Block.shiftAll k bs)
  | .directive inv raw bs => .directive (inv.shift k) raw (Block.shiftAll k bs)
  | .extension tag inv attributes bs =>
    .extension tag (inv.shift k) attributes (Block.shiftAll k bs)

/-- The blocks `k` lines further down. -/
def Block.shiftAll (k : Nat) : List Block → List Block
  | [] => []
  | b :: bs => Block.shift k b :: Block.shiftAll k bs

end

theorem Block.shiftAll_eq_map (k : Nat) (bs : List Block) : shiftAll k bs = bs.map (shift k) := by
  induction bs with
  | nil => rfl
  | cons b bs ih => rw [shiftAll, ih, List.map_cons]

/-- The error `k` lines further down. -/
def ParseError.shift (k : Nat) : ParseError → ParseError
  | unknownDirective name line => unknownDirective name (line + k)
  | directive name line fault => directive name (line + k) fault
  | unknownRole name line => unknownRole name (line + k)
  | role name line fault => role name (line + k) fault
  | depthExceeded line maximum => depthExceeded (line + k) maximum

/-- What parsing the same lines `k` lines further down gives. -/
def shiftResult (k : Nat) (x : Except ParseError (List Block)) : Except ParseError (List Block) :=
  (x.map (Block.shiftAll k)).mapError (ParseError.shift k)

/-! ## Inline nodes -/

theorem interpret_add {registry : Registry} (h : registry.NativeRoles) (i : Interpreted) (k : Nat) :
    interpret registry { i with line := i.line + k } =
      (interpret registry i).mapError (ParseError.shift k) := by
  unfold interpret
  dsimp only
  cases hr : registry.role? i.name with
  | none => rfl
  | some role =>
    dsimp only
    -- A native role does not see the line; only the error around it does.
    rw [Role.run_line (h _ _ hr)]
    cases role.run i with
    | error fault => rfl
    | ok nodes => rfl

theorem assemble_add {registry : Registry} (h : registry.NativeRoles) (line k : Nat)
    (nodes : List Inline) (segment : Segment) :
    segment.assemble registry (line + k) nodes =
      (segment.assemble registry line nodes).mapError (ParseError.shift k) := by
  cases segment with
  | interpreted place c =>
    simp only [Segment.assemble]
    rw [interpret_add h { name := place.name, rawtext := _, text := c, line }]
    cases interpret registry _ with
    | error e => rfl
    | ok nodes => rfl
  | _ => rfl

theorem assembleFrom_add {registry : Registry} (h : registry.NativeRoles) (line k : Nat)
    (nodes : List Inline) (segments : List Segment) :
    assembleFrom registry (line + k) nodes segments =
      (assembleFrom registry line nodes segments).mapError (ParseError.shift k) := by
  induction segments generalizing line nodes with
  | nil => rfl
  | cons s ss ih =>
    rw [assembleFrom, assembleFrom, assemble_add h]
    cases s.assemble registry line nodes with
    | error e => rfl
    | ok nodes =>
      show assembleFrom registry (line + k + s.lineBreaks) nodes ss = _
      rw [Nat.add_right_comm, ih]

theorem inlineNodes_add {registry : Registry} (h : registry.NativeRoles) (text : Text)
    (line k : Nat) : inlineNodes registry text (line + k) =
      (inlineNodes registry text line).mapError (ParseError.shift k) :=
  assembleFrom_add h line k [] _

/-! ## Blocks -/

namespace Parser

/-- Whether nested content may stand further down. -/
def Nested.Shifts (nested : Nested) : Prop :=
  ∀ lines offset k, nested lines (offset + k) = shiftResult k (nested lines offset)

theorem blockBody_add (lines : List Text) (offset k : Nat) :
    Shape.blockBody lines (offset + k) =
      ((Shape.blockBody lines offset).1, (Shape.blockBody lines offset).2 + k) := by
  unfold Shape.blockBody
  split
  · rfl
  · split
    · rw [Nat.add_right_comm]
    · rfl

/-- The parts of a block `k` lines further down. -/
def shiftParts (k : Nat) (parts : Parts) : Parts :=
  { parts with contentOffset := parts.contentOffset + k }

theorem divide_add (shape : Shape) (lines : List Text) (offset k : Nat) :
    shape.withAnyOption.divide lines (offset + k) =
      (shape.withAnyOption.divide lines offset).map (shiftParts k) := by
  have hafter : ∀ before fields tail start,
      shape.contentAfter before fields tail (start + k) =
        ((shape.contentAfter before fields tail start).1,
          (shape.contentAfter before fields tail start).2 + k) := by
    intro before fields tail start
    unfold Shape.contentAfter
    split
    · rfl
    · rw [Nat.add_right_comm start, Nat.add_right_comm]
  rw [Shape.divide_withAnyOption, Shape.divide_withAnyOption, blockBody_add]
  dsimp only
  rw [hafter]
  cases readFields .any ∅ _ with
  | error e => rfl
  | ok o =>
    cases shape.argumentsIn _ with
    | error e => rfl
    | ok arguments =>
      show (if _ then _ else _) = Except.map _ (if _ then _ else _)
      split
      · rfl
      · simp only [Except.map, shiftParts]
        rw [Nat.add_right_comm]

variable {p : Parser} {nested : Nested}

theorem paragraphBlocks_add (hroles : p.registry.NativeRoles) (index k : Nat) (lines : List Text) :
    p.paragraphBlocks (index + k) lines = shiftResult k (p.paragraphBlocks index lines) := by
  simp only [paragraphBlocks]
  split
  · rfl
  · rw [Nat.add_right_comm, inlineNodes_add hroles]
    cases inlineNodes p.registry _ _ with
    | error e => rfl
    | ok is =>
      simp [shiftResult, Except.map, Except.mapError_ok, Block.shiftAll, Block.shift,
        Nat.add_right_comm]

theorem directiveBlocks_add (hkept : p.registry.KeepsDirectives) (hn : nested.Shifts) (name : Text)
    (lines : List Text) (text : Text) (index k : Nat) :
    p.directiveBlocks nested name lines text (index + k) =
      shiftResult k (p.directiveBlocks nested name lines text index) := by
  cases hd : p.registry.directive? name with
  | none =>
    rw [directiveBlocks_unknown hd, directiveBlocks_unknown hd, Nat.add_right_comm]
    rfl
  | some d =>
    obtain ⟨shape, raw, rfl⟩ := hkept name d hd
    rw [directiveBlocks_kept hd, directiveBlocks_kept hd, divide_add]
    cases shape.withAnyOption.divide lines index with
    | error cause =>
      simp [Except.map, shiftResult, Except.mapError_error, ParseError.shift, Nat.add_right_comm]
    | ok parts =>
      -- The invocation carries two positions, and both move.
      have hinv : keptInvocation name text (index + k) (shiftParts k parts) =
          (keptInvocation name text index parts).shift k := by
        simp [keptInvocation, Invocation.shift, shiftParts, Nat.add_right_comm]
      simp only [Except.map]
      rw [hinv]
      cases raw with
      | true => rfl
      | false =>
        simp only [Bool.false_eq_true, if_false, shiftParts]
        rw [hn]
        cases nested parts.content parts.contentOffset with
        | error e => rfl
        | ok children => rfl

theorem explicitBlocks_add (hkept : p.registry.KeepsDirectives) (hn : nested.Shifts)
    (index k : Nat) (lines : List Text) :
    p.explicitBlocks nested (index + k) lines =
      shiftResult k (p.explicitBlocks nested index lines) := by
  cases hm : directiveMarker? (lines.headD []) with
  | none =>
    rw [explicitBlocks_comment hm, explicitBlocks_comment hm, Nat.add_right_comm]
    rfl
  | some marker =>
    obtain ⟨name, rest⟩ := marker
    rw [explicitBlocks_directive hm, explicitBlocks_directive hm, directiveBlocks_add hkept hn]

/-- The blocks of lines further down, if nested content may stand further down. -/
theorem blocks_add (hkept : p.registry.KeepsDirectives) (hroles : p.registry.NativeRoles)
    (hn : nested.Shifts) : Nested.Shifts (p.blocks nested) := by
  intro lines offset k
  induction lines, offset using quote_induction with
  | step lines offset ih =>
    have hchunk : ∀ c ∈ chunks lines, p.chunkBlocks nested (p.blocks nested) (offset + k) c =
        shiftResult k (p.chunkBlocks nested (p.blocks nested) offset c) := by
      intro c hc
      cases hk : c.kind with
      | quote =>
        rw [chunkBlocks_quote hk, chunkBlocks_quote hk, Nat.add_right_comm offset k c.start, ih c hc hk]
        cases p.blocks nested _ _ with
        | error e => rfl
        | ok bs =>
          simp [shiftResult, Except.map, Except.mapError_ok, Block.shiftAll, Block.shift,
            Nat.add_right_comm]
      | explicit =>
        rw [chunkBlocks_explicit hk, chunkBlocks_explicit hk, Nat.add_right_comm,
          explicitBlocks_add hkept hn]
      | paragraph =>
        rw [chunkBlocks_paragraph hk, chunkBlocks_paragraph hk, Nat.add_right_comm,
          paragraphBlocks_add hroles]
      | literal =>
        rw [chunkBlocks_literal hk, chunkBlocks_literal hk]
        rfl
    rw [blocks_eq, blocks_eq, Except.mapM_map_mapError hchunk]
    cases (chunks lines).mapM (p.chunkBlocks nested (p.blocks nested) offset) with
    | error e => rfl
    | ok parsed =>
      show Except.ok (parsed.map (Block.shiftAll k)).flatten = Except.ok (Block.shiftAll k parsed.flatten)
      rw [Block.shiftAll_eq_map, List.map_flatten]
      congr 2
      exact List.map_congr_left fun bs _ => Block.shiftAll_eq_map k bs

theorem shifts_nestedWithin (hkept : p.registry.KeepsDirectives)
    (hroles : p.registry.NativeRoles) (levels : Nat) : Nested.Shifts (p.nestedWithin levels) := by
  induction levels with
  | zero =>
    intro lines offset k
    simp only [nestedWithin]
    rw [Nat.add_right_comm]
    rfl
  | succ levels ih =>
    intro lines offset k
    simp only [nestedWithin]
    rw [blocksWithin_eq]
    exact blocks_add hkept hroles ih lines offset k

/-- Whether content can be parsed does not depend on where it stands. -/
theorem exists_nested_ok (hn : nested.Shifts) {lines : List Text} {offset : Nat}
    {bs : List Block} (h : nested lines offset = .ok bs) (offset' : Nat) :
    ∃ bs', nested lines offset' = .ok bs' := by
  have hoff : nested lines (0 + offset) = shiftResult offset (nested lines 0) := hn lines 0 offset
  have hoff' : nested lines (0 + offset') = shiftResult offset' (nested lines 0) :=
    hn lines 0 offset'
  rw [Nat.zero_add] at hoff hoff'
  cases hz : nested lines 0 with
  | error e =>
    rw [hz, h] at hoff
    cases hoff
  | ok bs' =>
    rw [hz] at hoff'
    exact ⟨_, hoff'⟩

end Parser

end StructuredText

import Mathlib.Data.Prod.Lex
import Mathlib.Data.Set.Finite.Lattice
import Mathlib.Order.Bounds.Basic
import StructuredText.Proofs.Directive.Native
import StructuredText.Proofs.Parser.Runs

/-!
# Why a parse comes to an end

On its way through some lines the parser comes to lines that it has to parse first: what is inside a
quote, at the same depth, and what a directive parses, one level deeper. The latter may be the lines
of a file, which are no part of the document. So the size of the lines says nothing, and what
descends is a pair: the number of levels that are left, and then the indentation of all lines taken
together (`Needs.descends`, `wellFounded_needs`).

Where the directives are the library's own, a chunk raises one such task at most (`Raises.unique`).
Finitely many rounds of the parser then are enough for any document, whatever the rounds after them
would give (`exists_rounds`), so that the parser comes to an end (`terminates`).
-/

namespace StructuredText

open Text (normalLines totalIndentation)

namespace Directive

/-- One of the library's directives parses one piece of content at most. -/
theorem IsNative.mayParse_unique {d : Directive} (h : d.IsNative) {config : ParserConfig}
    {inv : Invocation} {lines lines' : List Text} {offset offset' : Nat}
    (hparse : d.MayParse config inv lines offset)
    (hparse' : d.MayParse config inv lines' offset') : lines = lines' ∧ offset = offset' := by
  cases hparse with
  | body tag shape =>
    cases hparse'
    exact ⟨rfl, rfl⟩
  | included tag shape hpath hfile =>
    cases hparse' with
    | included _ _ hpath' hfile' =>
      rw [hpath] at hpath'
      cases hpath'
      rw [hfile] at hfile'
      cases hfile'
      exact ⟨rfl, rfl⟩
  | kept shape =>
    cases hparse'
    exact ⟨rfl, rfl⟩
  | custom shape run => exact absurd h id

end Directive

namespace Parser

/-- Lines that are to be parsed, the depth they stand at, and the index of the first of them. -/
structure Task where
  depth : Nat
  lines : List Text
  offset : Nat

/-- One round of the parser: what it makes of a task, where `self` does the tasks that come up on the
way. -/
def round (p : Parser) (self : Task → Except ParseError (List Block)) (t : Task) :
    Except ParseError (List Block) :=
  if p.config.maxDepth < t.depth then
    .error (.depthExceeded (t.offset + 1) p.config.maxDepth)
  else do
    let parsed ← (chunks t.lines).mapM
      (p.chunkBlocks (fun lines offset => self ⟨t.depth + 1, lines, offset⟩)
        (fun lines offset => self ⟨t.depth, lines, offset⟩) t.offset)
    return parsed.flatten

/-- The parser with a number of rounds. What is left to be done after them is left to `rest`. -/
def rounds (p : Parser) (rest : Task → Except ParseError (List Block)) :
    Nat → Task → Except ParseError (List Block)
  | 0 => rest
  | n + 1 => p.round (p.rounds rest n)

/-- The task that comes up in a chunk: what is inside a quote, or what a directive parses. -/
inductive Raises (p : Parser) (t : Task) (c : Chunk) : Task → Prop where
  | quote (hk : c.kind = .quote) :
      Raises p t c ⟨t.depth, Text.dropMargin c.lines, t.offset + c.start⟩
  | nested {d : Directive} {inv : Invocation} {lines : List Text} {offset : Nat}
      (hk : c.kind = .explicit) (hhands : p.Hands c.lines (t.offset + c.start) d inv)
      (hparse : d.MayParse p.config inv lines offset) :
      Raises p t c ⟨t.depth + 1, lines, offset⟩

/-- Whether a task comes up on the way through another one. -/
def Needs (p : Parser) (t t' : Task) : Prop :=
  t.depth ≤ p.config.maxDepth ∧ ∃ c ∈ chunks t.lines, p.Raises t c t'

variable {p : Parser}

/-! ## What descends -/

/-- **What comes up on the way is one level deeper, or as deep and less indented.** Nothing comes up
beyond the limit. -/
theorem Needs.descends {t t' : Task} (h : p.Needs t t') :
    t.depth ≤ p.config.maxDepth ∧ (t'.depth = t.depth + 1 ∨
      t'.depth = t.depth ∧ totalIndentation t'.lines < totalIndentation t.lines) := by
  obtain ⟨hdepth, c, hc, hraises⟩ := h
  refine ⟨hdepth, ?_⟩
  cases hraises with
  | quote hk => exact Or.inr ⟨rfl, totalIndentation_quote_lt hc hk⟩
  | nested hk hhands hparse => exact Or.inl rfl

/-- The levels that are left below a task, and the indentation of its lines. -/
def rank (p : Parser) (t : Task) : Nat ×ₗ Nat :=
  toLex (p.config.maxDepth + 1 - t.depth, totalIndentation t.lines)

theorem Needs.rank_lt {t t' : Task} (h : p.Needs t t') : p.rank t' < p.rank t := by
  obtain ⟨hdepth, hdescends⟩ := h.descends
  refine Prod.Lex.toLex_lt_toLex.2 ?_
  rcases hdescends with hdeeper | ⟨hsame, hlt⟩
  · exact Or.inl (by omega)
  · exact Or.inr ⟨by omega, hlt⟩

theorem wellFounded_needs (p : Parser) : WellFounded fun t' t => p.Needs t t' :=
  Subrelation.wf Needs.rank_lt (InvImage.wf p.rank wellFounded_lt)

/-! ## One round -/

/-- A chunk raises one task at most. -/
theorem Raises.unique (hr : p.registry.NativeDirectives) {t t' t'' : Task} {c : Chunk}
    (h : p.Raises t c t') (h' : p.Raises t c t'') : t' = t'' := by
  cases h with
  | quote hk =>
    cases h' with
    | quote _ => rfl
    | nested hk' _ _ =>
      rw [hk] at hk'
      cases hk'
  | nested hk hhands hparse =>
    cases h' with
    | quote hk' =>
      rw [hk] at hk'
      cases hk'
    | nested _ hhands' hparse' =>
      obtain ⟨rfl, rfl⟩ := hhands.unique hhands'
      obtain ⟨-, hknown, -⟩ := hhands
      obtain ⟨rfl, rfl⟩ := (hr _ _ hknown).mayParse_unique hparse hparse'
      rfl

theorem finite_needs (hr : p.registry.NativeDirectives) (t : Task) :
    {t' | p.Needs t t'}.Finite := by
  have hchunk : ∀ c, {t' | p.Raises t c t'}.Finite := fun c =>
    Set.Subsingleton.finite fun _ h _ h' => Raises.unique hr h h'
  refine ((List.finite_toSet (chunks t.lines)).biUnion fun c _ => hchunk c).subset ?_
  rintro t' ⟨-, c, hc, hraises⟩
  exact Set.mem_biUnion hc hraises

/-- A round depends on what comes up on the way, and on nothing else. -/
theorem round_congr {self self' : Task → Except ParseError (List Block)} {t : Task}
    (h : ∀ t', p.Needs t t' → self' t' = self t') : p.round self' t = p.round self t := by
  unfold round
  split
  · rfl
  · next hdepth =>
    have hraises : ∀ c ∈ chunks t.lines, ∀ t', p.Raises t c t' → self' t' = self t' :=
      fun c hc t' ht' => h t' ⟨Nat.le_of_not_lt hdepth, c, hc, ht'⟩
    rw [Except.mapM_congr]
    intro c hc
    cases hk : c.kind with
    | quote => rw [chunkBlocks_quote hk, chunkBlocks_quote hk, hraises c hc _ (.quote hk)]
    | explicit =>
      rw [chunkBlocks_explicit hk, chunkBlocks_explicit hk]
      rcases p.explicitBlocks_or_hands c.lines (t.offset + c.start) with
        hm | ⟨e, he⟩ | ⟨d, inv, hhands⟩
      · rw [explicitBlocks_comment hm, explicitBlocks_comment hm]
      · rw [he, he]
      · rw [hhands.explicitBlocks_eq, hhands.explicitBlocks_eq, run_congr]
        exact fun lines offset hparse => hraises c hc _ (.nested hk hhands hparse)
    | paragraph => rw [chunkBlocks_paragraph hk, chunkBlocks_paragraph hk]
    | literal => rw [chunkBlocks_literal hk, chunkBlocks_literal hk]

/-- What the parser makes of a task, with the levels that are left at its depth. -/
def outcome (p : Parser) (t : Task) : Except ParseError (List Block) :=
  p.nestedWithin (p.config.maxDepth + 1 - t.depth) t.lines t.offset

/-- A further round changes nothing of what the parser makes of a task. -/
theorem round_outcome (p : Parser) (t : Task) : p.round p.outcome t = p.outcome t := by
  obtain ⟨depth, lines, offset⟩ := t
  unfold round outcome
  dsimp only
  split
  · next hdepth =>
    have hnone : p.config.maxDepth + 1 - depth = 0 := by omega
    rw [hnone]
    rfl
  · next hdepth =>
    have hone : p.config.maxDepth + 1 - depth = p.config.maxDepth + 1 - (depth + 1) + 1 := by omega
    have hlevel : p.nestedWithin (p.config.maxDepth + 1 - depth) =
        p.blocks (p.nestedWithin (p.config.maxDepth + 1 - (depth + 1))) := by
      rw [hone, nestedWithin, blocksWithin_eq]
    rw [hlevel, blocks_eq]

/-! ## All rounds -/

/-- **Finitely many rounds are enough**, whatever the rounds after them would give. -/
theorem exists_rounds (hr : p.registry.NativeDirectives) (t : Task) :
    ∃ least, ∀ n, least ≤ n → ∀ rest, p.rounds rest n t = p.outcome t := by
  induction t using (wellFounded_needs p).induction with
  | _ t ih =>
    -- The tasks that come up are finitely many, so that one number is enough for all of them.
    choose! least hleast using ih
    obtain ⟨most, hmost⟩ := ((finite_needs hr t).image least).bddAbove
    refine ⟨most + 1, fun n hn rest => ?_⟩
    obtain ⟨n, rfl⟩ : ∃ k, n = k + 1 := ⟨n - 1, by omega⟩
    have hdone : ∀ t', p.Needs t t' → p.rounds rest n t' = p.outcome t' := by
      intro t' ht'
      have hle : least t' ≤ most := hmost ⟨t', ht', rfl⟩
      exact hleast t' ht' n (by omega) rest
    rw [rounds, round_congr hdone, round_outcome]

/-- That a parser comes to an end, and why. -/
structure Terminates (p : Parser) : Prop where
  /-- Nothing else comes up on the way through a task than the tasks that it needs. -/
  needs : ∀ t self self', (∀ t', p.Needs t t' → self' t' = self t') →
    p.round self' t = p.round self t
  /-- These are one level deeper, up to one beyond the limit, or as deep and less indented. -/
  descends : ∀ t t', p.Needs t t' → t.depth ≤ p.config.maxDepth ∧ (t'.depth = t.depth + 1 ∨
    t'.depth = t.depth ∧ totalIndentation t'.lines < totalIndentation t.lines)
  /-- A document is parsed in finitely many rounds. -/
  rounds : ∀ source, ∃ n, ∀ rest,
    (p.rounds rest n ⟨0, normalLines source, 0⟩).map Document.mk = p.parse source

/-- **A parser that knows the library's own directives only comes to an end**, whatever the files that
it reads hold. -/
theorem terminates (hr : p.registry.NativeDirectives) : p.Terminates where
  needs _ _ _ h := round_congr h
  descends _ _ h := h.descends
  rounds source := by
    obtain ⟨least, hleast⟩ := exists_rounds hr ⟨0, normalLines source, 0⟩
    refine ⟨least, fun rest => ?_⟩
    rw [hleast least (Nat.le_refl _) rest]
    rfl

end Parser

end StructuredText

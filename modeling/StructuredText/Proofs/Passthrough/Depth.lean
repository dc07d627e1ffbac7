import StructuredText.Proofs.Parser.Comparison

/-!
# The limit on nesting

A parser with a lower limit does what one with a higher limit does, as far as it gets. It gets as far
as the blocks nest within the lower limit: then it gives the same document, and otherwise an error
that names the limit (`parse_maxDepth`). Another error of the parser with the higher limit is reported
unless content is too deep before it comes up.

Both are one relation between the two results (`Limited`), which compares nested content with as many
levels less as the lower limit has (`limited_nestedWithin`). A directive around two results takes one
level from the number that they are compared within.
-/

namespace StructuredText

open Block (NestsWithin)

/-- How a result relates to the one with no more than `k` levels left and the limit `m`. -/
inductive Limited (m k : Nat) : Outcome → Outcome → Prop where
  /-- The blocks nest within the levels that are left. -/
  | within {bs : List Block} (h : NestsWithin k bs) : Limited m k (.ok bs) (.ok bs)
  /-- They do not. -/
  | beyond {bs : List Block} {line : Nat} (h : ¬NestsWithin k bs) :
      Limited m k (.ok bs) (.error (.depthExceeded line m))
  /-- The error is found. -/
  | error {e : ParseError} (h : ¬e.IsDepth) : Limited m k (.error e) (.error e)
  /-- Content is too deep before any error is found. -/
  | earlier {e : ParseError} {line : Nat} :
      Limited m k (.error e) (.error (.depthExceeded line m))

theorem compares_limited (m k : Nat) : Compares (Limited m k) where
  settled {x} hx := by
    cases x with
    | ok bs => exact .within (hx.ok bs rfl k)
    | error e => exact .error (hx.error e rfl)
  append {x y xs ys} hxy hxys := by
    -- The first of two results decides, unless it is within the levels.
    cases hxy with
    | within h =>
      cases hxys with
      | within h' => exact .within (Block.nestsWithin_append.2 ⟨h, h'⟩)
      | beyond h' => exact .beyond fun happend => h' (Block.nestsWithin_append.1 happend).2
      | error h' => exact .error h'
      | earlier => exact .earlier
    | beyond h =>
      cases xs with
      | ok bs => exact .beyond fun happend => h (Block.nestsWithin_append.1 happend).1
      | error e => exact .earlier
    | error h => exact .error h
    | earlier => exact .earlier
  quote line x y hxy := by
    cases hxy with
    | within h => exact .within (Block.nestsWithin_quote.2 h)
    | beyond h => exact .beyond fun hquote => h (Block.nestsWithin_quote.1 hquote)
    | error h => exact .error h
    | earlier => exact .earlier

/-- A directive around two results. -/
theorem Limited.directive {m k : Nat} {x y : Outcome} (h : Limited m k x y) (inv : Invocation) :
    Limited m (k + 1) (x.map fun bs => [.directive inv false bs])
      (y.map fun bs => [.directive inv false bs]) := by
  cases h with
  | within h => exact .within (Block.nestsWithin_directive.2 h)
  | beyond h => exact .beyond fun hdirective => h (Block.nestsWithin_directive.1 hdirective)
  | error h => exact .error h
  | earlier => exact .earlier

theorem Limited.of_ok {m k : Nat} {bs : List Block} {y : Outcome} (h : Limited m k (.ok bs) y) :
    (NestsWithin k bs → y = .ok bs) ∧
      (¬NestsWithin k bs → ∃ line, y = .error (.depthExceeded line m)) := by
  cases h with
  | within h => exact ⟨fun _ => rfl, fun hnot => absurd h hnot⟩
  | beyond h => exact ⟨fun hwithin => absurd hwithin h, fun _ => ⟨_, rfl⟩⟩

theorem Limited.of_error {m k : Nat} {e : ParseError} {y : Outcome} (h : Limited m k (.error e) y) :
    y = .error e ∨ ∃ line, y = .error (.depthExceeded line m) := by
  cases h with
  | error h => exact Or.inl rfl
  | earlier => exact Or.inr ⟨_, rfl⟩

namespace Parser

variable {r : Registry} (hr : r.KeepsDirectives) (config config' : ParserConfig)

include hr

/-- The content of a directive, with `more` levels more and with the limit of another
configuration. -/
theorem limited_nestedWithin (more levels : Nat) (inv : Invocation)
    (lines : List Text) (offset : Nat) : Limited config'.maxDepth levels
      ((nestedWithin ⟨r, config⟩ (levels + more) lines offset).map
        fun bs => [.directive inv false bs])
      ((nestedWithin ⟨r, config'⟩ levels lines offset).map
        fun bs => [.directive inv false bs]) := by
  induction levels generalizing inv lines offset with
  | zero =>
    -- No level is left for the content, whatever it is.
    cases nestedWithin ⟨r, config⟩ (0 + more) lines offset with
    | ok bs => exact .beyond Block.not_nestsWithin_zero_directive
    | error e => exact .earlier
  | succ levels ih =>
    rw [Nat.succ_add, nestedWithin, nestedWithin, blocksWithin_eq, blocksWithin_eq,
      @blocks_congr r config' config hr]
    exact (blocks_compare (compares_limited _ levels) hr ih lines offset).directive inv

/-- **The lines of a document with a lower limit, compared with a higher one.** -/
theorem limited_blocks (hmax : config'.maxDepth ≤ config.maxDepth)
    (lines : List Text) (offset : Nat) : Limited config'.maxDepth config'.maxDepth
      (blocks ⟨r, config⟩ (nestedWithin ⟨r, config⟩ config.maxDepth) lines offset)
      (blocks ⟨r, config'⟩ (nestedWithin ⟨r, config'⟩ config'.maxDepth) lines offset) := by
  obtain ⟨more, hmore⟩ := Nat.exists_eq_add_of_le hmax
  rw [@blocks_congr r config' config hr, hmore]
  exact blocks_compare (compares_limited _ _) hr (limited_nestedWithin hr config config' more _)
    lines offset

end Parser

namespace Passthrough

/-- **The limit on nesting is exact and does nothing else.** A document that is parsed with a limit is
parsed with a lower one too if it nests within that, and otherwise the lower limit is reported as
exceeded; an error that is found with a limit is found with a lower one too, unless the lower limit is
exceeded before. Quotes do not count. -/
theorem parse_maxDepth {e : Extensions} {r : Registry} (hr : registry e = .ok r)
    (config : ParserConfig) {m M : Nat} (hm : m ≤ M) (source : Text) :
    (∀ d, Parser.parse ⟨r, { config with maxDepth := M }⟩ source = .ok d →
      (NestsWithin m d.children →
        Parser.parse ⟨r, { config with maxDepth := m }⟩ source = .ok d) ∧
      (¬NestsWithin m d.children → ∃ line,
        Parser.parse ⟨r, { config with maxDepth := m }⟩ source =
          .error (.depthExceeded line m))) ∧
    (∀ error, Parser.parse ⟨r, { config with maxDepth := M }⟩ source = .error error →
      Parser.parse ⟨r, { config with maxDepth := m }⟩ source = .error error ∨
        ∃ line, Parser.parse ⟨r, { config with maxDepth := m }⟩ source =
          .error (.depthExceeded line m)) ∧
    ∀ line bs, NestsWithin m [.quote line bs] ↔ NestsWithin m bs := by
  have hlimited := Parser.limited_blocks (registry_keepsDirectives hr) { config with maxDepth := M }
    { config with maxDepth := m } hm (Text.normalLines source) 0
  refine ⟨fun d hd => ?_, fun error herror => ?_, fun line bs => Block.nestsWithin_quote⟩
  · rw [Parser.parse_eq_ok_iff.1 hd] at hlimited
    obtain ⟨hwithin, hbeyond⟩ := hlimited.of_ok
    refine ⟨fun h => Parser.parse_eq_ok_iff.2 (hwithin h), fun h => ?_⟩
    obtain ⟨line, hline⟩ := hbeyond h
    exact ⟨line, Parser.parse_eq_error_iff.2 hline⟩
  · rw [Parser.parse_eq_error_iff.1 herror] at hlimited
    rcases hlimited.of_error with h | ⟨line, hline⟩
    · exact Or.inl (Parser.parse_eq_error_iff.2 h)
    · exact Or.inr ⟨line, Parser.parse_eq_error_iff.2 hline⟩

/-- A directive in a quote needs a level, although it has no content; one that repeats an option is
wrong with any limit. -/
theorem parse_maxDepth_glossary :
    ∃ r d e, registry {} = .ok r ∧ 1 ≤ 2 ∧ 0 ≤ 2 ∧
      Parser.parse ⟨r, { fileless with maxDepth := 2 }⟩ "  .. glossary::" = .ok d ∧
      Parser.parse ⟨r, { fileless with maxDepth := 1 }⟩ "  .. glossary::" = .ok d ∧
      (∃ line, Parser.parse ⟨r, { fileless with maxDepth := 0 }⟩ "  .. glossary::" =
        .error (.depthExceeded line 0)) ∧
      Parser.parse ⟨r, { fileless with maxDepth := 2 }⟩ ".. glossary::\n   :a:\n   :a:" = .error e ∧
      (Parser.parse ⟨r, { fileless with maxDepth := 0 }⟩ ".. glossary::\n   :a:\n   :a:" = .error e ∨
        ∃ line, Parser.parse ⟨r, { fileless with maxDepth := 0 }⟩ ".. glossary::\n   :a:\n   :a:" =
          .error (.depthExceeded line 0)) := by
  obtain ⟨r, hr⟩ := exists_registry_default
  have hd := directive?_glossary hr
  have hquoted : Parser.parse ⟨r, { fileless with maxDepth := 2 }⟩ "  .. glossary::" =
      .ok ⟨[.quote 1 [.directive
        (Parser.keptInvocation "glossary" ".. glossary::" 0 ⟨[], ∅, [], 1⟩) false []]]⟩ := by
    have hchunks : chunks (Text.normalLines "  .. glossary::") =
        [⟨.quote, 0, ["  .. glossary::"]⟩] := by cbv
    have hlines : Text.dropMargin ["  .. glossary::"] = [".. glossary::".toList] := by decide
    have hmarker : directiveMarker? (".. glossary::" : Text) = some ("glossary".toList, []) := by
      decide
    have hdivide : Directive.glossary.shape.withAnyOption.divide ([] :: Text.dropMargin []) 0 =
        .ok ⟨[], ∅, [], 1⟩ := by cbv
    have hcontent : Parser.nestedWithin ⟨r, { fileless with maxDepth := 2 }⟩ 2 [] 1 = .ok [] := by
      rw [Parser.nestedWithin, Parser.blocksWithin_eq, Parser.blocks_eq, chunks, chunksFrom]
      rfl
    have hinner : Parser.blocks ⟨r, { fileless with maxDepth := 2 }⟩
        (Parser.nestedWithin ⟨r, { fileless with maxDepth := 2 }⟩ 2) [".. glossary::"] 0 =
          .ok [.directive (Parser.keptInvocation "glossary" ".. glossary::" 0 ⟨[], ∅, [], 1⟩)
            false []] := by
      rw [Parser.blocks_of_marker hmarker (by decide) (by decide), Parser.directiveBlocks_kept hd,
        hdivide]
      dsimp only
      rw [if_neg Bool.false_ne_true, hcontent]
      rfl
    rw [Parser.parse_eq_ok_iff, Parser.blocks_of_chunk hchunks, Parser.chunkBlocks_quote rfl, hlines]
    exact Except.map_eq_ok_iff.2 ⟨_, hinner, rfl⟩
  have hrepeated : Parser.parse ⟨r, { fileless with maxDepth := 2 }⟩
      ".. glossary::\n   :a:\n   :a:" =
        .error (.directive "glossary" 1 (.block (.duplicateOption "a"))) := by
    have hlines : Text.normalLines ".. glossary::\n   :a:\n   :a:" =
        (".. glossary::" :: ["   :a:", "   :a:"] : List Text) := by decide
    have hdivide : Directive.glossary.shape.withAnyOption.divide [[], ":a:", ":a:"] 0 =
        .error (.duplicateOption "a") := by cbv
    have hmarker : directiveMarker? (".. glossary::" : Text) = some ("glossary".toList, []) := by
      decide
    have hbelow : [] :: Text.dropMargin ["   :a:", "   :a:"] = ([[], ":a:", ":a:"] : List Text) := by
      decide
    rw [Parser.parse_of_marker hlines hmarker (by decide) (by decide),
      Parser.directiveBlocks_kept hd, hbelow, hdivide]
    rfl
  have hwithin : NestsWithin 1 [.quote 1 [.directive
      (Parser.keptInvocation "glossary" ".. glossary::" 0 ⟨[], ∅, [], 1⟩) false []]] :=
    Block.nestsWithin_quote.2 (Block.nestsWithin_directive.2 Block.nestsWithin_nil)
  have hbeyond : ¬NestsWithin 0 [.quote 1 [.directive
      (Parser.keptInvocation "glossary" ".. glossary::" 0 ⟨[], ∅, [], 1⟩) false []]] := fun h =>
    Block.not_nestsWithin_zero_directive (Block.nestsWithin_quote.1 h)
  exact ⟨r, _, _, hr, by decide, by decide, hquoted,
    ((parse_maxDepth hr fileless (m := 1) (M := 2) (by decide) _).1 _ hquoted).1 hwithin,
    ((parse_maxDepth hr fileless (m := 0) (M := 2) (by decide) _).1 _ hquoted).2 hbeyond,
    hrepeated, (parse_maxDepth hr fileless (m := 0) (M := 2) (by decide) _).2.1 _ hrepeated⟩

end Passthrough

end StructuredText

import StructuredText.Proofs.Document.Nesting
import StructuredText.Proofs.Parser.Shift
import StructuredText.Proofs.Passthrough.Confinement

/-!
# Two ways to parse nested content

Where directives are kept, lines parsed with two different ways to parse nested content give results
that differ only by what these ways make of the content. A relation between results that holds of
those that no limit on nesting has a part in (`Settled`) and that passes from blocks to a sequence of
them and to a quote (`Compares`) therefore holds of the results for any lines, if it holds of those
for the content of each directive (`blocks_compare`).

The first such relation is that the results are the same but for the limit that an error names
(`nestedWithin_withMaximum`): a parser with another limit and as many levels left does nothing else
differently.
-/

namespace StructuredText

/-- What parsing some lines gives. -/
abbrev Outcome := Except ParseError (List Block)

/-- Whether an error says that content is nested too deeply. -/
def ParseError.IsDepth (e : ParseError) : Prop := ∃ line maximum, e = .depthExceeded line maximum

/-- A result that no limit on nesting has a part in. -/
structure Settled (x : Outcome) : Prop where
  error : ∀ e, x = .error e → ¬e.IsDepth
  ok : ∀ bs, x = .ok bs → ∀ k, Block.NestsWithin k bs

theorem Settled.of_error {e : ParseError} (h : ¬e.IsDepth) : Settled (.error e) :=
  ⟨fun _ he => (by cases he; exact h), fun _ hbs => (by cases hbs)⟩

theorem Settled.of_ok {bs : List Block} (h : ∀ k, Block.NestsWithin k bs) : Settled (.ok bs) :=
  ⟨fun _ he => (by cases he), fun _ hbs => (by cases hbs; exact h)⟩

/-- A relation between results that passes from pieces to what is made of them. -/
structure Compares (R : Outcome → Outcome → Prop) : Prop where
  settled : ∀ {x}, Settled x → R x x
  append : ∀ {x y xs ys}, R x y → R xs ys →
    R (do return (← x) ++ (← xs)) (do return (← y) ++ (← ys))
  quote : ∀ (line : Nat) {x y}, R x y →
    R (x.map fun bs => [.quote line bs]) (y.map fun bs => [.quote line bs])

namespace Parser

variable {p : Parser} {R : Outcome → Outcome → Prop}

/-! ## One level -/

theorem settled_paragraphBlocks (index : Nat) (lines : List Text) :
    Settled (p.paragraphBlocks index lines) := by
  refine ⟨fun e he hdepth => ?_, fun bs hbs k => ?_⟩
  · obtain ⟨line, maximum, rfl⟩ := hdepth
    simp only [paragraphBlocks] at he
    split at he
    · cases he
    · cases ofRole_of_inlineNodes (Except.map_eq_error_iff.1 he)
  · refine Block.nestsWithin_iff_forall.2 fun b hb => ?_
    obtain ⟨is, rfl⟩ := mem_paragraphBlocks hbs hb
    exact Block.nestsWithin_paragraph _ is

theorem compare_mapM (hR : Compares R) {f g : Chunk → Outcome} {cs : List Chunk}
    (h : ∀ c ∈ cs, R (f c) (g c)) :
    R (do let parsed ← cs.mapM f; return parsed.flatten)
      (do let parsed ← cs.mapM g; return parsed.flatten) := by
  induction cs with
  | nil => exact hR.settled (.of_ok fun k => Block.nestsWithin_nil)
  | cons c cs ih =>
    have hcons : ∀ f : Chunk → Outcome,
        (do let parsed ← (c :: cs).mapM f; return parsed.flatten : Outcome) =
          do return (← f c) ++ (← (do let parsed ← cs.mapM f; return parsed.flatten)) := by
      intro f
      rw [List.mapM_cons]
      cases f c with
      | error e => rfl
      | ok bs =>
        cases cs.mapM f with
        | error e => rfl
        | ok parsed => rfl
    rw [hcons, hcons]
    exact hR.append (h c (List.mem_cons_self ..)) (ih fun x hx => h x (List.mem_cons_of_mem _ hx))

section Nested

variable {nested nested' : Nested} (hR : Compares R) (hkept : p.registry.KeepsDirectives)
  (hnested : ∀ inv lines offset,
    R ((nested lines offset).map fun bs => [.directive inv false bs])
      ((nested' lines offset).map fun bs => [.directive inv false bs]))

include hR hkept hnested

theorem compare_explicitBlocks (index : Nat) (lines : List Text) :
    R (p.explicitBlocks nested index lines) (p.explicitBlocks nested' index lines) := by
  cases hm : directiveMarker? (lines.headD []) with
  | none =>
    rw [explicitBlocks_comment hm, explicitBlocks_comment hm]
    exact hR.settled (.of_ok fun k => Block.nestsWithin_comment _ _)
  | some marker =>
    obtain ⟨name, rest⟩ := marker
    rw [explicitBlocks_directive hm, explicitBlocks_directive hm]
    cases hd : p.registry.directive? name with
    | none =>
      rw [directiveBlocks_unknown hd, directiveBlocks_unknown hd]
      exact hR.settled (.of_error fun ⟨_, _, h⟩ => by cases h)
    | some d =>
      obtain ⟨shape, raw, rfl⟩ := hkept name d hd
      rw [directiveBlocks_kept hd, directiveBlocks_kept hd]
      cases shape.withAnyOption.divide _ index with
      | error cause => exact hR.settled (.of_error fun ⟨_, _, h⟩ => by cases h)
      | ok parts =>
        cases raw with
        | true => exact hR.settled (.of_ok fun k => Block.nestsWithin_raw _)
        | false => exact hnested _ _ _

/-- **What holds of the content of every directive holds of all lines.** -/
theorem blocks_compare (lines : List Text) (offset : Nat) :
    R (p.blocks nested lines offset) (p.blocks nested' lines offset) := by
  induction lines, offset using quote_induction with
  | step lines offset ih =>
    rw [blocks_eq, blocks_eq]
    refine compare_mapM hR fun c hc => ?_
    cases hk : c.kind with
    | quote =>
      rw [chunkBlocks_quote hk, chunkBlocks_quote hk]
      exact hR.quote _ (ih c hc hk)
    | explicit =>
      rw [chunkBlocks_explicit hk, chunkBlocks_explicit hk]
      exact compare_explicitBlocks hR hkept hnested _ _
    | paragraph =>
      rw [chunkBlocks_paragraph hk, chunkBlocks_paragraph hk]
      exact hR.settled (settled_paragraphBlocks _ _)
    | literal =>
      rw [chunkBlocks_literal hk, chunkBlocks_literal hk]
      exact hR.settled (.of_ok fun k => Block.nestsWithin_ofText _ _)

end Nested

end Parser

/-! ## The limit in an error -/

/-- The error that names another limit, if it names one. -/
def ParseError.withMaximum (maximum : Nat) : ParseError → ParseError
  | depthExceeded line _ => depthExceeded line maximum
  | e => e

theorem ParseError.withMaximum_eq_self {e : ParseError} (h : ¬e.IsDepth) (maximum : Nat) :
    e.withMaximum maximum = e := by
  cases e with
  | depthExceeded line m => exact absurd ⟨line, m, rfl⟩ h
  | _ => rfl

theorem compares_withMaximum (maximum : Nat) :
    Compares fun x y => y = x.mapError (ParseError.withMaximum maximum) where
  settled {x} hx := by
    cases x with
    | ok bs => rfl
    | error e =>
      rw [Except.mapError_error, ParseError.withMaximum_eq_self (hx.error e rfl)]
  append {x y xs ys} hxy hxys := by
    subst hxy hxys
    cases x with
    | error e => rfl
    | ok bs =>
      cases xs with
      | error e => rfl
      | ok bs' => rfl
  quote line x y hxy := by
    subst hxy
    cases x with
    | error e => rfl
    | ok bs => rfl

namespace Parser

variable {r : Registry}

/-- **The limit shows in an error and nowhere else**, as long as the same number of levels is left. -/
theorem nestedWithin_withMaximum (hr : r.KeepsDirectives) (config config' : ParserConfig)
    (levels : Nat) (lines : List Text) (offset : Nat) :
    nestedWithin ⟨r, config'⟩ levels lines offset =
      (nestedWithin ⟨r, config⟩ levels lines offset).mapError
        (ParseError.withMaximum config'.maxDepth) := by
  induction levels generalizing lines offset with
  | zero => rfl
  | succ levels ih =>
    rw [nestedWithin, nestedWithin, blocksWithin_eq, blocksWithin_eq,
      @blocks_congr r config' config hr]
    refine blocks_compare (compares_withMaximum config'.maxDepth) hr (fun inv lines offset => ?_)
      lines offset
    rw [ih]
    cases nestedWithin ⟨r, config⟩ levels lines offset with
    | error e => rfl
    | ok bs => rfl

end Parser

end StructuredText

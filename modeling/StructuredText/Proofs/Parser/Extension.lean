import StructuredText.Proofs.Directive.Native
import StructuredText.Proofs.Parser.Runs
import StructuredText.Proofs.Registry.Extension

/-!
# Parsing with more directives and roles

Where the directives of a registry are the library's own, a parse that succeeds goes on to succeed,
with the same document, when the registry is extended (`parse_mono`). It follows that registering a
directive or a role under a name that stands for nothing changes no document that could be parsed
before (`parse_register_of_eq_none`).

That the directives are the library's own is needed. A caller's own directive may look at how the
parse of its content fails, and make a document of that.
-/

namespace StructuredText

open Registry (Extends)

/-! ## Inline nodes -/

section Inline

variable {r r' : Registry} (hext : r.Extends r')

include hext

theorem interpret_mono {i : Interpreted} {nodes : List Inline} (h : interpret r i = .ok nodes) :
    interpret r' i = .ok nodes := by
  unfold interpret at h ⊢
  cases hrole : r.role? i.name with
  | none =>
    rw [hrole] at h
    cases h
  | some role =>
    rw [hrole] at h
    rw [hext.role? _ _ hrole]
    exact h

theorem assemble_mono {line : Nat} {nodes nodes' : List Inline} {s : Segment}
    (h : s.assemble r line nodes = .ok nodes') : s.assemble r' line nodes = .ok nodes' := by
  cases s with
  | interpreted place c =>
    obtain ⟨made, hmade, rfl⟩ := Except.map_eq_ok_iff.1 h
    exact Except.map_eq_ok_iff.2 ⟨made, interpret_mono hext hmade, rfl⟩
  | _ => exact h

theorem assembleFrom_mono {ss : List Segment} {line : Nat} {nodes nodes' : List Inline}
    (h : assembleFrom r line nodes ss = .ok nodes') :
    assembleFrom r' line nodes ss = .ok nodes' := by
  induction ss generalizing line nodes with
  | nil => exact h
  | cons s ss ih =>
    rw [assembleFrom] at h ⊢
    cases hs : s.assemble r line nodes with
    | error e =>
      rw [hs] at h
      cases h
    | ok between =>
      rw [hs] at h
      rw [assemble_mono hext hs]
      exact ih h

theorem inlineNodes_mono {text : Text} {line : Nat} {nodes : List Inline}
    (h : inlineNodes r text line = .ok nodes) : inlineNodes r' text line = .ok nodes :=
  assembleFrom_mono hext h

end Inline

/-! ## Blocks -/

namespace Parser

/-- Whether the one way to parse content succeeds wherever the other does, with the same blocks. -/
def Covers (nested' nested : Nested) : Prop :=
  ∀ lines offset bs, nested lines offset = .ok bs → nested' lines offset = .ok bs

variable {r r' : Registry} {config : ParserConfig} {nested nested' : Nested}

section Level

variable (hr : r.NativeDirectives) (hext : r.Extends r') (hcovers : Covers nested' nested)

include hext in
theorem paragraphBlocks_mono {index : Nat} {lines : List Text} {bs : List Block}
    (h : paragraphBlocks ⟨r, config⟩ index lines = .ok bs) :
    paragraphBlocks ⟨r', config⟩ index lines = .ok bs := by
  simp only [paragraphBlocks] at h ⊢
  split at h
  · next hempty =>
    rw [if_pos hempty]
    exact h
  · next hempty =>
    rw [if_neg hempty]
    obtain ⟨is, his, rfl⟩ := Except.map_eq_ok_iff.1 h
    exact Except.map_eq_ok_iff.2 ⟨is, inlineNodes_mono hext his, rfl⟩

include hr hext hcovers

theorem explicitBlocks_mono {index : Nat} {lines : List Text} {bs : List Block}
    (h : explicitBlocks ⟨r, config⟩ nested index lines = .ok bs) :
    explicitBlocks ⟨r', config⟩ nested' index lines = .ok bs := by
  rcases explicitBlocks_or_hands ⟨r, config⟩ lines index with hm | ⟨e, he⟩ | ⟨d, inv, hhands⟩
  · rw [explicitBlocks_comment hm] at h ⊢
    exact h
  · rw [he] at h
    cases h
  · obtain ⟨hmarker, hknown, hinvocation⟩ := id hhands
    have hhands' : Hands ⟨r', config⟩ lines index d inv :=
      .intro hmarker (hext.directive? _ _ hknown) hinvocation
    rw [hhands.explicitBlocks_eq, Except.mapError_eq_ok_iff] at h
    rw [hhands'.explicitBlocks_eq, Except.mapError_eq_ok_iff]
    have hcontext : ∀ lines offset bs,
        (context ⟨r, config⟩ nested (index + 1)).parseNested lines offset = .ok bs →
          nested' lines offset = .ok bs := hcovers
    exact Directive.run_mono hcontext (hr _ d hknown) h

/-- **One level**: the lines give the same blocks as before, if what is parsed below them does. -/
theorem blocks_mono {lines : List Text} {offset : Nat} {bs : List Block}
    (h : blocks ⟨r, config⟩ nested lines offset = .ok bs) :
    blocks ⟨r', config⟩ nested' lines offset = .ok bs := by
  induction lines, offset using quote_induction generalizing bs with
  | step lines offset ih =>
    rw [blocks_eq] at h ⊢
    obtain ⟨parsed, hparsed, h⟩ := Except.bind_eq_ok_iff.1 h
    refine Except.bind_eq_ok_iff.2 ⟨parsed, Except.mapM_mono hparsed fun c hc bs' hbs' => ?_, h⟩
    cases hk : c.kind with
    | quote =>
      rw [chunkBlocks_quote hk] at hbs' ⊢
      obtain ⟨inner, hinner, rfl⟩ := Except.map_eq_ok_iff.1 hbs'
      exact Except.map_eq_ok_iff.2 ⟨inner, ih c hc hk hinner, rfl⟩
    | explicit =>
      rw [chunkBlocks_explicit hk] at hbs' ⊢
      exact explicitBlocks_mono hr hext hcovers hbs'
    | paragraph =>
      rw [chunkBlocks_paragraph hk] at hbs' ⊢
      exact paragraphBlocks_mono hext hbs'
    | literal =>
      rw [chunkBlocks_literal hk] at hbs' ⊢
      exact hbs'

end Level

theorem covers_nestedWithin (hr : r.NativeDirectives) (hext : r.Extends r') (levels : Nat) :
    Covers (nestedWithin ⟨r', config⟩ levels) (nestedWithin ⟨r, config⟩ levels) := by
  induction levels with
  | zero =>
    intro lines offset bs h
    cases h
  | succ levels ih =>
    intro lines offset bs h
    rw [nestedWithin, blocksWithin_eq] at h ⊢
    exact blocks_mono hr hext ih h

/-- **A document that can be parsed is the same under every extension of the registry.** -/
theorem parse_mono (hr : r.NativeDirectives) (hext : r.Extends r') {source : Text} {d : Document}
    (h : parse ⟨r, config⟩ source = .ok d) : parse ⟨r', config⟩ source = .ok d := by
  rw [parse_eq_ok_iff] at h ⊢
  exact blocks_mono hr hext (covers_nestedWithin hr hext _) h

/-- **Registering under a name that stands for nothing changes no document.** What could be parsed
before gives the same document with another directive or another role, whatever these do. -/
theorem parse_register_of_eq_none (hr : r.NativeDirectives) {source : Text} {d : Document}
    (h : parse ⟨r, config⟩ source = .ok d) :
    (∀ name, r.directive? name = none → ∀ x,
      parse ⟨r.registerDirective name x, config⟩ source = .ok d) ∧
    ∀ name, r.role? name = none → ∀ y, parse ⟨r.registerRole name y, config⟩ source = .ok d := by
  constructor
  · intro name hname x
    exact parse_mono hr (Registry.extends_registerDirective hname x) h
  · intro name hname y
    exact parse_mono hr (Registry.extends_registerRole hname y) h

/-- A registry that knows kept code by an alias only. -/
def codeRegistry : Registry :=
  Registry.empty.registerDirective "code-block" (.passthrough { content := true } true)

/-- A block of code under the alias. -/
def codeSource : Text := ".. code-block::\n\n   x"

/-- Nobody has registered what the alias stands for. A directive registered there does not come
before the alias, although a look-up of the alias asks for both. -/
theorem parse_register_code_of_eq_none :
    codeRegistry.directive? "code" = none ∧ codeRegistry.role? "code" = none ∧
      ∃ d, parse ⟨codeRegistry, { fileText := fun _ => .error [] }⟩ codeSource = .ok d ∧
        (∀ x, parse ⟨codeRegistry.registerDirective "code" x, { fileText := fun _ => .error [] }⟩
          codeSource = .ok d) ∧
        ∀ y, parse ⟨codeRegistry.registerRole "code" y, { fileText := fun _ => .error [] }⟩
          codeSource = .ok d := by
  have hr : codeRegistry.NativeDirectives :=
    Registry.nativeDirectives_of_entries (by decide) (by decide) (by decide)
  have hdirective : codeRegistry.directive? "code" = none := by decide
  have hrole : codeRegistry.role? "code" = none := by decide
  have hlines : Text.normalLines codeSource = [".. code-block::".toList, "", "   x"] := by decide
  have hmarker : directiveMarker? ".. code-block::" = some ("code-block".toList, []) := by decide
  have hknown : codeRegistry.directive? "code-block" =
      some (.passthrough { content := true } true) := rfl
  have hdivide : Shape.divide (Shape.withAnyOption { content := true })
      ([] :: Text.dropMargin ["", "   x"]) 0 = .ok ⟨[], ∅, ["x"], 2⟩ := by cbv
  have hparse := parse_of_kept_marker (p := ⟨codeRegistry, { fileText := fun _ => .error [] }⟩)
    hlines hmarker (by decide) (by decide) hknown hdivide rfl
  obtain ⟨hdirectives, hroles⟩ := parse_register_of_eq_none hr hparse
  exact ⟨hdirective, hrole, _, hparse, hdirectives _ hdirective, hroles _ hrole⟩

end Parser

end StructuredText

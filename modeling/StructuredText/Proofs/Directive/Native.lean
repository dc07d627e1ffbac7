import StructuredText.Proofs.Except
import StructuredText.Proofs.NameTable
import StructuredText.Proofs.Registry.LookUp

/-!
# The library's own directives

A caller's own directive may do anything with the way to parse nested content that it is given. The
library's directives, elements and passthroughs, parse one piece of content at most and fail if that
fails. So a run that succeeds goes on to succeed, with the same blocks, when more content can be
parsed (`run_mono`).
-/

namespace StructuredText

namespace Directive

/-- Whether a directive is one of the library's own. -/
def IsNative : Directive → Prop
  | custom .. => False
  | _ => True

instance (d : Directive) : Decidable d.IsNative :=
  match d with
  | custom .. => .isFalse id
  | element .. => .isTrue trivial
  | passthrough .. => .isTrue trivial

section Mono

variable {inv : Invocation} {ctx : Context}
  {nested : List Text → Nat → Except ParseError (List Block)}
  (hnested : ∀ lines offset bs, ctx.parseNested lines offset = .ok bs →
    nested lines offset = .ok bs)

include hnested

theorem parseContent_mono {bs : List Block} (h : parseContent inv ctx = .ok bs) :
    parseContent inv { ctx with parseNested := nested } = .ok bs := by
  rw [parseContent, Except.mapError_eq_ok_iff] at h ⊢
  exact hnested _ _ _ h

theorem parseIncluded_mono {bs : List Block} (h : parseIncluded inv ctx = .ok bs) :
    parseIncluded inv { ctx with parseNested := nested } = .ok bs := by
  unfold parseIncluded at h ⊢
  cases harguments : inv.arguments with
  | nil =>
    rw [harguments] at h
    cases h
  | cons path arguments =>
    rw [harguments] at h
    simp only [Context.resolvePath] at h ⊢
    cases hfile : ctx.fileText (joinPath ctx.baseDir path) with
    | error message =>
      rw [hfile] at h
      cases h
    | ok text =>
      rw [hfile] at h
      simp only [Except.mapError_eq_ok_iff] at h ⊢
      exact hnested _ _ _ h

/-- **What succeeds goes on to succeed when more content can be parsed.** -/
theorem run_mono {d : Directive} (hd : d.IsNative) {bs : List Block} (h : d.run inv ctx = .ok bs) :
    d.run inv { ctx with parseNested := nested } = .ok bs := by
  cases d with
  | element tag shape expansion =>
    cases expansion with
    | body =>
      obtain ⟨children, hchildren, h⟩ := Except.bind_eq_ok_iff.1 h
      exact Except.bind_eq_ok_iff.2 ⟨children, parseContent_mono hnested hchildren, h⟩
    | included =>
      obtain ⟨children, hchildren, h⟩ := Except.bind_eq_ok_iff.1 h
      exact Except.bind_eq_ok_iff.2 ⟨children, parseIncluded_mono hnested hchildren, h⟩
    | literal => exact h
    | empty => exact h
  | passthrough shape raw =>
    cases raw with
    | true => exact h
    | false =>
      obtain ⟨children, hchildren, h⟩ := Except.bind_eq_ok_iff.1 h
      exact Except.bind_eq_ok_iff.2 ⟨children, parseContent_mono hnested hchildren, h⟩
  | custom shape run => exact absurd hd id

end Mono

end Directive

namespace Registry

/-- Whether all directives of a registry are the library's own. -/
def NativeDirectives (r : Registry) : Prop := ∀ name d, r.directive? name = some d → d.IsNative

theorem nativeDirectives_of_entries {r : Registry}
    (hdirectives : ∀ e ∈ r.directives.entries, e.2.IsNative)
    (hbase : ∀ e ∈ r.baseDirectives.entries, e.2.IsNative)
    (hdomains : ∀ d ∈ r.domains.entries, ∀ e ∈ d.2.directives.entries, e.2.IsNative) :
    r.NativeDirectives := by
  intro name d h
  exact of_directive? hdirectives hbase hdomains h

theorem nativeDirectives_withBaseGrammar : withBaseGrammar.NativeDirectives := by
  refine nativeDirectives_of_entries (fun e he => ?_) (fun e he => ?_) (fun d hd => ?_)
  · cases he
  · rcases NameTable.mem_insertAll he with he | he
    · obtain ⟨f, -, rfl⟩ := List.mem_map.1 he
      exact trivial
    · cases he
  · cases hd

end Registry

end StructuredText

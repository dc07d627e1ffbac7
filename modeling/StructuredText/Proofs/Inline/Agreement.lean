import StructuredText.Proofs.List
import StructuredText.Proofs.Role.Native

/-!
# Inline nodes under different roles

Which roles are known decides what becomes of interpreted text, and nothing else: if a text becomes
inline nodes under two registries with the library's own roles, then the nodes agree one by one
(`agrees_inlineNodes`). Text, emphasis, strong and literal text and phrase references are the same,
and where a role has made one of two nodes, a role has made the other from the same text.

What makes this work is that a role of the library gives one node and never plain text. So plain
text is joined to the node before it under one registry exactly if it is under the other.
-/

namespace StructuredText

/-- Whether the text of a construct is that of a phrase reference. Interpreted text ends with a
backquote or with the colon behind the name of its role. -/
def IsPhraseReference (rawtext : Text) : Prop := rawtext.getLast? = some '_'

namespace Inline

/-- Two nodes agree if they are the same node or made by roles from the same text. -/
inductive Agrees : Inline → Inline → Prop where
  | text (s : Text) : Agrees (.text s) (.text s)
  | emphasis (s : Text) : Agrees (.emphasis s) (.emphasis s)
  | strong (s : Text) : Agrees (.strong s) (.strong s)
  | literal (s : Text) : Agrees (.literal s) (.literal s)
  | phrase {text rawtext : Text} (h : IsPhraseReference rawtext) :
      Agrees (.element "reference" text rawtext) (.element "reference" text rawtext)
  | role {m n : Inline} {rawtext : Text} (hm : m.rawtext? = some rawtext)
      (hn : n.rawtext? = some rawtext) (h : ¬IsPhraseReference rawtext) : Agrees m n

theorem Agrees.eq_of_text {s : Text} {n : Inline} (h : Agrees (.text s) n) : n = .text s := by
  cases h with
  | text => rfl
  | role hm hn h => cases hm

theorem Agrees.text_of_eq {m : Inline} {s : Text} (h : Agrees m (.text s)) : m = .text s := by
  cases h with
  | text => rfl
  | role hm hn h => cases hn

end Inline

/-! ## Where plain text is joined -/

theorem appendText_nil {s : Text} (hs : s ≠ []) : appendText [] s = [.text s] := by
  rw [appendText, if_neg hs]
  rfl

theorem appendText_concat_text {s : Text} (hs : s ≠ []) (nodes : List Inline) (p : Text) :
    appendText (nodes ++ [.text p]) s = nodes ++ [.text (p ++ s)] := by
  rw [appendText, if_neg hs, List.getLast?_concat, List.dropLast_concat]

theorem appendText_concat {s : Text} (hs : s ≠ []) (nodes : List Inline) {n : Inline}
    (hn : ∀ p, n ≠ .text p) : appendText (nodes ++ [n]) s = nodes ++ [n] ++ [.text s] := by
  rw [appendText, if_neg hs, List.getLast?_concat]
  split
  · next p hp => exact absurd (Option.some.inj hp) (hn p)
  · rfl

/-- Nodes that agree go on to agree when the same plain text is added to them. -/
theorem agrees_appendText {ms ns : List Inline} (h : List.Forall₂ Inline.Agrees ms ns) (s : Text) :
    List.Forall₂ Inline.Agrees (appendText ms s) (appendText ns s) := by
  by_cases hs : s = []
  · rw [appendText, appendText, if_pos hs, if_pos hs]
    exact h
  · have hone : List.Forall₂ Inline.Agrees [.text s] [.text s] := .cons (.text s) .nil
    rcases List.eq_nil_or_concat' ms with rfl | ⟨ms, m, rfl⟩
    · cases h
      rw [appendText_nil hs]
      exact hone
    · obtain ⟨ns, n, rfl, hfront, hlast⟩ := List.exists_concat_of_forall₂ h
      by_cases hm : ∃ p, m = .text p
      · obtain ⟨p, rfl⟩ := hm
        obtain rfl := hlast.eq_of_text
        rw [appendText_concat_text hs, appendText_concat_text hs]
        exact List.rel_append hfront (.cons (.text _) .nil)
      · have hn : ∀ p, n ≠ .text p := by
          rintro p rfl
          exact hm ⟨p, hlast.text_of_eq⟩
        rw [appendText_concat hs ms fun p hp => hm ⟨p, hp⟩, appendText_concat hs ns hn]
        exact List.rel_append h hone

/-! ## Segments -/

theorem getLast?_restore (t : Text) :
    (Text.restore t).getLast? = t.getLast?.map fun c => if c = escapeMarker then '\\' else c :=
  List.getLast?_map ..

theorem isPhraseReference_raw (c : Text) (anonymous : Bool) :
    IsPhraseReference (Text.restore (Segment.phrase c anonymous).raw) := by
  rw [IsPhraseReference, getLast?_restore, Segment.raw, List.getLast?_append]
  cases anonymous <;> rfl

theorem not_isPhraseReference_raw (place : RolePlace) (c : Text) :
    ¬IsPhraseReference (Text.restore (Segment.interpreted place c).raw) := by
  have hmark : ∀ t : Text, (enclose [backquote] t).getLast? = some backquote := fun t => by
    rw [enclose, List.getLast?_concat]
  rw [IsPhraseReference, getLast?_restore]
  cases place with
  | absent =>
    rw [Segment.raw, hmark]
    decide
  | before name =>
    rw [Segment.raw, List.getLast?_append, hmark, Option.some_or]
    decide
  | after name =>
    have hcolon : (colons name).getLast? = some ':' := List.getLast?_concat
    rw [Segment.raw, List.getLast?_append, hcolon, Option.some_or]
    decide

section Registries

variable {r r' : Registry}

theorem agrees_assemble (hr : r.NativeRoles) (hr' : r'.NativeRoles) {line : Nat}
    {ms ns ms' ns' : List Inline} (h : List.Forall₂ Inline.Agrees ms ns) {s : Segment}
    (hm : s.assemble r line ms = .ok ms') (hn : s.assemble r' line ns = .ok ns') :
    List.Forall₂ Inline.Agrees ms' ns' := by
  have hadd : ∀ {m n : Inline}, m.Agrees n →
      List.Forall₂ Inline.Agrees (ms ++ [m]) (ns ++ [n]) := fun hmn =>
    List.rel_append h (.cons hmn .nil)
  cases s with
  | text s =>
    cases hm
    cases hn
    exact agrees_appendText h _
  | emphasis c =>
    cases hm
    cases hn
    exact hadd (.emphasis _)
  | strong c =>
    cases hm
    cases hn
    exact hadd (.strong _)
  | literal c =>
    cases hm
    cases hn
    exact hadd (.literal _)
  | phrase c anonymous =>
    cases hm
    cases hn
    exact hadd (.phrase (isPhraseReference_raw c anonymous))
  | interpreted place c =>
    obtain ⟨made, hmade, rfl⟩ := Except.map_eq_ok_iff.1 hm
    obtain ⟨made', hmade', rfl⟩ := Except.map_eq_ok_iff.1 hn
    obtain ⟨m, rfl, hraw⟩ := hr.interpret_eq_ok hmade
    obtain ⟨n, rfl, hraw'⟩ := hr'.interpret_eq_ok hmade'
    exact hadd (.role hraw hraw' (not_isPhraseReference_raw place c))

theorem agrees_assembleFrom (hr : r.NativeRoles) (hr' : r'.NativeRoles) {line : Nat}
    {ms ns ms' ns' : List Inline} (h : List.Forall₂ Inline.Agrees ms ns) {ss : List Segment}
    (hm : assembleFrom r line ms ss = .ok ms') (hn : assembleFrom r' line ns ss = .ok ns') :
    List.Forall₂ Inline.Agrees ms' ns' := by
  induction ss generalizing line ms ns with
  | nil =>
    cases hm
    cases hn
    exact h
  | cons s ss ih =>
    rw [assembleFrom] at hm hn
    split at hm
    · cases hm
    · next made hmade =>
      split at hn
      · cases hn
      · next made' hmade' => exact ih (agrees_assemble hr hr' h hmade hmade') hm hn

/-- **The nodes of a text agree under any two registries with the library's own roles.** -/
theorem agrees_inlineNodes (hr : r.NativeRoles) (hr' : r'.NativeRoles) {text : Text} {line : Nat}
    {ms ns : List Inline} (hm : inlineNodes r text line = .ok ms)
    (hn : inlineNodes r' text line = .ok ns) : List.Forall₂ Inline.Agrees ms ns :=
  agrees_assembleFrom hr hr' .nil hm hn

end Registries

end StructuredText

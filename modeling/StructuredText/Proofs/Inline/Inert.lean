import StructuredText.Proofs.Inline.Agreement
import StructuredText.Proofs.Inline.Lossless
import StructuredText.Proofs.Text.Protection

/-!
# Text without constructs

A text is plain text as a whole if no construct can be read at any of its characters (`Inert`); the
paragraph then is one text node, whatever the registry knows (`inlineNodes_of_inert`). A character at
which nothing can be read is either none with which constructs begin (`construct?_eq_none`), or one
that a marker protects. Hence a text with a backslash before each character that means something in
markup is read as that text, so that there is nothing plain text cannot say (`inlineNodes_protect`).
-/

namespace StructuredText

/-- The characters with which constructs begin. -/
def isOpeningMark (c : Char) : Bool := c ∈ ['*', backquote, ':']

/-- The characters that mean something in inline markup. -/
def isMarkup (c : Char) : Bool := c = '\\' || isOpeningMark c

/-- At a character with which no construct begins, none is read. -/
theorem construct?_eq_none {c : Char} (h : isOpeningMark c = false) (t : Text) :
    construct? (c :: t) = none := by
  simp only [isOpeningMark, List.mem_cons, List.not_mem_nil, or_false, decide_eq_false_iff_not,
    not_or] at h
  obtain ⟨hstar, hquote, hcolon⟩ := h
  cases hread : construct? (c :: t) with
  | none => rfl
  | some p =>
    obtain ⟨s, rest⟩ := p
    generalize htext : c :: t = u at hread
    cases construct_of_construct? hread with
    | before hname =>
      rw [← htext] at hname
      exact absurd (List.cons.inj (roleMarker?_append hname)).1 hcolon
    | strong => exact absurd (List.cons.inj htext).1 hstar
    | emphasis => exact absurd (List.cons.inj htext).1 hstar
    | _ => exact absurd (List.cons.inj htext).1 hquote

/-- No construct is read at any character of a text that stands after `previous`. -/
inductive Inert : Option Char → Text → Prop where
  | nil (previous : Option Char) : Inert previous []
  | cons {previous : Option Char} {c : Char} {t : Text} :
    constructAfter? previous (c :: t) = none → Inert (some c) t → Inert previous (c :: t)

namespace Inert

/-- A character with which no construct begins may stand anywhere. -/
theorem plain {previous : Option Char} {c : Char} {t : Text} (hc : isOpeningMark c = false)
    (h : Inert (some c) t) : Inert previous (c :: t) := by
  refine .cons ?_ h
  rw [constructAfter?, construct?_eq_none hc, ite_self]

/-- A marker protects any character. -/
theorem pair {previous : Option Char} {d : Char} {t : Text} (h : Inert (some d) t) :
    Inert previous (escapeMarker :: d :: t) :=
  plain (by decide) (.cons (constructAfter?_marker _) h)

theorem append {u v : Text} (hu : ∀ c ∈ u, isOpeningMark c = false)
    (hv : ∀ previous, Inert previous v) (previous : Option Char) : Inert previous (u ++ v) := by
  induction u generalizing previous with
  | nil => exact hv previous
  | cons c u ih =>
    exact plain (hu c (List.mem_cons_self ..))
      (ih (fun d hd => hu d (List.mem_cons_of_mem c hd)) (some c))

/-- A text in which every character that begins a construct is protected is inert. -/
theorem protectWith {special : Char → Bool} (h : ∀ c, isOpeningMark c = true → special c = true)
    (t : Text) (previous : Option Char) :
    Inert previous (Text.protectWith escapeMarker special t) := by
  induction t generalizing previous with
  | nil => exact .nil previous
  | cons c t ih =>
    cases hc : special c with
    | true =>
      rw [Text.protectWith_special hc]
      exact pair (ih (some c))
    | false =>
      rw [Text.protectWith_plain hc]
      refine plain ?_ (ih (some c))
      cases hmark : isOpeningMark c with
      | true => rw [h c hmark] at hc; cases hc
      | false => rfl

/-- An inert text is one segment. -/
theorem segmentsAfter_eq {previous : Option Char} {c : Char} {t : Text}
    (h : Inert previous (c :: t)) : segmentsAfter previous (c :: t) = [.text (c :: t)] := by
  induction t generalizing previous c with
  | nil =>
    obtain - | ⟨hnone, -⟩ := h
    rw [segmentsAfter_of_none hnone, segmentsAfter]
    rfl
  | cons d t ih =>
    obtain - | ⟨hnone, ht⟩ := h
    rw [segmentsAfter_of_none hnone, ih ht]
    rfl

end Inert

/-- **An inert text is one text node**, which says what the text means. -/
theorem inlineNodes_of_inert (registry : Registry) {t : Text} (h : Inert none (Text.escape t))
    (hne : t.meant ≠ []) (line : Nat) : inlineNodes registry t line = .ok [.text t.meant] := by
  unfold Text.meant at hne ⊢
  rw [inlineNodes, segments]
  cases hescaped : Text.escape t with
  | nil =>
    rw [hescaped] at hne
    exact absurd rfl hne
  | cons c u =>
    rw [hescaped] at h hne
    rw [h.segmentsAfter_eq, assembleFrom, Segment.assemble, appendText_nil hne]
    rfl

/-- A text without backslashes means what it says. -/
theorem meant_eq_self {t : Text} (hback : '\\' ∉ t) (hnul : escapeMarker ∉ t) : t.meant = t := by
  rw [Text.meant, Text.escape_eq_self hback, Text.unescape_of_not_mem hnul]

theorem meant_protect {special : Char → Bool} (hback : special '\\' = true)
    (hspace : special ' ' = false) (hnewline : special '\n' = false) {t : Text}
    (ht : escapeMarker ∉ t) : (t.protect special).meant = t := by
  rw [Text.meant, Text.escape_protect hback, Text.unescape_protectWith hspace hnewline ht]

/-- **Plain text can say anything.** With a backslash before every character that means something in
inline markup, a text is read as one text node that says just this text, whatever roles are known. -/
theorem inlineNodes_protect (registry : Registry) {t : Text} (hne : t ≠ [])
    (hnul : escapeMarker ∉ t) (line : Nat) :
    inlineNodes registry (t.protect isMarkup) line = .ok [.text t] := by
  have hmeant : (t.protect isMarkup).meant = t :=
    meant_protect (by decide) (by decide) (by decide) hnul
  have hmarks : ∀ c, isOpeningMark c = true → isMarkup c = true := fun c hc => by
    rw [isMarkup, hc, Bool.or_true]
  have hinert : Inert none (Text.escape (t.protect isMarkup)) := by
    rw [Text.escape_protect (by decide)]
    exact Inert.protectWith hmarks t none
  rw [inlineNodes_of_inert registry hinert (by rwa [hmeant]) line, hmeant]

/-- Backslashes before a space, a newline and a star, and text that would be a role and a literal. -/
theorem inlineNodes_protect_backslashes :
    "a\\ b\\\\\n\\*c* :sub:`x` ``\\``".toList ≠ [] ∧
      escapeMarker ∉ "a\\ b\\\\\n\\*c* :sub:`x` ``\\``".toList ∧
      inlineNodes .empty "a\\\\ b\\\\\\\\\n\\\\\\*c\\* \\:sub\\:\\`x\\` \\`\\`\\\\\\`\\`" 1 =
        .ok [.text "a\\ b\\\\\n\\*c* :sub:`x` ``\\``"] := by
  have hne : "a\\ b\\\\\n\\*c* :sub:`x` ``\\``".toList ≠ [] := by decide
  have hnul : escapeMarker ∉ "a\\ b\\\\\n\\*c* :sub:`x` ``\\``".toList := by decide
  exact ⟨hne, hnul, inlineNodes_protect .empty hne hnul 1⟩

end StructuredText

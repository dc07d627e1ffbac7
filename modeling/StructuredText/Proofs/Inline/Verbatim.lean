import StructuredText.Inline.Assembly
import StructuredText.Proofs.Except
import StructuredText.Proofs.Inline.Boundaries
import StructuredText.Proofs.Text.Words

/-!
# Literal text

Literal text is found where escapes are marked already, and the marks are turned back into backslashes
in what is between its marks. So it says what is written there, backslashes included; only the mark at
its end is a mark like any other, and a backslash takes that away. Of a row of backslashes before it
every other one is protected itself: text without backquotes between two literal marks is literal
exactly if it ends in an even number of backslashes (`inlineNodes_literal_iff`).

Structure: the closing mark (`closing?_literalMark`), the construct (`construct?_literal`), and what
becomes of the text if there is none: the paragraph then begins with plain text, and nothing that is
added to it later changes that (`head?_assembleFrom`).
-/

namespace StructuredText

/-! ## The construct -/

/-- No closing mark stands before the first backquote, and the one there closes unless the character
before it forbids that. -/
theorem closing?_literalMark {x : Text} (h : backquote ∉ x) (previous : Char) :
    closing? literalMark previous 0 (x ++ literalMark) =
      if mayClose (x.getLastD previous) then some (x, []) else none := by
  induction x generalizing previous with
  | nil =>
    rw [List.nil_append, List.getLastD_nil]
    cases hprevious : mayClose previous with
    | true => simp [literalMark, closing?, Text.after?, mayEnd, hprevious]
    -- The mark is passed over, and nothing stands behind it.
    | false => simp [literalMark, closing?, Text.after?, hprevious]
  | cons c x ih =>
    rw [List.mem_cons, not_or] at h
    have hmark : Text.after? literalMark (c :: (x ++ literalMark)) = none := by
      rw [literalMark, Text.after?, if_neg h.1]
    rw [List.cons_append, closing?, hmark]
    dsimp only
    rw [ih h.2, List.getLastD_cons]
    split
    · rfl
    · rfl

/-- Between literal marks stands a construct, unless the last character protects the closing mark. -/
theorem construct?_literal {x : Text} (hb : Text.BeginsWord x) (hquote : backquote ∉ x)
    (hend : ∀ c, x.getLast? = some c → isWhite c = false) :
    construct? (enclose literalMark x) =
      if x.getLast? = some escapeMarker then none else some (.literal x, []) := by
  obtain ⟨c, t, rfl, hc⟩ := hb
  rw [List.mem_cons, not_or] at hquote
  have hlast : (c :: t).getLast? = some (t.getLastD c) := by
    rw [List.getLast?_cons, List.getLastD_eq_getLast?]
  have hclose : mayClose (t.getLastD c) = !decide (t.getLastD c = escapeMarker) := by
    rw [mayClose, hend _ hlast]
    simp
  have hstrong : Text.after? strongMark (enclose literalMark (c :: t)) = none := rfl
  have hliteral : Text.after? literalMark (enclose literalMark (c :: t)) =
      some (c :: t ++ literalMark) := rfl
  rw [construct?, hstrong, hliteral]
  dsimp only
  rw [List.cons_append, delimited?, hc, closing?_literalMark hquote.2, hclose, hlast]
  simp only [Option.some.injEq, Bool.false_eq_true, if_false]
  by_cases hm : t.getLastD c = escapeMarker
  · rw [if_pos hm, decide_eq_true hm]
    rfl
  · rw [if_neg hm, decide_eq_false hm]
    rfl

/-! ## Paragraphs that begin with plain text -/

/-- Whether the first of the nodes is plain text. -/
def BeginsPlain (nodes : List Inline) : Prop := ∃ s, nodes.head? = some (.text s)

theorem BeginsPlain.append {nodes : List Inline} (h : BeginsPlain nodes) (more : List Inline) :
    BeginsPlain (nodes ++ more) := by
  obtain ⟨s, hs⟩ := h
  exact ⟨s, by rw [List.head?_append, hs]; rfl⟩

/-- More plain text makes the first node longer, if it is the only one. -/
theorem BeginsPlain.appendText {nodes : List Inline} (h : BeginsPlain nodes) (s : Text) :
    BeginsPlain (appendText nodes s) := by
  unfold StructuredText.appendText
  split
  · exact h
  · split
    · next p hp =>
      cases nodes with
      | nil => cases hp
      | cons n ns =>
        cases ns with
        | nil => exact ⟨p ++ s, rfl⟩
        | cons m ns =>
          obtain ⟨t, ht⟩ := h
          have hplain : BeginsPlain (n :: (m :: ns).dropLast) := ⟨t, ht⟩
          exact hplain.append [.text (p ++ s)]
    · exact h.append _

theorem BeginsPlain.assemble {registry : Registry} {line : Nat} {nodes nodes' : List Inline}
    {s : Segment} (h : BeginsPlain nodes) (hs : s.assemble registry line nodes = .ok nodes') :
    BeginsPlain nodes' := by
  cases s with
  | text t =>
    cases hs
    exact h.appendText _
  | interpreted place c =>
    obtain ⟨made, -, rfl⟩ := Except.map_eq_ok_iff.1 hs
    exact h.append _
  | _ =>
    cases hs
    exact h.append _

theorem BeginsPlain.assembleFrom {registry : Registry} {line : Nat} {nodes nodes' : List Inline}
    {ss : List Segment} (h : BeginsPlain nodes)
    (hss : assembleFrom registry line nodes ss = .ok nodes') : BeginsPlain nodes' := by
  induction ss generalizing line nodes with
  | nil =>
    cases hss
    exact h
  | cons s ss ih =>
    rw [StructuredText.assembleFrom] at hss
    split at hss
    · cases hss
    · next hs => exact ih (h.assemble hs) hss

/-- Where a text begins with no construct, its nodes begin with plain text. -/
theorem beginsPlain_of_construct?_eq_none {registry : Registry} {text : Text} {line : Nat} {c : Char}
    {t : Text} (htext : Text.escape text = c :: t) (hc : c ≠ escapeMarker)
    (hnone : construct? (c :: t) = none) {nodes : List Inline}
    (h : inlineNodes registry text line = .ok nodes) : BeginsPlain nodes := by
  have hafter : constructAfter? none (c :: t) = none := hnone
  have hcons : ∀ ss, ∃ s ss', consText c ss = .text (c :: s) :: ss' := by
    intro ss
    unfold consText
    split
    · exact ⟨_, _, rfl⟩
    · exact ⟨[], _, rfl⟩
  obtain ⟨s, ss, hss⟩ := hcons (segmentsAfter (some c) t)
  rw [inlineNodes, htext, segments, segmentsAfter_of_none hafter, hss, assembleFrom,
    Segment.assemble, Text.unescape_cons_plain hc] at h
  exact BeginsPlain.assembleFrom ⟨c :: Text.unescape s, rfl⟩ h

/-! ## Literal text -/

theorem escape_enclose_literalMark (w : Text) :
    Text.escape (enclose literalMark w) = enclose literalMark (Text.escape w) := by
  have hmark : '\\' ∉ literalMark := by decide
  have hlast : literalMark.getLast? ≠ some '\\' := by decide
  rw [enclose, List.append_assoc, Text.escape_append hlast, Text.escape_append_of_not_mem _ hmark,
    Text.escape_eq_self hmark, ← List.append_assoc, ← enclose]

/-- Marking the escapes of a text that begins and ends with a word leaves such a text. -/
theorem beginsWord_escape {w : Text} (h : Text.BeginsWord w) : Text.BeginsWord (Text.escape w) := by
  obtain ⟨c, t, rfl, hc⟩ := h
  by_cases hback : c = '\\'
  · subst hback
    cases t with
    | nil => exact ⟨escapeMarker, [], rfl, isWhite_nul⟩
    | cons d t => exact ⟨escapeMarker, _, Text.escape_pair d t, isWhite_nul⟩
  · exact ⟨c, _, Text.escape_cons_plain hback t, hc⟩

theorem isWhite_getLast?_escape {w : Text} (h : ∀ c, w.getLast? = some c → isWhite c = false) :
    ∀ c, (Text.escape w).getLast? = some c → isWhite c = false := by
  intro c hc
  rcases Text.getLast?_escape w with hlast | ⟨-, hlast⟩
  · exact h c (hlast.symm.trans hc)
  · rw [hlast, Option.some.injEq] at hc
    rw [← hc]
    exact isWhite_nul

/-- **Literal text says what is written between its marks, up to a backslash that protects the closing
mark.** The text may hold anything but backquotes, and begins and ends with a word; it is read as
literal text, and as nothing else, exactly if it ends in an even number of backslashes. -/
theorem inlineNodes_literal_iff (registry : Registry) {w : Text} (hb : Text.BeginsWord w)
    (hend : ∀ c, w.getLast? = some c → isWhite c = false) (hquote : backquote ∉ w)
    (hnul : escapeMarker ∉ w) (line : Nat) :
    inlineNodes registry (enclose literalMark w) line = .ok [.literal w] ↔
      Text.trailingBackslashes w % 2 = 0 := by
  have hescaped : backquote ∉ Text.escape w := by
    intro h
    rcases Text.mem_of_mem_escape h with h | h
    · cases h
    · exact hquote h
  have hconstruct := construct?_literal (beginsWord_escape hb) hescaped
    (isWhite_getLast?_escape hend)
  have hprotects := Text.getLast?_escape_eq_marker_iff hnul
  have htext := escape_enclose_literalMark w
  constructor
  · intro h
    refine Decidable.byContradiction fun hodd => ?_
    rw [if_pos (hprotects.2 (by omega))] at hconstruct
    -- There is no construct, so that the first node would be plain text.
    obtain ⟨s, hs⟩ := beginsPlain_of_construct?_eq_none htext (by decide) hconstruct h
    cases hs
  · intro heven
    rw [if_neg (fun hlast => by have := hprotects.1 hlast; omega)] at hconstruct
    have hafter : constructAfter? none (enclose literalMark (Text.escape w)) =
        some (.literal (Text.escape w), []) := hconstruct
    have hsegments : segments (Text.escape (enclose literalMark w)) =
        [.literal (Text.escape w)] := by
      rw [htext, segments, segmentsAfter_of_construct hafter, segmentsAfter]
    rw [inlineNodes, hsegments, assembleFrom, Segment.assemble]
    dsimp only
    rw [assembleFrom, Text.restore_escape hnul]
    rfl

/-- Stars, colons and backslashes between literal marks, two of them at the end. -/
theorem inlineNodes_literal_windowsPath :
    Text.BeginsWord ":x:\\ *y*\\\\".toList ∧
      (∀ c, ":x:\\ *y*\\\\".toList.getLast? = some c → isWhite c = false) ∧
      backquote ∉ ":x:\\ *y*\\\\".toList ∧ escapeMarker ∉ ":x:\\ *y*\\\\".toList ∧
      inlineNodes .empty (enclose literalMark ":x:\\ *y*\\\\") 1 =
        .ok [.literal ":x:\\ *y*\\\\"] := by
  have hb : Text.BeginsWord ":x:\\ *y*\\\\".toList := ⟨':', _, rfl, by decide⟩
  have hend : ∀ c, ":x:\\ *y*\\\\".toList.getLast? = some c → isWhite c = false := by
    intro c hc
    cases hc
    decide
  have hquote : backquote ∉ ":x:\\ *y*\\\\".toList := by decide
  have hnul : escapeMarker ∉ ":x:\\ *y*\\\\".toList := by decide
  exact ⟨hb, hend, hquote, hnul,
    (inlineNodes_literal_iff .empty hb hend hquote hnul 1).2 (by decide)⟩

/-- **Not every text between literal marks is literal text.** A backslash right before the closing mark
takes its meaning away. -/
theorem not_inlineNodes_literal :
    ¬∀ (registry : Registry) (w : Text) (line : Nat), Text.BeginsWord w →
      (∀ c, w.getLast? = some c → isWhite c = false) → backquote ∉ w → escapeMarker ∉ w →
        inlineNodes registry (enclose literalMark w) line = .ok [.literal w] := by
  intro hall
  have hplain : inlineNodes .empty (enclose literalMark "a\\") 1 = .ok [.text "\x60\x60a\x60\x60"] := by
    cbv
  have hliteral := hall .empty "a\\" 1 ⟨'a', _, rfl, by decide⟩
    (fun c hc => by cases hc; decide) (by decide) (by decide)
  rw [hplain] at hliteral
  cases hliteral

end StructuredText

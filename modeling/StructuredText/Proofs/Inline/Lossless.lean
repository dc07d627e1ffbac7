import Mathlib.Data.List.Permutation
import StructuredText.Inline.Assembly
import StructuredText.Proofs.Except
import StructuredText.Proofs.Inline.Boundaries
import StructuredText.Proofs.Role.Native

/-!
# Inline markup loses nothing

The nodes of a paragraph, written out one after the other, are the paragraph with its escapes
undone (`written_inlineNodes`). Structure: a segment says as much as the node that is made of it
(`written_assemble`), provided the segment is *closed*, that is, no cut inside it or at its ends
falls right after a marker; all segments of a marked text are closed (`closed_of_mem_segmentsAfter`)
and together say what the text says (`unescape_segmentsAfter`).
-/

namespace StructuredText

namespace Text

/-- The text that was meant: what is left once escapes are marked and the markers are dropped. -/
def meant (t : Text) : Text := unescape (escape t)

theorem meant_restore {t : Text} (h : Marked t) : meant (restore t) = unescape t := by
  rw [meant, escape_restore h]

end Text

namespace Inline

/-- A node with its marks put back. A node that keeps its construct is written as the construct,
with escapes undone. -/
def written : Inline → Text
  | text s => s
  | emphasis s => enclose emphasisMark s
  | strong s => enclose strongMark s
  | literal s => enclose literalMark (Text.meant s)
  | element _ _ rawtext => Text.meant rawtext
  | role _ rawtext _ => Text.meant rawtext
  | crossReference rawtext _ _ _ _ => Text.meant rawtext

theorem written_of_rawtext? {n : Inline} {r : Text} (h : n.rawtext? = some r) :
    n.written = Text.meant r := by
  cases n <;> simp only [rawtext?, Option.some.injEq, reduceCtorEq] at h <;> rw [← h] <;> rfl

end Inline

/-! ## Segments -/

/-- No cut inside a segment or at its ends falls right after a marker. Plain text has no marks, so
nothing is asked of it. -/
def Segment.Closed : Segment → Prop
  | .text _ => True
  | s => Text.Marked s.raw ∧ s.inner.getLast? ≠ some escapeMarker

theorem mem_consText {c : Char} {s : Segment} {ss : List Segment} (h : s ∈ consText c ss) :
    (∃ t, s = .text t) ∨ s ∈ ss := by
  unfold consText at h
  split at h
  · rcases List.mem_cons.1 h with rfl | h
    · exact Or.inl ⟨_, rfl⟩
    · exact Or.inr (List.mem_cons_of_mem _ h)
  · rcases List.mem_cons.1 h with rfl | h
    · exact Or.inl ⟨_, rfl⟩
    · exact Or.inr h

/-- A segment of a marked text is plain text, or a construct that was read there and is a marked text
itself. -/
theorem read_of_mem_segmentsAfter (previous : Option Char) {t : Text} (ht : Text.Marked t) :
    ∀ s ∈ segmentsAfter previous t, (∃ c, s = .text c) ∨
      Text.Marked s.raw ∧ ∃ rest, construct? (s.raw ++ rest) = some (s, rest) := by
  refine segmentsAfter_induction
    (motive := fun ss _ => ∀ s ∈ ss, (∃ c, s = .text c) ∨
      Text.Marked s.raw ∧ ∃ rest, construct? (s.raw ++ rest) = some (s, rest))
    ?nil ?construct ?plain ?final ?pair previous ht
  case nil => intro s hs; cases hs
  case construct =>
    intro s ss rest hread hraw ih x hx
    rcases List.mem_cons.1 hx with rfl | hx
    · exact Or.inr ⟨hraw, rest, hread⟩
    · exact ih x hx
  -- A character in front makes or extends plain text.
  case plain =>
    intro c ss t _ ih s hs
    exact (mem_consText hs).elim Or.inl (ih s)
  case final =>
    intro s hs
    exact Or.inl ⟨_, List.mem_singleton.1 hs⟩
  case pair =>
    intro d ss t _ ih s hs
    rcases mem_consText hs with htext | hs
    · exact Or.inl htext
    · exact (mem_consText hs).elim Or.inl (ih s)

theorem closed_of_mem_segmentsAfter (previous : Option Char) {t : Text} (ht : Text.Marked t) :
    ∀ s ∈ segmentsAfter previous t, s.Closed := by
  intro s hs
  rcases read_of_mem_segmentsAfter previous ht s hs with ⟨c, rfl⟩ | ⟨hraw, rest, hread⟩
  · trivial
  · cases s with
    | text c => trivial
    | _ => exact ⟨hraw, inner_of_construct? hread⟩

theorem unescape_consText {c : Char} (hc : c ≠ escapeMarker) (ss : List Segment) :
    (consText c ss).flatMap (fun s => Text.unescape s.raw) =
      c :: ss.flatMap fun s => Text.unescape s.raw := by
  have hone : Text.unescape [c] = [c] := Text.unescape_cons_plain hc []
  unfold consText
  split
  · simp only [List.flatMap_cons, Segment.raw, Text.unescape_cons_plain hc, List.cons_append]
  · simp only [List.flatMap_cons, Segment.raw, hone, List.singleton_append]

theorem unescape_consText_pair {d : Char} (hd : d ≠ escapeMarker) (ss : List Segment) :
    (consText escapeMarker (consText d ss)).flatMap (fun s => Text.unescape s.raw) =
      Text.meantByPair d ++ ss.flatMap fun s => Text.unescape s.raw := by
  have hone : Text.unescape [escapeMarker, d] = Text.meantByPair d := by
    rw [Text.unescape_pair hd, Text.unescape, List.append_nil]
  rw [consText.eq_def d]
  split
  · simp only [consText, List.flatMap_cons, Segment.raw, Text.unescape_pair hd, List.append_assoc]
  · simp only [consText, List.flatMap_cons, Segment.raw, hone]

/-- The segments of a marked text say what the text says. -/
theorem unescape_segmentsAfter (previous : Option Char) {t : Text} (ht : Text.Marked t) :
    (segmentsAfter previous t).flatMap (fun s => Text.unescape s.raw) = Text.unescape t := by
  refine segmentsAfter_induction
    (motive := fun ss t => ss.flatMap (fun s => Text.unescape s.raw) = Text.unescape t)
    ?nil ?construct ?plain ?final ?pair previous ht
  case nil => rfl
  case construct =>
    intro s ss rest hread _ ih
    have hlast := Segment.getLast?_raw fun c => ne_text_of_construct? (c := c) hread
    rw [List.flatMap_cons, ih, Text.unescape_append hlast]
  case plain =>
    intro c ss t hc ih
    rw [unescape_consText hc, ih, Text.unescape_cons_plain hc]
  case final => decide
  case pair =>
    intro d ss t hd ih
    rw [unescape_consText_pair hd, ih, Text.unescape_pair hd]

/-! ## Nodes -/

theorem unescape_enclose {m c : Text} (hm : escapeMarker ∉ m)
    (hc : c.getLast? ≠ some escapeMarker) :
    Text.unescape (enclose m c) = enclose m (Text.unescape c) := by
  have hlast : m.getLast? ≠ some escapeMarker := fun h => hm (List.mem_of_getLast? h)
  unfold enclose
  rw [List.append_assoc, Text.unescape_append hlast, Text.unescape_append hc,
    Text.unescape_of_not_mem hm, List.append_assoc]

theorem marked_of_enclose {m c : Text} (hm : escapeMarker ∉ m)
    (hc : c.getLast? ≠ some escapeMarker) (h : Text.Marked (enclose m c)) : Text.Marked c := by
  have hlast : m.getLast? ≠ some escapeMarker := fun h => hm (List.mem_of_getLast? h)
  unfold enclose at h
  rw [List.append_assoc] at h
  exact (Text.Marked.of_append (Text.Marked.of_append h hlast).2 hc).1

/-- Adding plain text adds what it says, whether or not it is joined to a node. -/
theorem written_appendText (nodes : List Inline) (s : Text) :
    (appendText nodes s).flatMap Inline.written = nodes.flatMap Inline.written ++ s := by
  unfold appendText
  split
  · next hs => simp [hs]
  · split
    · next p hp =>
      obtain ⟨front, rfl⟩ := List.getLast?_eq_some_iff.1 hp
      simp [Inline.written]
    · simp [Inline.written]

/-- The nodes made of a closed segment say what the segment says. -/
theorem written_assemble {registry : Registry} (hr : registry.NativeRoles) {line : Nat}
    {nodes nodes' : List Inline} {s : Segment} (hs : s.Closed)
    (h : s.assemble registry line nodes = .ok nodes') :
    nodes'.flatMap Inline.written = nodes.flatMap Inline.written ++ Text.unescape s.raw := by
  cases s with
  | text s => cases h; exact written_appendText nodes _
  | emphasis c =>
    cases h
    have hc := unescape_enclose (m := emphasisMark) (by decide) hs.2
    simp only [Inline.written, Segment.raw, Segment.inner, List.flatMap_append, List.flatMap_cons,
      List.flatMap_nil, List.append_nil] at hc ⊢
    rw [hc]
  | strong c =>
    cases h
    have hc := unescape_enclose (m := strongMark) (by decide) hs.2
    simp only [Inline.written, Segment.raw, Segment.inner, List.flatMap_append, List.flatMap_cons,
      List.flatMap_nil, List.append_nil] at hc ⊢
    rw [hc]
  | literal c =>
    cases h
    have hc := unescape_enclose (m := literalMark) (by decide) hs.2
    -- The node of a literal holds its backslashes; writing it reads them again.
    have hm : Text.Marked c := marked_of_enclose (m := literalMark) (by decide) hs.2 hs.1
    simp only [Inline.written, Segment.raw, Segment.inner, List.flatMap_append, List.flatMap_cons,
      List.flatMap_nil, List.append_nil, Text.meant_restore hm] at hc ⊢
    rw [hc]
  | phrase c anonymous =>
    cases h
    simp [Inline.written, Text.meant_restore hs.1]
  | interpreted place c =>
    -- Whatever the role makes of the text, its node keeps what was written.
    obtain ⟨made, hmade, rfl⟩ := Except.map_eq_ok_iff.1 h
    obtain ⟨node, rfl, hraw⟩ := hr.interpret_eq_ok hmade
    simp [Inline.written_of_rawtext? hraw, Text.meant_restore hs.1]

theorem written_assembleFrom {registry : Registry} (hr : registry.NativeRoles) {line : Nat}
    {nodes nodes' : List Inline} {ss : List Segment} (hss : ∀ s ∈ ss, s.Closed)
    (h : assembleFrom registry line nodes ss = .ok nodes') :
    nodes'.flatMap Inline.written =
      nodes.flatMap Inline.written ++ ss.flatMap fun s => Text.unescape s.raw := by
  induction ss generalizing line nodes with
  | nil => cases h; simp
  | cons s ss ih =>
    unfold assembleFrom at h
    split at h
    · cases h
    · next made hmade =>
      have hs := written_assemble hr (hss s (List.mem_cons_self ..)) hmade
      rw [ih (fun x hx => hss x (List.mem_cons_of_mem _ hx)) h, hs, List.flatMap_cons,
        List.append_assoc]

/-- **Inline markup loses nothing.** The nodes of a text without markers, each with its marks put
back, are the text with its escapes undone. -/
theorem written_inlineNodes {registry : Registry} (hr : registry.NativeRoles) {t : Text}
    (ht : escapeMarker ∉ t) {line : Nat} {nodes : List Inline}
    (h : inlineNodes registry t line = .ok nodes) :
    nodes.flatMap Inline.written = Text.meant t := by
  have hmarked := Text.marked_escape ht
  have hnodes := written_assembleFrom hr (closed_of_mem_segmentsAfter none hmarked) h
  rw [hnodes, unescape_segmentsAfter none hmarked]
  rfl

/-- Escapes in plain text, before a closing mark, in a literal and in interpreted text. -/
theorem written_inlineNodes_escaped :
    escapeMarker ∉ "a\\ b *c\\** ``d\\e`` :sub:`x\\`y`".toList ∧
      ∃ nodes, inlineNodes .withBaseGrammar "a\\ b *c\\** ``d\\e`` :sub:`x\\`y`" 1 = .ok nodes ∧
        nodes.flatMap Inline.written = Text.meant "a\\ b *c\\** ``d\\e`` :sub:`x\\`y`" := by
  have h : inlineNodes .withBaseGrammar "a\\ b *c\\** ``d\\e`` :sub:`x\\`y`" 1 =
      .ok [.text "ab ", .emphasis "c*", .text " ", .literal "d\\e", .text " ",
        .element "subscript" "x`y" ":sub:`x\\`y`"] := by
    cbv
  exact ⟨by decide, _, h,
    written_inlineNodes Registry.nativeRoles_withBaseGrammar (by decide) h⟩

end StructuredText

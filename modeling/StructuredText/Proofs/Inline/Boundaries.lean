import StructuredText.Inline.Cut
import StructuredText.Proofs.Text.Escape

/-!
# Where segments end

A paragraph is cut into segments in the form in which escapes are marked. No cut falls between a
marker and the character it protects:

- a construct does not begin right after a marker, since a marker is no opening context;
- the content of a construct does not end in a marker (`inner_of_construct?`), and the construct
  itself ends in a mark (`getLast?_raw`).

So the scanner walks over a marked text in whole steps, a construct, a plain character or an escaped
pair at a time. `segmentsAfter_induction` is that walk; every fact about the segments of a paragraph
is an instance of it.
-/

namespace StructuredText

namespace Segment

/-- What stands between the marks of a segment. -/
def inner : Segment → Text
  | text s => s
  | emphasis c => c
  | strong c => c
  | literal c => c
  | phrase c _ => c
  | interpreted _ c => c

/-- A construct ends in one of its marks, and these are no markers of escapes. -/
theorem getLast?_raw {s : Segment} (h : ∀ c, s ≠ .text c) :
    s.raw.getLast? ≠ some escapeMarker := by
  have closed : ∀ (t : Text) (c : Char), c ≠ escapeMarker →
      (t ++ [c]).getLast? ≠ some escapeMarker := by
    intro t c hc
    simpa using hc
  cases s with
  | text c => exact absurd rfl (h c)
  | emphasis c => exact closed (emphasisMark ++ c) '*' (by decide)
  | strong c =>
    rw [show (strong c).raw = (strongMark ++ c ++ ['*']) ++ ['*'] by simp [raw, enclose, strongMark]]
    exact closed _ '*' (by decide)
  | literal c =>
    rw [show (literal c).raw = (literalMark ++ c ++ [backquote]) ++ [backquote] by
      simp [raw, enclose, literalMark]]
    exact closed _ backquote (by decide)
  | phrase c anonymous =>
    cases anonymous with
    | true =>
      rw [show (phrase c true).raw = (enclose [backquote] c ++ ['_']) ++ ['_'] by
        simp [raw, underscores]]
      exact closed _ '_' (by decide)
    | false => exact closed (enclose [backquote] c) '_' (by decide)
  | interpreted place c =>
    cases place with
    | absent => exact closed ([backquote] ++ c) backquote (by decide)
    | before name =>
      rw [show (interpreted (.before name) c).raw = (colons name ++ [backquote] ++ c) ++ [backquote]
        by simp [raw, enclose]]
      exact closed _ backquote (by decide)
    | after name =>
      rw [show (interpreted (.after name) c).raw = (enclose [backquote] c ++ ':' :: name) ++ [':']
        by simp [raw, colons]]
      exact closed _ ':' (by decide)

end Segment

/-! ## The content of a construct does not end in a marker -/

theorem getLast?_closing? {mark : Text} {previous : Char} {skip : Nat} {t content rest : Text}
    (h : closing? mark previous skip t = some (content, rest)) :
    (previous :: content).getLast? ≠ some escapeMarker := by
  induction t generalizing previous skip content with
  | nil => simp [closing?] at h
  | cons c t ih =>
    rcases closing?_cons_eq_some h with ⟨rfl, -, hclose, -⟩ | ⟨x, n, rfl, hx⟩
    · -- The mark closes only where the character before it is no marker.
      simp only [mayClose, Bool.and_eq_true, decide_eq_true_eq] at hclose
      simpa using hclose.2
    · rw [List.getLast?_cons_cons]
      exact ih hx

theorem getLast?_delimited? {mark t content rest : Text}
    (h : delimited? mark t = some (content, rest)) : content.getLast? ≠ some escapeMarker := by
  obtain ⟨first, t, x, -, rfl, -, hx⟩ := delimited?_eq_some h
  exact getLast?_closing? hx

theorem getLast?_interpretedEnd? {named : Bool} {previous : Char} {t content rest : Text}
    {e : Ending} (h : interpretedEnd? named previous t = some (content, e, rest)) :
    (previous :: content).getLast? ≠ some escapeMarker := by
  induction t generalizing previous content with
  | nil => simp [interpretedEnd?] at h
  | cons c t ih =>
    rcases interpretedEnd?_cons_eq_some h with ⟨rfl, -, hclose, -⟩ | ⟨x, rfl, hx, -⟩
    · simp only [mayClose, Bool.and_eq_true, decide_eq_true_eq] at hclose
      simpa using hclose.2
    · rw [List.getLast?_cons_cons]
      exact ih hx

theorem getLast?_interpreted? {named : Bool} {t content rest : Text} {e : Ending}
    (h : interpreted? named t = some (content, e, rest)) :
    content.getLast? ≠ some escapeMarker := by
  obtain ⟨first, t, x, -, rfl, -, hx⟩ := interpreted?_eq_some h
  exact getLast?_interpretedEnd? hx

/-- The content of a construct does not end in a marker, so its closing mark is no protected
character. -/
theorem inner_of_construct? {t rest : Text} {s : Segment} (h : construct? t = some (s, rest)) :
    s.inner.getLast? ≠ some escapeMarker := by
  cases construct_of_construct? h with
  | strong h => exact getLast?_delimited? h
  | literal h => exact getLast?_delimited? h
  | emphasis h => exact getLast?_delimited? h
  | phrase h => exact getLast?_interpreted? h
  | absent h => exact getLast?_interpreted? h
  | after h => exact getLast?_interpreted? h
  | before hname h => exact getLast?_interpreted? h

/-! ## The walk over a marked text -/

/-- No construct begins right after a marker. -/
theorem constructAfter?_marker (t : Text) : constructAfter? (some escapeMarker) t = none := by
  have h : mayStart (some escapeMarker) = false := by decide
  simp [constructAfter?, h]

theorem segmentsAfter_of_construct {previous : Option Char} {t rest : Text} {s : Segment}
    (h : constructAfter? previous t = some (s, rest)) :
    segmentsAfter previous t = s :: segmentsAfter s.raw.getLast? rest := by
  cases t with
  | nil => simp [constructAfter?, construct?, Text.after?, strongMark, literalMark, emphasisMark,
      named?, roleMarker?] at h
  | cons c t =>
    rw [segmentsAfter]
    split
    · next h' =>
      rw [h] at h'
      cases h'
      rfl
    · next h' => rw [h] at h'; cases h'

theorem segmentsAfter_of_none {previous : Option Char} {c : Char} {t : Text}
    (h : constructAfter? previous (c :: t) = none) :
    segmentsAfter previous (c :: t) = consText c (segmentsAfter (some c) t) := by
  rw [segmentsAfter]
  split
  · next h' => rw [h] at h'; cases h'
  · rfl

/-- **The walk over a marked text.** What holds of no segments, and is kept by a construct, by a
plain character and by an escaped pair put in front, holds of the segments of every marked text. -/
theorem segmentsAfter_induction {motive : List Segment → Text → Prop}
    (nil : motive [] [])
    (construct : ∀ (s : Segment) (ss : List Segment) (rest : Text),
      construct? (s.raw ++ rest) = some (s, rest) → Text.Marked s.raw → motive ss rest →
      motive (s :: ss) (s.raw ++ rest))
    (plain : ∀ (c : Char) (ss : List Segment) (t : Text), c ≠ escapeMarker → motive ss t →
      motive (consText c ss) (c :: t))
    (final : motive [.text [escapeMarker]] [escapeMarker])
    (pair : ∀ (d : Char) (ss : List Segment) (t : Text), d ≠ escapeMarker → motive ss t →
      motive (consText escapeMarker (consText d ss)) (escapeMarker :: d :: t))
    (previous : Option Char) {t : Text} (ht : Text.Marked t) :
    motive (segmentsAfter previous t) t := by
  induction hn : t.length using Nat.strongRecOn generalizing previous t with
  | _ n ih =>
    subst hn
    cases hc : constructAfter? previous t with
    | some p =>
      obtain ⟨s, rest⟩ := p
      have hread := construct?_of_constructAfter? hc
      have happ := construct?_append hread
      -- A construct does not end in a marker, so that the cut behind it leaves marked texts.
      obtain ⟨hraw, hrest⟩ := Text.Marked.of_append (happ ▸ ht)
        (Segment.getLast?_raw fun c => ne_text_of_construct? hread)
      rw [segmentsAfter_of_construct hc]
      have hmot := ih _ (length_lt_of_construct? hread) s.raw.getLast? hrest rfl
      rw [happ] at hread ⊢
      exact construct s _ rest hread hraw hmot
    | none =>
      cases ht with
      | nil => rw [segmentsAfter]; exact nil
      | final =>
        rw [segmentsAfter_of_none hc, segmentsAfter]
        exact final
      | @pair d t hd ht =>
        -- after the marker nothing may begin, so the protected character is plain text too
        rw [segmentsAfter_of_none hc, segmentsAfter_of_none (constructAfter?_marker _)]
        exact pair d _ t hd (ih t.length (by simp only [List.length_cons]; omega) (some d) ht rfl)
      | @plain c t hm _ ht =>
        rw [segmentsAfter_of_none hc]
        exact plain c _ t hm (ih t.length (by simp) (some c) ht rfl)

end StructuredText

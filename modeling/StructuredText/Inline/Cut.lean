import StructuredText.Inline.Construct

/-!
# Cutting a paragraph

The text of a paragraph is cut into segments from left to right: where a construct can be read it is
taken, and every other character is plain text. How a text is cut depends on the text alone and not
on which roles are known.
-/

namespace StructuredText

/-- Puts a character in front of the segments, into the plain text that they may begin with. -/
def consText (c : Char) : List Segment → List Segment
  | .text s :: ss => .text (c :: s) :: ss
  | ss => .text [c] :: ss

/-- The construct that begins a text, if the character before the text allows one. -/
def constructAfter? (previous : Option Char) (t : Text) : Option (Segment × Text) :=
  if mayStart previous then construct? t else none

theorem construct?_of_constructAfter? {previous : Option Char} {t rest : Text} {s : Segment}
    (h : constructAfter? previous t = some (s, rest)) : construct? t = some (s, rest) := by
  unfold constructAfter? at h
  split at h
  · exact h
  · cases h

/-- The segments of a text that stands after `previous`. -/
def segmentsAfter (previous : Option Char) : Text → List Segment
  | [] => []
  | c :: t =>
    match _h : constructAfter? previous (c :: t) with
    | some (s, rest) => s :: segmentsAfter s.raw.getLast? rest
    | none => consText c (segmentsAfter (some c) t)
termination_by t => t.length
decreasing_by
  · exact length_lt_of_construct? (construct?_of_constructAfter? ‹_›)
  · simp

/-- The segments of a text in which escapes are marked. -/
def segments (t : Text) : List Segment := segmentsAfter none t

end StructuredText

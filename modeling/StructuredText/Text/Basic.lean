import StructuredText.Text.WhiteSpace

/-!
# Text

A text is the list of its characters, so that every reader in this library is a recursion on it.
String literals stand for their characters.

This module has what all readers share: cutting at a character, joining, trimming white space, and
taking a text apart into words, either all of them or a limited number with the remainder kept
whole.
-/

namespace StructuredText

/-- A text is the list of its characters. -/
abbrev Text := List Char

/-- A string literal stands for the list of its characters. -/
instance : Coe String Text := ⟨String.toList⟩

namespace Text

/-- The pieces between the occurrences of a character; a text without it is one piece. -/
def cutAt (sep : Char) : Text → List Text
  | [] => [[]]
  | c :: t =>
    if c = sep then [] :: cutAt sep t
    else match cutAt sep t with
      | [] => [[c]]
      | p :: ps => (c :: p) :: ps

/-- The pieces in order, with `sep` between neighbours. -/
def join (sep : Text) : List Text → Text
  | [] => []
  | [p] => p
  | p :: q :: ps => p ++ sep ++ join sep (q :: ps)

/-- The lines joined by newlines. -/
def ofLines (ls : List Text) : Text := join ['\n'] ls

/-- The text without leading white space. -/
def trimStart (t : Text) : Text := t.dropWhile isWhite

/-- The text without trailing white space. -/
def trimEnd : Text → Text
  | [] => []
  | c :: t => match trimEnd t with
    | [] => if isWhite c then [] else [c]
    | t' => c :: t'

/-- The text without white space at either end. -/
def trim (t : Text) : Text := trimEnd (trimStart t)

/-- Whether a text holds nothing but white space. -/
def isBlank (t : Text) : Bool := t.all isWhite

/-- The part of `t` after a leading `front`, if it begins so. -/
def after? (front : Text) (t : Text) : Option Text :=
  match front, t with
  | [], t => some t
  | _ :: _, [] => none
  | a :: front, c :: t => if a = c then after? front t else none

theorem eq_append_of_after? {front t r : Text} (h : after? front t = some r) : t = front ++ r := by
  induction front generalizing t with
  | nil => simpa [after?] using h
  | cons a front ih =>
    cases t with
    | nil => simp [after?] at h
    | cons c t =>
      simp only [after?] at h
      split at h
      · next hac => simp [hac, ih h]
      · cases h

theorem after?_append (front t : Text) : after? front (front ++ t) = some t := by
  induction front with
  | nil => rfl
  | cons a front ih => rw [List.cons_append, after?, if_pos rfl, ih]

/-- The part of `t` before a closing `back`, if it ends so. -/
def before? (back : Text) (t : Text) : Option Text :=
  (after? back.reverse t.reverse).map List.reverse

theorem eq_append_of_before? {back t r : Text} (h : before? back t = some r) : t = r ++ back := by
  obtain ⟨u, hu, rfl⟩ := Option.map_eq_some_iff.1 h
  rw [← List.reverse_inj, eq_append_of_after? hu, List.reverse_append, List.reverse_reverse]

theorem before?_append (t back : Text) : before? back (t ++ back) = some t := by
  rw [before?, List.reverse_append, after?_append, Option.map_some, List.reverse_reverse]

/-- The leading run of characters that are not white space. -/
def word (t : Text) : Text := t.takeWhile fun c => !isWhite c

/-- What follows the leading run of characters that are not white space. -/
def afterWord (t : Text) : Text := t.dropWhile fun c => !isWhite c

theorem length_dropWhile_le (p : Char → Bool) (t : Text) : (t.dropWhile p).length ≤ t.length :=
  (List.dropWhile_sublist p).length_le

theorem length_trimStart_le (t : Text) : (trimStart t).length ≤ t.length :=
  length_dropWhile_le _ t

/-- Where trimming stops at a character, that character is not white space. -/
theorem isWhite_head_trimStart {t r : Text} {c : Char} (h : trimStart t = c :: r) :
    isWhite c = false := by
  induction t with
  | nil => simp [trimStart] at h
  | cons d t ih =>
    unfold trimStart at h ih
    rw [List.dropWhile_cons] at h
    split at h
    · exact ih h
    · next hd => cases h; simpa using hd

/-- Dropping the first word leaves less than what stood before the white space ahead of it. -/
theorem length_afterWord_lt {t r : Text} {c : Char} (h : trimStart t = c :: r) :
    (afterWord (c :: r)).length < t.length := by
  have hc := isWhite_head_trimStart h
  have hstep : afterWord (c :: r) = r.dropWhile fun c => !isWhite c := by
    simp [afterWord, hc]
  have hle := length_dropWhile_le (fun c => !isWhite c) r
  have hlen := length_trimStart_le t
  rw [h, List.length_cons] at hlen
  rw [hstep]
  omega

/-- The words of a text: its maximal runs of characters that are not white space. -/
def words (t : Text) : List Text :=
  match _h : trimStart t with
  | [] => []
  | c :: r => word (c :: r) :: words (afterWord (c :: r))
termination_by t.length
decreasing_by exact length_afterWord_lt ‹_›

/-- The first `k` words, and then all that follows them as one last piece that keeps its white
space; fewer pieces if there are fewer words. -/
def splitWords : Nat → Text → List Text
  | 0, t => match trimStart t with
    | [] => []
    | t' => [t']
  | k + 1, t => match trimStart t with
    | [] => []
    | t' => word t' :: splitWords k (afterWord t')

end Text

end StructuredText

import StructuredText.Text.Basic

/-!
# Segments of a paragraph

A paragraph is made of plain text and of the constructs of inline markup: emphasis, strong and
literal text, references by a phrase, and text that a role interprets. A segment keeps what stands
between the marks, in the form in which escapes are marked, and `Segment.raw` puts the marks back.
-/

namespace StructuredText

/-- Where the name of a role stands. -/
inductive RolePlace where
  /-- No name is given. -/
  | absent
  /-- Before the interpreted text. -/
  | before (name : Text)
  /-- After the interpreted text. -/
  | after (name : Text)
  deriving DecidableEq, Repr

/-- A piece of a paragraph, in the form in which escapes are marked. -/
inductive Segment where
  | text (s : Text)
  | emphasis (content : Text)
  | strong (content : Text)
  | literal (content : Text)
  /-- A reference by a phrase; an anonymous one has two underscores. -/
  | phrase (content : Text) (anonymous : Bool)
  | interpreted (place : RolePlace) (content : Text)
  deriving DecidableEq, Repr

/-- The mark around interpreted text and phrases. -/
def backquote : Char := '\x60'

/-- The mark around strong text. -/
def strongMark : Text := ['*', '*']

/-- The mark around emphasized text. -/
def emphasisMark : Text := ['*']

/-- The mark around literal text. -/
def literalMark : Text := [backquote, backquote]

/-- A content between two marks of the same kind. -/
def enclose (mark content : Text) : Text := mark ++ content ++ mark

/-- The marks after a phrase. -/
def underscores (anonymous : Bool) : Text := if anonymous then ['_', '_'] else ['_']

/-- A role name between its colons. -/
def colons (name : Text) : Text := ':' :: name ++ [':']

namespace Segment

/-- The segment as it stands in the text. -/
def raw : Segment → Text
  | text s => s
  | emphasis c => enclose emphasisMark c
  | strong c => enclose strongMark c
  | literal c => enclose literalMark c
  | phrase c anonymous => enclose [backquote] c ++ underscores anonymous
  | interpreted .absent c => enclose [backquote] c
  | interpreted (.before name) c => colons name ++ enclose [backquote] c
  | interpreted (.after name) c => enclose [backquote] c ++ colons name

end Segment

end StructuredText

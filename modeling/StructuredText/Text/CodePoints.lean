/-!
# Sets of code points

A character class of a standard is a set of code points, mostly long ranges with few gaps. It is
kept as the ascending list of the code points where membership changes: the first bound begins a
range, the second ends it, and so on. Looking a character up stops at the first bound above it, so
that the common characters at the low end are found at once.
-/

namespace StructuredText

/-- A set of code points, as the ascending list of the places where membership changes. -/
structure CodePoints where
  bounds : List Nat
  deriving DecidableEq, Repr

namespace CodePoints

/-- Whether an odd number of the leading `bounds` is at most `n`. -/
def insideOf : List Nat → Nat → Bool
  | [], _ => false
  | b :: bs, n => if n < b then false else !insideOf bs n

/-- Whether the set holds the character. -/
def has (s : CodePoints) (c : Char) : Bool := insideOf s.bounds c.toNat

theorem insideOf_of_lt {b n : Nat} (h : n < b) (bs : List Nat) : insideOf (b :: bs) n = false := by
  simp [insideOf, h]

theorem insideOf_of_le {b n : Nat} (h : b ≤ n) (bs : List Nat) :
    insideOf (b :: bs) n = !insideOf bs n := by
  simp [insideOf, Nat.not_lt.2 h]

end CodePoints

end StructuredText

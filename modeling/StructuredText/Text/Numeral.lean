import StructuredText.Text.Basic

/-!
# Numerals

Reading whole numbers from text and writing them. Only the ten ASCII digits count as digits, signs
are optional where they are allowed at all, and a number outside the range of the field it is read
for is no number.
-/

namespace StructuredText

/-- Whether a character is one of the ten ASCII digits. -/
def isDigit (c : Char) : Bool := '0' ≤ c && c ≤ '9'

/-- The value of a digit. -/
def digitValue (c : Char) : Nat := c.toNat - '0'.toNat

namespace Text

/-- The number that a run of digits denotes, continuing from `n`. -/
def digitsFrom (n : Nat) : Text → Nat
  | [] => n
  | c :: t => digitsFrom (10 * n + digitValue c) t

/-- The number written by a non-empty text of digits. -/
def natural? (t : Text) : Option Nat :=
  if t ≠ [] ∧ t.all isDigit then some (digitsFrom 0 t) else none

/-- The integer written by digits after an optional sign. -/
def integer? : Text → Option Int
  | '-' :: t => (natural? t).map fun n => -(n : Int)
  | '+' :: t => (natural? t).map fun n => (n : Int)
  | t => (natural? t).map fun n => (n : Int)

/-- An integer that fits into 64 bits with sign. -/
def integer64? (t : Text) : Option Int :=
  (integer? t).filter fun n => -0x8000000000000000 ≤ n && n < 0x8000000000000000

/-- A natural number that fits into 32 bits; a plus sign may stand before it. -/
def natural32? (t : Text) : Option Nat :=
  let digits := match t with
    | '+' :: r => r
    | _ => t
  (natural? digits).filter fun n => n < 0x100000000

/-- The digit of a value below ten. -/
def digit (n : Nat) : Char := Char.ofNat ('0'.toNat + n)

/-- The decimal numeral of a number, without leading zeros. -/
def ofNat (n : Nat) : Text :=
  if n < 10 then [digit n] else ofNat (n / 10) ++ [digit (n % 10)]
termination_by n
decreasing_by omega

end Text

end StructuredText

import StructuredText.Text.Basic

/-!
# Values of a settings file

A settings file is written in TOML. Its values are text, numbers, truth values, dates and times,
and arrays and tables of these. A date or a time is kept as it was written.
-/

namespace StructuredText.Toml

/-- A number with a fractional part or an exponent. -/
inductive Real where
  /-- `digits` times ten to the power `exponent`, with a sign. -/
  | decimal (negative : Bool) (digits : Nat) (exponent : Int)
  | infinity (negative : Bool)
  | notANumber
  deriving DecidableEq, Repr

/-- A value of a settings file. -/
inductive Value where
  | string (s : Text)
  | integer (n : Int)
  | real (r : Real)
  | boolean (b : Bool)
  | dateTime (written : Text)
  | array (vs : List Value)
  | table (entries : List (Text × Value))
  deriving Repr

/-- The value of the first entry of this name. -/
def valueOf? (name : Text) : List (Text × Value) → Option Value
  | [] => none
  | (n, v) :: es => if n = name then some v else valueOf? name es

namespace Real

/-- The least number that is rounded to infinity when it is stored with 53 binary digits and a
binary exponent below 1024. -/
def overflowBound : Nat := Nat.pow 2 1024 - Nat.pow 2 970

/-- The number of decimal digits. -/
def decimalLength (n : Nat) : Nat := (Nat.toDigits 10 n).length

/-- Whether a number is too large to be stored. Its decimal length settles all but the numbers close
to the bound. -/
def overflows : Real → Bool
  | decimal _ digits exponent =>
    let magnitude := (decimalLength digits : Int) + exponent
    if digits = 0 ∨ magnitude < 300 then false
    else if 320 < magnitude then true
    else if 0 ≤ exponent then overflowBound ≤ digits * Nat.pow 10 exponent.toNat
    else overflowBound * Nat.pow 10 (-exponent).toNat ≤ digits
  | _ => false

end Real

mutual

/-- Whether every number in a value can be stored: integers within 128 bits, with sign or without,
and others below the overflow bound. -/
def Value.isStorable : Value → Bool
  | .integer n => -(Nat.pow 2 127 : Int) ≤ n && n < (Nat.pow 2 128 : Int)
  | .real r => !r.overflows
  | .array vs => Value.areStorable vs
  | .table es => Value.entriesStorable es
  | _ => true

/-- Whether all values of an array can be stored. -/
def Value.areStorable : List Value → Bool
  | [] => true
  | v :: vs => v.isStorable && Value.areStorable vs

/-- Whether all values of a table can be stored. -/
def Value.entriesStorable : List (Text × Value) → Bool
  | [] => true
  | (_, v) :: es => v.isStorable && Value.entriesStorable es

end

end StructuredText.Toml

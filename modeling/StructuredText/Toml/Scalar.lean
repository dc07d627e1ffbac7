import StructuredText.Text.Numeral
import StructuredText.Toml.Value

/-!
# Numbers, dates and times of a settings file

What is written without quotes or brackets is a truth value, a number, or a date or time. It is read
as a whole: the readers below take the complete token.
-/

namespace StructuredText.Toml

/-- The digits of a number, in which single underscores may stand between digits. -/
def groupedDigits? (isDigit : Char → Bool) : Text → Option Text
  | [] => none
  | [c] => if isDigit c then some [c] else none
  | c :: '_' :: t => if isDigit c then (groupedDigits? isDigit t).map (c :: ·) else none
  | c :: t => if isDigit c then (groupedDigits? isDigit t).map (c :: ·) else none

/-- Digits of a decimal number that do not begin with a superfluous zero. -/
def decimalDigits? (t : Text) : Option Text :=
  (groupedDigits? isDigit t).filter fun ds => ds.length = 1 || ds.head? ≠ some '0'

/-- The sign of a number and what follows it. -/
def splitSign : Text → Bool × Text
  | '-' :: t => (true, t)
  | '+' :: t => (false, t)
  | t => (false, t)

/-- The integer of a sign and a magnitude. -/
def withSign (negative : Bool) (n : Nat) : Int := if negative then -(n : Int) else n

/-- The value of a digit in a base up to sixteen. -/
def baseValue (c : Char) : Nat :=
  if isDigit c then digitValue c else (c.toNat % 32) + 9

/-- The number written by digits of a base. -/
def baseNumber? (base : Nat) (t : Text) : Option Nat :=
  let isBaseDigit := fun c : Char =>
    (isDigit c || ('a' ≤ c && c ≤ 'f') || ('A' ≤ c && c ≤ 'F')) && decide (baseValue c < base)
  (groupedDigits? isBaseDigit t).map fun ds => ds.foldl (fun n c => base * n + baseValue c) 0

/-- An integer in any base. -/
def integer? : Text → Option Int
  | '0' :: 'x' :: t => (baseNumber? 16 t).map Int.ofNat
  | '0' :: 'o' :: t => (baseNumber? 8 t).map Int.ofNat
  | '0' :: 'b' :: t => (baseNumber? 2 t).map Int.ofNat
  | t =>
    let (negative, t) := splitSign t
    (decimalDigits? t).map fun ds => withSign negative (Text.digitsFrom 0 ds)

/-- The digits of a fraction and how many there are, if a full stop begins one. -/
def fraction? : Text → Option Text
  | [] => some []
  | '.' :: t => groupedDigits? isDigit t
  | _ => none

/-- The exponent, if the text begins one. -/
def exponent? : Text → Option Int
  | [] => some 0
  | _ :: t =>
    let (negative, t) := splitSign t
    (groupedDigits? isDigit t).map fun ds => withSign negative (Text.digitsFrom 0 ds)

/-- A number with a fraction or an exponent. -/
def decimalReal? (t : Text) : Option Real := do
  let (negative, t) := splitSign t
  let isMark := fun c : Char => c == 'e' || c == 'E'
  let mantissa := t.takeWhile fun c => !isMark c
  let whole := mantissa.takeWhile fun c => c ≠ '.'
  let ds ← decimalDigits? whole
  let fs ← fraction? (mantissa.dropWhile fun c => c ≠ '.')
  let e ← exponent? (t.dropWhile fun c => !isMark c)
  return .decimal negative (Text.digitsFrom 0 (ds ++ fs)) (e - fs.length)

/-- A number that is not an integer, possibly infinite or none at all. -/
def real? (t : Text) : Option Real :=
  let (negative, name) := splitSign t
  if name = "inf".toList then some (.infinity negative)
  else if name = "nan".toList then some .notANumber
  else decimalReal? t

/-- A number of exactly `n` digits. -/
def fixedDigits? (n : Nat) (t : Text) : Option (Nat × Text) :=
  let ds := t.take n
  if ds.length = n ∧ ds.all isDigit then some (Text.digitsFrom 0 ds, t.drop n) else none

/-- What follows a character, if the text begins with it. -/
def expect? (c : Char) : Text → Option Text
  | [] => none
  | d :: t => if d = c then some t else none

/-- The number of days of a month. -/
def monthLength (year month : Nat) : Nat :=
  if month = 2 then
    if year % 4 = 0 ∧ (year % 100 ≠ 0 ∨ year % 400 = 0) then 29 else 28
  else if month ∈ [4, 6, 9, 11] then 30 else 31

/-- What follows a date. -/
def date? (t : Text) : Option Text := do
  let (year, t) ← fixedDigits? 4 t
  let (month, t) ← fixedDigits? 2 (← expect? '-' t)
  let (day, t) ← fixedDigits? 2 (← expect? '-' t)
  if 1 ≤ month ∧ month ≤ 12 ∧ 1 ≤ day ∧ day ≤ monthLength year month then some t else none

/-- What follows the part of a second. -/
def secondFraction? : Text → Option Text
  | '.' :: t => if (t.takeWhile isDigit).isEmpty then none else some (t.dropWhile isDigit)
  | t => some t

/-- What follows the seconds of a time, which may be absent. -/
def seconds? : Text → Option Text
  | ':' :: t => do
    let (second, t) ← fixedDigits? 2 t
    if second ≤ 60 then secondFraction? t else none
  | t => some t

/-- What follows a time of day. -/
def time? (t : Text) : Option Text := do
  let (hour, t) ← fixedDigits? 2 t
  let (minute, t) ← fixedDigits? 2 (← expect? ':' t)
  if hour ≤ 23 ∧ minute ≤ 59 then seconds? t else none

/-- Whether the text is an offset from universal time, or empty. -/
def isOffset : Text → Bool
  | [] => true
  | ['Z'] => true
  | ['z'] => true
  | c :: t =>
    (c == '+' || c == '-') &&
      match (do
        let (hour, t) ← fixedDigits? 2 t
        let (minute, t) ← fixedDigits? 2 (← expect? ':' t)
        return decide (hour ≤ 23 ∧ minute ≤ 59 ∧ t = [])) with
      | some b => b
      | none => false

/-- Whether a text is a date, a time, or both with or without an offset. -/
def isDateTime (t : Text) : Bool :=
  match date? t with
  | some [] => true
  | some (c :: t) =>
    (c == 'T' || c == 't' || c == ' ') &&
      match time? t with
      | some t => isOffset t
      | none => false
  | none => decide (time? t = some [])

/-- Whether a character may stand in a token. -/
def isTokenChar (c : Char) : Bool :=
  isDigit c || c.isAlpha || c == '+' || c == '-' || c == '_' || c == '.' || c == ':'

/-- The token at the start of a text. A time may follow a date after a single space. -/
def token (t : Text) : Text × Text :=
  let first := t.takeWhile isTokenChar
  let rest := t.dropWhile isTokenChar
  match date? first, rest with
  | some [], ' ' :: c :: r =>
    if isDigit c then
      (first ++ ' ' :: (c :: r).takeWhile isTokenChar, (c :: r).dropWhile isTokenChar)
    else (first, rest)
  | _, _ => (first, rest)

/-- The value that a token denotes. -/
def scalar? (t : Text) : Option Value :=
  if t = "true".toList then some (.boolean true)
  else if t = "false".toList then some (.boolean false)
  else if isDateTime t then some (.dateTime t)
  else ((integer? t).map Value.integer).or ((real? t).map Value.real)

end StructuredText.Toml

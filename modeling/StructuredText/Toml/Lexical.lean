import StructuredText.Text.Numeral

/-!
# The lexical parts of a settings file

Readers for blanks, comments, line ends and strings. Each takes the text from where it stands and
gives what it read together with the rest, or nothing if the text cannot be read there.
-/

namespace StructuredText.Toml

/-- The text without leading spaces and tabs. -/
def skipBlanks (t : Text) : Text := t.dropWhile fun c => c == ' ' || c == '\t'

/-- Whether a character may stand in a comment or, as itself, in a string. -/
def isPlain (c : Char) : Bool := c == '\t' || (' ' ≤ c && c ≠ '\x7f')

/-- What follows a line break. -/
def lineBreak? : Text → Option Text
  | '\n' :: t => some t
  | '\r' :: '\n' :: t => some t
  | _ => none

/-- The text from the end of a comment on. -/
def skipComment : Text → Text
  | '#' :: t => t.dropWhile isPlain
  | t => t

/-- What follows the end of a line, before which blanks and a comment may stand. -/
def lineEnd? (t : Text) : Option Text :=
  match skipComment (skipBlanks t) with
  | [] => some []
  | t => lineBreak? t

/-- The text without leading blanks, comments and line breaks, of which at most `n` are skipped. -/
def skipLines : Nat → Text → Text
  | 0, t => t
  | n + 1, t =>
    let t := skipComment (skipBlanks t)
    match lineBreak? t with
    | some t => skipLines n t
    | none => t

/-- The text without leading blanks, comments and line breaks. -/
def skipSpace (t : Text) : Text := skipLines t.length t

/-- Whether a character may stand in a bare key. -/
def isKeyChar (c : Char) : Bool := isDigit c || c.isAlpha || c == '-' || c == '_'

/-- The value of a hexadecimal digit. -/
def hexValue? (c : Char) : Option Nat :=
  if isDigit c then some (digitValue c)
  else if 'a' ≤ c ∧ c ≤ 'f' then some (c.toNat - 'a'.toNat + 10)
  else if 'A' ≤ c ∧ c ≤ 'F' then some (c.toNat - 'A'.toNat + 10)
  else none

/-- The number written by exactly `n` hexadecimal digits, continuing from `acc`. -/
def hexDigits? : (n : Nat) → (acc : Nat) → Text → Option (Nat × Text)
  | 0, acc, t => some (acc, t)
  | n + 1, acc, c :: t => (hexValue? c).bind fun d => hexDigits? n (16 * acc + d) t
  | _ + 1, _, [] => none

/-- The character with a code that is written by `n` hexadecimal digits. -/
def codedChar? (n : Nat) (t : Text) : Option (Char × Text) :=
  (hexDigits? n 0 t).bind fun (code, rest) =>
    if code.isValidChar then some (Char.ofNat code, rest) else none

/-- The character that an escape stands for, after the backslash. -/
def escaped? : Text → Option (Char × Text)
  | 'b' :: t => some ('\x08', t)
  | 't' :: t => some ('\t', t)
  | 'n' :: t => some ('\n', t)
  | 'f' :: t => some ('\x0c', t)
  | 'r' :: t => some ('\r', t)
  | 'e' :: t => some ('\x1b', t)
  | '"' :: t => some ('"', t)
  | '\\' :: t => some ('\\', t)
  | 'x' :: t => codedChar? 2 t
  | 'u' :: t => codedChar? 4 t
  | 'U' :: t => codedChar? 8 t
  | _ => none

/-- The text without the blanks and line breaks at its start, if these include a line break. -/
def continuedLine? (t : Text) : Option Text :=
  (lineBreak? (skipBlanks t)).map fun t =>
    t.dropWhile fun c => c == ' ' || c == '\t' || c == '\n' || c == '\r'

/-- The text of a string on one line up to its closing quote, within `n` steps. If `raw`, a
backslash stands for itself. -/
def stringBody? (quote : Char) (raw : Bool) : (n : Nat) → Text → Option (Text × Text)
  | 0, _ => none
  | _ + 1, [] => none
  | n + 1, c :: t =>
    if c = quote then some ([], t)
    else if c = '\\' ∧ !raw then
      (escaped? t).bind fun (d, t) =>
        (stringBody? quote raw n t).map fun p => (d :: p.1, p.2)
    else if isPlain c then (stringBody? quote raw n t).map fun p => (c :: p.1, p.2)
    else none

/-- What follows the quotes that close a string over several lines; up to two quotes right before
them belong to the string. -/
def closingQuotes? (quote : Char) (t : Text) : Option (Text × Text) :=
  let run := t.takeWhile (· == quote)
  if run.length < 3 ∨ 5 < run.length then none
  else some (run.drop 3, t.drop run.length)

/-- The text of a string over several lines up to its closing quotes, within `n` steps. -/
def linesBody? (quote : Char) (raw : Bool) : (n : Nat) → Text → Option (Text × Text)
  | 0, _ => none
  | _ + 1, [] => none
  | n + 1, c :: t =>
    if c = quote then
      match closingQuotes? quote (c :: t) with
      | some p => some p
      | none =>
        if ((c :: t).takeWhile (· == quote)).length < 3 then
          (linesBody? quote raw n t).map fun p => (c :: p.1, p.2)
        else none
    else if c = '\\' ∧ !raw then
      match continuedLine? t with
      | some t => linesBody? quote raw n t
      | none =>
        (escaped? t).bind fun (d, t) =>
          (linesBody? quote raw n t).map fun p => (d :: p.1, p.2)
    else if c = '\r' then
      match t with
      | '\n' :: t => (linesBody? quote raw n t).map fun p => ('\r' :: '\n' :: p.1, p.2)
      | _ => none
    else if c = '\n' ∨ isPlain c then (linesBody? quote raw n t).map fun p => (c :: p.1, p.2)
    else none

/-- Whether strings in these quotes take a backslash for itself. -/
def isRawQuote (quote : Char) : Bool := quote == '\x27'

/-- A string on one line that begins with this quote. -/
def lineString? (quote : Char) : Text → Option (Text × Text)
  | [] => none
  | c :: t => if c = quote then stringBody? quote (isRawQuote quote) (t.length + 1) t else none

/-- A string that begins with this quote, on one line or over several. A line break right after the
opening quotes does not belong to it. -/
def quotedString? (quote : Char) (t : Text) : Option (Text × Text) :=
  match Text.after? [quote, quote, quote] t with
  | some t =>
    let t := (lineBreak? t).getD t
    linesBody? quote (isRawQuote quote) (t.length + 1) t
  | none => lineString? quote t

/-- A string in either kind of quotes. -/
def string? (t : Text) : Option (Text × Text) :=
  (quotedString? '"' t).or (quotedString? '\x27' t)

/-- One part of a key: bare, or a string on one line. -/
def keyPart? (t : Text) : Option (Text × Text) :=
  match t.takeWhile isKeyChar with
  | [] => (lineString? '"' t).or (lineString? '\x27' t)
  | part => some (part, t.dropWhile isKeyChar)

/-- The parts of a key, separated by full stops, of which there are at most `n`. -/
def keyParts? : (n : Nat) → Text → Option (List Text × Text)
  | 0, _ => none
  | n + 1, t =>
    (keyPart? (skipBlanks t)).bind fun (part, t) =>
      match skipBlanks t with
      | '.' :: t => (keyParts? n t).map fun p => (part :: p.1, p.2)
      | t => some ([part], t)

/-- A key, with the blanks around it skipped. -/
def key? (t : Text) : Option (List Text × Text) := keyParts? (t.length + 1) t

end StructuredText.Toml

import StructuredText.Toml.Item
import StructuredText.Toml.Lexical
import StructuredText.Toml.Scalar

/-!
# Reading a settings file

A settings file is a sequence of statements, each on a line of its own unless its value extends over
several: a header that names a table, or a key with a value. The statements are carried out one
after the other on the tables built so far.
-/

namespace StructuredText.Toml

/-- How deeply arrays and tables in braces may be nested. -/
def nestingLimit : Nat := 80

/-- Items separated by commas up to a closing bracket, at most `n` of them; a comma may follow the
last one. Blanks, comments and line breaks may stand between all of these. -/
def listBody? {α : Type} (item? : Text → Option (α × Text)) (close : Char) :
    (n : Nat) → Text → Option (List α × Text)
  | 0, _ => none
  | n + 1, t =>
    match skipSpace t with
    | [] => none
    | c :: t =>
      if c = close then some ([], t)
      else (item? (c :: t)).bind fun (a, t) =>
        match skipSpace t with
        | ',' :: t => (listBody? item? close n t).map fun p => (a :: p.1, p.2)
        | d :: t => if d = close then some ([a], t) else none
        | [] => none

/-- A key with a value, where `skip` passes over what may stand on either side of the equals sign
and `value?` reads the value. -/
def pair? (skip : Text → Text) (value? : Text → Option (Value × Text)) (t : Text) :
    Option ((List Text × Value) × Text) :=
  (key? t).bind fun (path, t) =>
    match skip t with
    | '=' :: t => (value? (skip t)).map fun p => ((path, p.1), p.2)
    | _ => none

/-- Adds a value under a key of one or more parts to a table. -/
def addPair (es : Entries) (pair : List Text × Value) : Option Entries :=
  match pair.1.getLast? with
  | none => none
  | some key => addDotted pair.2 pair.1.dropLast key es

/-- The table with these keys and values. -/
def tableOfPairs? (pairs : List (List Text × Value)) : Option Value :=
  (pairs.foldlM addPair []).map fun es => .table (Item.entriesToValues es)

/-- A value with at most `depth` levels of brackets and braces. In braces, line breaks and comments
may stand wherever blanks may, except inside a key. -/
def value? : (depth : Nat) → Text → Option (Value × Text)
  | depth, t =>
    match t with
    | [] => none
    | c :: r =>
      if c = '"' ∨ c = '\x27' then (string? t).map fun p => (.string p.1, p.2)
      else if c = '[' then
        match depth with
        | 0 => none
        | depth + 1 =>
          (listBody? (value? depth) ']' (r.length + 1) r).map fun p => (.array p.1, p.2)
      else if c = '\x7b' then
        match depth with
        | 0 => none
        | depth + 1 =>
          (listBody? (pair? skipSpace (value? depth)) '\x7d' (r.length + 1) r).bind fun p =>
            (tableOfPairs? p.1).map fun v => (v, p.2)
      else
        let (written, rest) := token t
        (scalar? written).map fun v => (v, rest)

/-- A statement of a settings file. -/
inductive Statement where
  /-- The statements that follow are about this table. -/
  | header (path : List Text)
  /-- The statements that follow are about a new table of this array. -/
  | arrayHeader (path : List Text)
  | pair (path : List Text) (value : Value)
  deriving Repr

/-- The statement that begins a text without blanks before it, and what follows it. -/
def statement? (t : Text) : Option (Statement × Text) :=
  match t with
  | '[' :: '[' :: t =>
    (key? t).bind fun (path, t) =>
      (Text.after? [']', ']'] t).map fun t => (.arrayHeader path, t)
  | '[' :: t =>
    (key? t).bind fun (path, t) =>
      (Text.after? [']'] t).map fun t => (.header path, t)
  | t => (pair? skipBlanks (value? nestingLimit) t).map fun p => (.pair p.1.1 p.1.2, p.2)

/-- The statements of a text, of which there are at most `n`. -/
def statements? : (n : Nat) → Text → Option (List Statement)
  | 0, t => if skipSpace t = [] then some [] else none
  | n + 1, t =>
    match skipSpace t with
    | [] => some []
    | t =>
      (statement? t).bind fun (s, t) =>
        (lineEnd? t).bind fun t => (statements? n t).map (s :: ·)

/-- The tables built so far, and the path of the table that the next pairs belong to. -/
structure Building where
  entries : Entries
  path : List Text

/-- Carries out a statement. -/
def Building.step (b : Building) : Statement → Option Building
  | .header path => do
    let key ← path.getLast?
    return ⟨← underHeader path.dropLast (defineTable key) b.entries, path⟩
  | .arrayHeader path => do
    let key ← path.getLast?
    return ⟨← underHeader path.dropLast (appendTable key) b.entries, path⟩
  | .pair path value => do
    return ⟨← underHeader b.path (addPair · (path, value)) b.entries, b.path⟩

/-- The text without a byte order mark at its start. -/
def dropByteOrderMark : Text → Text
  | c :: t => if c = Char.ofNat 0xfeff then t else c :: t
  | [] => []

/-- The table of a settings file. -/
def parse? (source : Text) : Option (List (Text × Value)) := do
  let t := dropByteOrderMark source
  let building ← (← statements? t.length t).foldlM Building.step ⟨[], []⟩
  return Item.entriesToValues building.entries

end StructuredText.Toml

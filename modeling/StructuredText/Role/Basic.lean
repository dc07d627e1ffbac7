import StructuredText.Document.Basic
import StructuredText.Error
import StructuredText.Role.ExplicitTitle
import StructuredText.Role.Spelling
import StructuredText.Text.Numeral

/-!
# Roles

A role says what interpreted text becomes. The roles of the grammar make an element of it; the two
roles that keep the text record its name, its text or target, and how it was written; a caller may
bring roles of its own. A role is generic, or it is a reference, which may have an explicit title.
-/

namespace StructuredText

/-- What a role is for. -/
inductive RoleKind where
  /-- It marks up its text. -/
  | generic
  /-- It names a target, possibly with an explicit title. -/
  | reference
  deriving DecidableEq, Repr

/-- One occurrence of interpreted text. -/
structure Interpreted where
  /-- The role's name as written. -/
  name : Text
  /-- The text of the whole construct as written. -/
  rawtext : Text
  /-- The interpreted text, with markers for escaping backslashes. -/
  text : Text
  /-- The line on which it begins, counted from one. -/
  line : Nat
  deriving DecidableEq, Repr

/-- What an element made by a role shows. -/
inductive RoleContent where
  /-- The text itself. -/
  | text
  /-- The number of a proposal, from 0 to 9999. -/
  | proposal
  /-- The number of a memorandum, from 1 on. -/
  | memorandum
  /-- Nothing: the role is there only to derive others from. -/
  | format
  /-- The title of a cross-reference. -/
  | crossReference
  deriving DecidableEq, Repr

/-- What interpreted text becomes. -/
inductive Role where
  /-- An element with the given tag. -/
  | element (tag : Text) (content : RoleContent)
  /-- A node that keeps the role's name and text. -/
  | generic
  /-- A node that keeps the role's name, target and title. -/
  | reference
  /-- What a caller's own function makes of it. -/
  | custom (kind : RoleKind) (run : Interpreted → Except RoleFault (List Inline))

namespace Role

/-- What the role is for. -/
def kind : Role → RoleKind
  | element _ .crossReference => .reference
  | element _ _ => .generic
  | generic => .generic
  | reference => .reference
  | custom kind _ => kind

/-- The text that an element made by a role shows. -/
def shownText (content : RoleContent) (i : Interpreted) : Except RoleFault Text :=
  let text := Text.unescape i.text
  match content with
  | .text => .ok text
  | .proposal =>
    match (Text.natural32? (Text.trim text)).filter (· ≤ 9999) with
    | some n => .ok ("PEP " ++ Text.ofNat n)
    | none => .error (.proposalNumber text)
  | .memorandum =>
    match (Text.natural32? (Text.trim text)).filter (1 ≤ ·) with
    | some n => .ok ("RFC " ++ Text.ofNat n)
    | none => .error (.memorandumNumber text)
  | .format => .error (.formatless i.name)
  | .crossReference =>
    match explicitTitle? i.text with
    | some (title, _) => .ok (Text.unescape title)
    | none => .ok text

/-- The node that keeps a cross-reference. -/
def keptReference (i : Interpreted) : Inline :=
  let name := lowercase i.name
  match explicitTitle? i.text with
  | some (title, target) =>
    .crossReference i.rawtext name true (Text.unescape target) (Text.unescape title)
  | none =>
    let text := Text.unescape i.text
    .crossReference i.rawtext name false text text

/-- What the role makes of interpreted text. -/
def run (role : Role) (i : Interpreted) : Except RoleFault (List Inline) :=
  match role with
  | element tag content =>
    match shownText content i with
    | .ok text => .ok [.element tag text i.rawtext]
    | .error fault => .error fault
  | generic => .ok [.role (roleSpelling i.name) i.rawtext (Text.restore i.text)]
  | reference => .ok [keptReference i]
  | custom _ run => run i

/-- The role that keeps what the given role would have expanded. -/
def kept (role : Role) : Role :=
  match role.kind with
  | .reference => reference
  | .generic => generic

@[simp] theorem kind_kept (role : Role) : role.kept.kind = role.kind := by
  unfold kept
  split <;> simp_all [kind]

end Role

end StructuredText

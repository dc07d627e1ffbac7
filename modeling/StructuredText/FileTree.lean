import StructuredText.Text.Basic

/-!
# File trees

A tree of directories and files, given by its entries. A place in it is the list of the names that
lead there from the root; each of them but the last is a directory. A path is written relative to a
current directory, or from the root if it begins with a slash.
-/

namespace StructuredText

/-- A place in a file tree: the names that lead to it from the root. -/
abbrev Place := List Text

/-- What stands at a place. -/
inductive FileEntry where
  | file (bytes : ByteArray)
  | directory

/-- A tree of directories and files. -/
structure FileTree where
  /-- The entries; of two at one place the first counts. The directories on the way to an entry
  need not be listed. -/
  entries : List (Place × FileEntry)

namespace FileTree

/-- What stands at a place; the root and every place on the way to an entry are directories. -/
def entryAt? (tree : FileTree) (place : Place) : Option FileEntry :=
  match tree.entries.find? fun e => e.1 = place with
  | some e => some e.2
  | none =>
    if place = [] ∨ tree.entries.any (fun e => place.isPrefixOf e.1) then some .directory else none

/-- Whether anything stands at a place. -/
def isPresent (tree : FileTree) (place : Place) : Bool := (tree.entryAt? place).isSome

/-- Whether a directory stands at a place. -/
def isDirectory (tree : FileTree) (place : Place) : Bool :=
  match tree.entryAt? place with
  | some .directory => true
  | _ => false

/-- The text of the file at a place, if there is a file and it holds text. -/
def readText? (tree : FileTree) (place : Place) : Option Text :=
  match tree.entryAt? place with
  | some (.file bytes) => (String.fromUTF8? bytes).map String.toList
  | _ => none

/-- Follows names from a place. A name can only follow a directory. The empty name and a single dot
stay there, and two dots lead to the directory around it. -/
def walk? (tree : FileTree) (place : Place) : List Text → Option Place
  | [] => if tree.isPresent place then some place else none
  | name :: names =>
    if !tree.isDirectory place then none
    else if name = [] ∨ name = ['.'] then walk? tree place names
    else if name = ['.', '.'] then walk? tree place.dropLast names
    else walk? tree (place ++ [name]) names

/-- The place that a path leads to. The empty path leads nowhere. -/
def resolve? (tree : FileTree) (current : Place) (path : Text) : Option Place :=
  match path with
  | [] => none
  | '/' :: path => tree.walk? [] (Text.cutAt '/' path)
  | path => tree.walk? current (Text.cutAt '/' path)

/-- A directory and the directories around it, the innermost first. -/
def ancestors : Place → List Place
  | [] => [[]]
  | name :: names => (ancestors names).map (name :: ·) ++ [[]]

/-- The place of a name in a directory or else in the nearest directory around it that has it. -/
def nearest? (tree : FileTree) (name : Text) (directory : Place) : Option Place :=
  ((ancestors directory).map (· ++ [name])).find? tree.isPresent

end FileTree

end StructuredText

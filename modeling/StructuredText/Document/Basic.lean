import StructuredText.Invocation.Basic

/-!
# Documents

A document is a list of blocks; a paragraph holds inline nodes. Directives and roles contribute
either elements, which stand for what the construct means, or nodes that keep the construct as it
was written. A caller's own directive contributes extension nodes, whose nested blocks are its own
affair.
-/

namespace StructuredText

/-- A piece of a paragraph. -/
inductive Inline where
  /-- Plain text, with escapes removed. -/
  | text (s : Text)
  | emphasis (s : Text)
  | strong (s : Text)
  /-- Text taken as it is. -/
  | literal (s : Text)
  /-- The meaning of a role or a reference. -/
  | element (tag : Text) (text : Text) (rawtext : Text)
  /-- An occurrence of a role kept as written; the text has its backslashes. -/
  | role (role : Text) (rawtext : Text) (text : Text)
  /-- A cross-reference kept as written. Without an explicit title the title is the target. -/
  | crossReference (rawtext : Text) (name : Text) (explicitTitle : Bool) (target : Text)
      (title : Text)
  deriving DecidableEq, Repr

/-- A block of a document. Lines are counted from one. -/
inductive Block where
  | paragraph (line : Nat) (children : List Inline)
  /-- An indented block. -/
  | quote (line : Nat) (children : List Block)
  /-- A comment or other explicit markup, kept as written. -/
  | comment (line : Nat) (text : Text)
  /-- The meaning of a directive, or a literal block. -/
  | element (tag : Text) (attributes : List (Text × Text)) (text : Option Text)
      (children : List Block)
  /-- An invocation kept as written. If it is not raw, its content is parsed into blocks. -/
  | directive (invocation : Invocation) (raw : Bool) (children : List Block)
  /-- A node of a caller's own directive. -/
  | extension (tag : Text) (invocation : Invocation) (attributes : List (Text × Text))
      (children : List Block)
  deriving BEq, Repr

namespace Block

/-- The blocks nested in a block. Nodes that keep an invocation and extension nodes are opaque. -/
def children : Block → List Block
  | quote _ bs => bs
  | element _ _ _ bs => bs
  | _ => []

/-- The inline nodes of a paragraph. -/
def inlines : Block → List Inline
  | paragraph _ is => is
  | _ => []

/-- An element without attributes that holds text only. -/
def ofText (tag text : Text) : Block := element tag [] (some text) []

end Block

/-- The value of the first attribute of this name. -/
def attribute? (name : Text) : List (Text × Text) → Option Text
  | [] => none
  | (n, v) :: rest => if n = name then some v else attribute? name rest

/-- A parsed document. -/
structure Document where
  children : List Block
  deriving BEq, Repr

end StructuredText

import StructuredText.Invocation.Parts

/-!
# Parse errors

The first thing wrong with a document, with the name concerned and its line. A directive fails
because its block cannot be divided, because it refuses its input, or because a file cannot be
read; a role fails because it refuses its text.
-/

namespace StructuredText

/-- Why a directive fails, apart from errors in its content. -/
inductive DirectiveFault where
  /-- Its block cannot be divided. -/
  | block (cause : BlockError)
  /-- It refuses its input. -/
  | markup (message : Text)
  /-- A file cannot be read; the reader gives the wording. -/
  | io (message : Text)
  deriving DecidableEq, Repr

/-- Why a role refuses its text. -/
inductive RoleFault where
  /-- The text, which is given, is no number that a proposal can have. -/
  | proposalNumber (text : Text)
  /-- The text, which is given, is no number that a memorandum can have. -/
  | memorandumNumber (text : Text)
  /-- The role of this name has no output format of its own. -/
  | formatless (name : Text)
  /-- A reason of a caller's own role. -/
  | other (message : Text)
  deriving DecidableEq, Repr

/-- What is wrong with a document. -/
inductive ParseError where
  | unknownDirective (name : Text) (line : Nat)
  | directive (name : Text) (line : Nat) (fault : DirectiveFault)
  | unknownRole (name : Text) (line : Nat)
  | role (name : Text) (line : Nat) (fault : RoleFault)
  /-- Content is nested more deeply than the limit allows. -/
  | depthExceeded (line : Nat) (maximum : Nat)
  deriving DecidableEq, Repr

namespace DirectiveFault

/-- The wording of the fault, without final full stop. -/
def message : DirectiveFault → String
  | block cause => cause.message
  | markup m => String.ofList m
  | io m => String.ofList m

end DirectiveFault

namespace RoleFault

/-- The wording of the fault, without final full stop. -/
def message : RoleFault → String
  | proposalNumber text =>
    s!"PEP number must be a number from 0 to 9999; \"{String.ofList text}\" is invalid"
  | memorandumNumber text =>
    "RFC number must be a number greater than or equal to 1; "
      ++ s!"\"{String.ofList text}\" is invalid"
  | formatless name =>
    s!"no format is associated with the \"{String.ofList name}\" role; "
      ++ "derive a role with the \"role\" directive"
  | other m => String.ofList m

end RoleFault

namespace ParseError

/-- The wording of the error. -/
def message : ParseError → String
  | unknownDirective name line =>
    s!"line {line}: Unknown directive type \"{String.ofList name}\"."
  | directive name line fault =>
    s!"line {line}: Error in \"{String.ofList name}\" directive:\n" ++ fault.message ++ "."
  | unknownRole name line =>
    s!"line {line}: Unknown interpreted text role \"{String.ofList name}\"."
  | role name line fault =>
    s!"line {line}: Error in \"{String.ofList name}\" role:\n" ++ fault.message ++ "."
  | depthExceeded line maximum =>
    s!"line {line}: Maximum nesting depth ({maximum}) exceeded"

end ParseError

end StructuredText

import StructuredText.Settings.Basic
import StructuredText.Toml.Document

/-!
# Settings in a settings file

The settings are the table `extensions` of a settings file. A field that is absent has its default,
and unknown entries are skipped as long as their values can be stored. Instead of a table there may
be an array with the values of the fields in order.
-/

namespace StructuredText

namespace Toml

/-- The text that a value is. -/
def Value.text? : Value → Option Text
  | .string s => some s
  | _ => none

/-- The texts that a value lists. -/
def Value.texts? : Value → Option (List Text)
  | .array vs => vs.mapM Value.text?
  | _ => none

end Toml

namespace Extensions

open Toml

/-- The settings with these values of the fields. -/
def ofFields? (defaultDomain plugins : Option Value) : Option Extensions := do
  let domain ← match defaultDomain with
    | none => some ({} : Extensions).defaultDomain
    | some v => v.text?
  let plugins ← match plugins with
    | none => some none
    | some v => v.texts?.map some
  return ⟨domain, plugins⟩

/-- The settings that a value gives. A date is read as a table without known entries. -/
def ofValue? : Value → Option Extensions
  | .table es =>
    if Value.entriesStorable es then
      ofFields? (valueOf? "default_domain" es) (valueOf? "plugins" es)
    else none
  | .array vs => ofFields? vs[0]? vs[1]?
  | .dateTime _ => some {}
  | _ => none

/-- The settings that the entries of a settings file give. -/
def ofEntries? (es : List (Text × Value)) : Option Extensions :=
  let name : Text := "extensions"
  if Value.entriesStorable (es.filter fun e => e.1 ≠ name) then
    match valueOf? name es with
    | none => some {}
    | some v => ofValue? v
  else none

/-- The settings that a settings file gives. -/
def parse? (source : Text) : Option Extensions := (Toml.parse? source).bind ofEntries?

end Extensions

end StructuredText

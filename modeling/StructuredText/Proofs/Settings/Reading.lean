import StructuredText.Settings.Reading

/-!
# What a settings file sets

A settings file need not set every field. What it sets has the form of overrides, and the settings
that are read from it are these overrides applied to the defaults (`parse?_eq_some_iff`).
-/

namespace StructuredText

open Toml

/-- What a field sets, where `read` takes its value: nothing if the field is absent. -/
def fieldSet? {α : Type} (read : Value → Option α) : Option Value → Option (Option α)
  | none => some none
  | some v => (read v).map some

/-- What the value of the settings sets: a table has the fields by name, an array has them in order,
and a date has none. -/
inductive ValueSets : Value → Overrides → Prop where
  | table {es : List (Text × Value)} {file : Overrides} (hstorable : Value.entriesStorable es = true)
      (hdomain : fieldSet? Value.text? (valueOf? "default_domain" es) = some file.defaultDomain)
      (hplugins : fieldSet? Value.texts? (valueOf? "plugins" es) = some file.plugins) :
      ValueSets (.table es) file
  | array {vs : List Value} {file : Overrides}
      (hdomain : fieldSet? Value.text? vs[0]? = some file.defaultDomain)
      (hplugins : fieldSet? Value.texts? vs[1]? = some file.plugins) : ValueSets (.array vs) file
  | dateTime (written : Text) : ValueSets (.dateTime written) {}

/-- What a settings file with this text sets: nothing if it is not about the settings. -/
inductive FileSets (source : Text) : Overrides → Prop where
  | nothing {es : List (Text × Value)} (hparse : Toml.parse? source = some es)
      (hstorable : Value.entriesStorable (es.filter fun e => e.1 ≠ "extensions".toList) = true)
      (hvalue : valueOf? "extensions" es = none) : FileSets source {}
  | settings {es : List (Text × Value)} {v : Value} {file : Overrides}
      (hparse : Toml.parse? source = some es)
      (hstorable : Value.entriesStorable (es.filter fun e => e.1 ≠ "extensions".toList) = true)
      (hvalue : valueOf? "extensions" es = some v) (h : ValueSets v file) : FileSets source file

namespace Extensions

/-- A field is read as what it sets, or else as the default. -/
theorem ofFields?_eq (defaultDomain plugins : Option Value) :
    ofFields? defaultDomain plugins =
      (fieldSet? Value.text? defaultDomain).bind fun d =>
        (fieldSet? Value.texts? plugins).map fun ps => (⟨d, ps⟩ : Overrides).applyTo {} := by
  unfold ofFields?
  cases defaultDomain with
  | none =>
    cases plugins with
    | none => rfl
    | some w =>
      cases hw : w.texts? with
      | none => simp [fieldSet?, hw]
      | some ps => simp [fieldSet?, hw, Overrides.applyTo]
  | some v =>
    cases hv : v.text? with
    | none => simp [fieldSet?, hv]
    | some d =>
      cases plugins with
      | none => simp [fieldSet?, hv, Overrides.applyTo]
      | some w =>
        cases hw : w.texts? with
        | none => simp [fieldSet?, hv, hw]
        | some ps => simp [fieldSet?, hv, hw, Overrides.applyTo]

theorem ofFields?_eq_some_iff {defaultDomain plugins : Option Value} {c : Extensions} :
    ofFields? defaultDomain plugins = some c ↔
      ∃ file : Overrides, fieldSet? Value.text? defaultDomain = some file.defaultDomain ∧
        fieldSet? Value.texts? plugins = some file.plugins ∧ c = file.applyTo {} := by
  rw [ofFields?_eq, Option.bind_eq_some_iff]
  constructor
  · rintro ⟨d, hd, h⟩
    obtain ⟨ps, hps, rfl⟩ := Option.map_eq_some_iff.1 h
    exact ⟨⟨d, ps⟩, hd, hps, rfl⟩
  · rintro ⟨file, hd, hps, rfl⟩
    exact ⟨file.defaultDomain, hd, Option.map_eq_some_iff.2 ⟨file.plugins, hps, rfl⟩⟩

theorem ofValue?_eq_some_iff {v : Value} {c : Extensions} :
    ofValue? v = some c ↔ ∃ file : Overrides, ValueSets v file ∧ c = file.applyTo {} := by
  constructor
  · intro h
    unfold ofValue? at h
    split at h
    · next es =>
      split at h
      · next hstorable =>
        obtain ⟨file, hdomain, hplugins, rfl⟩ := ofFields?_eq_some_iff.1 h
        exact ⟨file, .table hstorable hdomain hplugins, rfl⟩
      · cases h
    · next vs =>
      obtain ⟨file, hdomain, hplugins, rfl⟩ := ofFields?_eq_some_iff.1 h
      exact ⟨file, .array hdomain hplugins, rfl⟩
    · cases h
      exact ⟨{}, .dateTime _, rfl⟩
    · cases h
  · rintro ⟨file, hsets, rfl⟩
    cases hsets with
    | table hstorable hdomain hplugins =>
      rw [ofValue?, if_pos hstorable]
      exact ofFields?_eq_some_iff.2 ⟨file, hdomain, hplugins, rfl⟩
    | array hdomain hplugins =>
      rw [ofValue?]
      exact ofFields?_eq_some_iff.2 ⟨file, hdomain, hplugins, rfl⟩
    | dateTime => rfl

/-- **The settings read from a file are the defaults with what the file sets in their place.** -/
theorem parse?_eq_some_iff {source : Text} {c : Extensions} :
    parse? source = some c ↔ ∃ file : Overrides, FileSets source file ∧ c = file.applyTo {} := by
  rw [parse?, Option.bind_eq_some_iff]
  constructor
  · rintro ⟨es, hparse, h⟩
    unfold ofEntries? at h
    dsimp only at h
    split at h
    · next hstorable =>
      split at h
      · next hvalue =>
        cases h
        exact ⟨{}, .nothing hparse hstorable hvalue, rfl⟩
      · next v hvalue =>
        obtain ⟨file, hsets, rfl⟩ := ofValue?_eq_some_iff.1 h
        exact ⟨file, .settings hparse hstorable hvalue hsets, rfl⟩
    · cases h
  · rintro ⟨file, hsets, rfl⟩
    cases hsets with
    | nothing hparse hstorable hvalue =>
      refine ⟨_, hparse, ?_⟩
      rw [ofEntries?, if_pos hstorable, hvalue]
      rfl
    | settings hparse hstorable hvalue hsets =>
      refine ⟨_, hparse, ?_⟩
      rw [ofEntries?, if_pos hstorable, hvalue]
      exact ofValue?_eq_some_iff.2 ⟨file, hsets, rfl⟩

end Extensions

end StructuredText

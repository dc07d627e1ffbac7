import StructuredText.Proofs.FileTree
import StructuredText.Proofs.Settings.Loading
import StructuredText.Proofs.Settings.Reading

/-!
# Settings without a given file

Without a path the settings come from the nearest settings file, if there is one. A field then has
the value that the overrides set, or else the one that the file sets, or else its default, and the
settings that result are valid (`load_discovered_eq_ok_iff`). Where the file is looked for is said
beside it: in the current directory and those around it, the deepest first.
-/

namespace StructuredText

/-- **Overrides of overrides are layers**: a field has the value of the first layer that sets it. -/
theorem Overrides.eq_applyTo_applyTo_iff {upper lower : Overrides} {e c : Extensions} :
    e = upper.applyTo (lower.applyTo c) ↔
      e.defaultDomain = (upper.defaultDomain.or lower.defaultDomain).getD c.defaultDomain ∧
        e.plugins = (upper.plugins.or lower.plugins).or c.plugins := by
  rw [Option.getD_or, Option.or_assoc]
  constructor
  · rintro rfl
    exact ⟨rfl, rfl⟩
  · rintro ⟨hdomain, hplugins⟩
    cases e
    cases hdomain
    cases hplugins
    rfl

namespace Settings

variable {tree : FileTree} {current place : Place} {fileName : Text}

/-- The settings file that is found from a directory, and what it sets: nothing if no file is
found. -/
inductive Discovers (tree : FileTree) (current : Place) (fileName : Text) :
    Option Place → Overrides → Prop where
  | nothing (h : tree.nearest? fileName current = none) : Discovers tree current fileName none {}
  | file {place : Place} {source : Text} {file : Overrides}
      (h : tree.nearest? fileName current = some place) (hread : tree.readText? place = some source)
      (hsets : FileSets source file) : Discovers tree current fileName (some place) file

/-- The settings that no one has changed are valid. -/
theorem isValid_default : Extensions.IsValid {} := Extensions.violation?_eq_none_iff.1 (by decide)

/-- What is read from a file is what the file makes of the defaults, if that is valid. -/
theorem readFile_eq_ok_iff_fileSets {e : Extensions} :
    readFile tree place = .ok e ↔ ∃ source, tree.readText? place = some source ∧
      ∃ file : Overrides, FileSets source file ∧ e = file.applyTo {} ∧ e.IsValid := by
  constructor
  · intro h
    cases hread : tree.readText? place with
    | none =>
      rw [readFile, hread] at h
      cases h
    | some source =>
      cases hparse : Extensions.parse? source with
      | none =>
        rw [readFile, hread] at h
        dsimp only at h
        rw [hparse] at h
        cases h
      | some c =>
        obtain ⟨hvalid, rfl⟩ := (readFile_eq_ok_iff hread hparse).1 h
        obtain ⟨file, hsets, hc⟩ := Extensions.parse?_eq_some_iff.1 hparse
        exact ⟨source, rfl, file, hsets, hc, hvalid⟩
  · rintro ⟨source, hread, file, hsets, rfl, hvalid⟩
    have hparse := Extensions.parse?_eq_some_iff.2 ⟨file, hsets, rfl⟩
    exact (readFile_eq_ok_iff hread hparse).2 ⟨hvalid, rfl⟩

/-- The settings before overrides: the defaults with what is discovered in their place. -/
theorem fromFile_discovered_eq_ok_iff {s : Settings} :
    fromFile tree current fileName none = .ok s ↔
      ∃ found file, Discovers tree current fileName found file ∧
        s = ⟨file.applyTo {}, found.map .discovered⟩ ∧ s.extensions.IsValid := by
  constructor
  · intro h
    rw [fromFile] at h
    split at h
    · next hnone =>
      cases h
      exact ⟨none, {}, .nothing hnone, rfl, isValid_default⟩
    · next place hplace =>
      obtain ⟨e, he, rfl⟩ := Except.map_eq_ok_iff.1 h
      obtain ⟨source, hread, file, hsets, rfl, hvalid⟩ := readFile_eq_ok_iff_fileSets.1 he
      exact ⟨some place, file, .file hplace hread hsets, rfl, hvalid⟩
  · rintro ⟨found, file, hfound, rfl, hvalid⟩
    rw [fromFile]
    cases hfound with
    | nothing hnone =>
      rw [hnone]
      rfl
    | file hplace hread hsets =>
      rw [hplace]
      exact Except.map_eq_ok_iff.2
        ⟨_, readFile_eq_ok_iff_fileSets.2 ⟨_, hread, _, hsets, rfl, hvalid⟩, rfl⟩

/-- Overrides of valid settings, which may set nothing or be absent. -/
theorem override_eq_ok_iff_applyTo {overrides : Option Overrides} {f s : Settings}
    (hvalid : f.extensions.IsValid) :
    override overrides f = .ok s ↔
      s.extensions = (overrides.getD {}).applyTo f.extensions ∧ s.extensions.IsValid ∧
        s.origin = f.origin := by
  cases overrides with
  | some o =>
    rw [override_eq_ok_iff, Overrides.replaces_iff, Option.getD_some]
    exact and_left_comm
  | none =>
    have hsame : (({} : Overrides).applyTo f.extensions) = f.extensions := rfl
    rw [Option.getD_none, hsame, override]
    constructor
    · intro h
      cases h
      exact ⟨rfl, hvalid, rfl⟩
    · rintro ⟨hextensions, -, horigin⟩
      cases s
      cases hextensions
      cases horigin
      rfl

/-- **Settings are found in the nearest file and merged in three layers.** The file stands in the
deepest directory from the current one upwards that has one, and there is none if no directory has
one. Loading succeeds if what is found can be read and is valid, and stays so; a field then has the
value of the overrides, or else that of the file, or else the default. -/
theorem load_discovered_eq_ok_iff (tree : FileTree) (current : Place) (fileName : Text) :
    (∀ place, tree.nearest? fileName current = some place ↔
      ∃ d, d <+: current ∧ place = d ++ [fileName] ∧ tree.isPresent (d ++ [fileName]) = true ∧
        ∀ d', d' <+: current → d.length < d'.length → tree.isPresent (d' ++ [fileName]) = false) ∧
    (tree.nearest? fileName current = none ↔
      ∀ d, d <+: current → tree.isPresent (d ++ [fileName]) = false) ∧
    ∀ (overrides : Option Overrides) (s : Settings),
      load tree current fileName none overrides = .ok s ↔
        ∃ found file, Discovers tree current fileName found file ∧
          (file.applyTo {}).IsValid ∧ s.extensions.IsValid ∧
          s.origin = found.map .discovered ∧
          s.extensions.defaultDomain =
            ((overrides.getD {}).defaultDomain.or file.defaultDomain).getD
              ({} : Extensions).defaultDomain ∧
          s.extensions.plugins =
            ((overrides.getD {}).plugins.or file.plugins).or ({} : Extensions).plugins := by
  refine ⟨fun place => FileTree.nearest?_eq_some_iff, FileTree.nearest?_eq_none_iff, ?_⟩
  intro overrides s
  rw [load_eq_ok_iff]
  constructor
  · rintro ⟨f, hf, hs⟩
    obtain ⟨found, file, hfound, rfl, hfile⟩ := fromFile_discovered_eq_ok_iff.1 hf
    obtain ⟨hextensions, hvalid, horigin⟩ := (override_eq_ok_iff_applyTo hfile).1 hs
    have hfields := Overrides.eq_applyTo_applyTo_iff.1 hextensions
    exact ⟨found, file, hfound, hfile, hvalid, horigin, hfields⟩
  · rintro ⟨found, file, hfound, hfile, hvalid, horigin, hfields⟩
    have hextensions := Overrides.eq_applyTo_applyTo_iff.2 hfields
    refine ⟨_, fromFile_discovered_eq_ok_iff.2 ⟨found, file, hfound, rfl, hfile⟩, ?_⟩
    exact (override_eq_ok_iff_applyTo hfile).2 ⟨hextensions, hvalid, horigin⟩

/-- Two files of the name, one in the root and one in a directory around the current one, which is
three names deep. -/
def nestedFiles : FileTree :=
  ⟨[(["rstfmt.toml"], .file "[extensions]\ndefault_domain = \"c\"\n".toUTF8),
    (["a", "rstfmt.toml"], .file "[extensions]\ndefault_domain = \"cpp\"\n".toUTF8),
    (["a", "b", "c", "main.rst"], .file "".toUTF8)]⟩

/-- The domain is that of the nearer file, the plugins are those of the overrides. -/
theorem load_discovered_eq_ok_iff_nested :
    load nestedFiles ["a", "b", "c"] "rstfmt.toml" none (some { plugins := some ["breathe"] }) =
      .ok ⟨⟨"cpp", some ["breathe"]⟩, some (.discovered ["a", "rstfmt.toml"])⟩ := by
  obtain ⟨hnearest, -, hload⟩ :=
    load_discovered_eq_ok_iff nestedFiles ["a", "b", "c"] "rstfmt.toml"
  have hplace : nestedFiles.nearest? "rstfmt.toml" ["a", "b", "c"] =
      some [("a" : Text), "rstfmt.toml"] := by
    refine (hnearest _).2 ⟨["a"], by decide, rfl, by decide, ?_⟩
    intro d hd hlt
    rw [← FileTree.mem_ancestors_iff] at hd
    revert d
    decide
  have hread : nestedFiles.readText? ["a", "rstfmt.toml"] =
      some "[extensions]\ndefault_domain = \"cpp\"\n".toList := readText?_of_entryAt? rfl
  have hparse : Extensions.parse? "[extensions]\ndefault_domain = \"cpp\"\n" =
      some ⟨"cpp", none⟩ := by decide +kernel
  obtain ⟨file, hsets, hfile⟩ := Extensions.parse?_eq_some_iff.1 hparse
  have hvalid : Extensions.IsValid ⟨"cpp", none⟩ := Extensions.violation?_eq_none_iff.1 (by decide)
  refine (hload _ _).2 ⟨_, file, .file hplace hread hsets, hfile ▸ hvalid, ?_, rfl, ?_, ?_⟩
  · exact Extensions.violation?_eq_none_iff.1 (by decide)
  · exact congrArg Extensions.defaultDomain hfile
  · rfl

end Settings

end StructuredText

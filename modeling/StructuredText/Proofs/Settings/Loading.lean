import StructuredText.Proofs.Except
import StructuredText.Proofs.Settings.Validity

/-!
# What loading settings gives

The settings of a file have to be valid by themselves before overrides take the place of some of
them, and again afterwards. So a file is loaded with overrides if both what it says and what becomes
of it are valid (`load_given_eq_ok_iff`); overrides do not make up for a file that is not
(`not_load_given_of_replaced`).
-/

namespace StructuredText

namespace Settings

variable {tree : FileTree} {current place : Place} {fileName path source : Text} {c : Extensions}

/-- A file is read if its settings are valid, and unchanged. -/
theorem readFile_eq_ok_iff (hread : tree.readText? place = some source)
    (hparse : Extensions.parse? source = some c) {e : Extensions} :
    readFile tree place = .ok e ↔ c.IsValid ∧ e = c := by
  rw [readFile, hread]
  dsimp only
  rw [hparse]
  exact Extensions.checked_eq_ok_iff

/-- The settings of the file at a given path. -/
theorem fromFile_eq_ok_iff (hplace : tree.resolve? current path = some place)
    (hread : tree.readText? place = some source) (hparse : Extensions.parse? source = some c)
    {s : Settings} :
    fromFile tree current fileName (some path) = .ok s ↔
      c.IsValid ∧ s = ⟨c, some (.given path)⟩ := by
  rw [fromFile, hplace]
  dsimp only
  rw [Except.map_eq_ok_iff]
  constructor
  · rintro ⟨e, he, rfl⟩
    obtain ⟨hvalid, rfl⟩ := (readFile_eq_ok_iff hread hparse).1 he
    exact ⟨hvalid, rfl⟩
  · rintro ⟨hvalid, rfl⟩
    exact ⟨c, (readFile_eq_ok_iff hread hparse).2 ⟨hvalid, rfl⟩, rfl⟩

/-- Overrides replace what they set, if that leaves the settings valid. -/
theorem override_eq_ok_iff {o : Overrides} {s s' : Settings} :
    override (some o) s = .ok s' ↔
      s'.extensions.IsValid ∧ o.Replaces s.extensions s'.extensions ∧ s'.origin = s.origin := by
  rw [override, Except.map_eq_ok_iff, Overrides.replaces_iff]
  constructor
  · rintro ⟨e, he, rfl⟩
    obtain ⟨hvalid, rfl⟩ := Extensions.checked_eq_ok_iff.1 he
    exact ⟨hvalid, rfl, rfl⟩
  · rintro ⟨hvalid, hextensions, horigin⟩
    rw [hextensions] at hvalid
    refine ⟨_, Extensions.checked_eq_ok_iff.2 ⟨hvalid, rfl⟩, ?_⟩
    rw [← hextensions, ← horigin]

theorem load_eq_ok_iff {path : Option Text} {o : Option Overrides} {s : Settings} :
    load tree current fileName path o = .ok s ↔
      ∃ f, fromFile tree current fileName path = .ok f ∧ override o f = .ok s :=
  Except.bind_eq_ok_iff

/-- **A file at a given path is loaded with overrides if it is valid and stays so.** The result is
what it says, with the fields that the overrides set replaced. -/
theorem load_given_eq_ok_iff (hplace : tree.resolve? current path = some place)
    (hread : tree.readText? place = some source) (hparse : Extensions.parse? source = some c)
    (o : Overrides) (s : Settings) :
    load tree current fileName (some path) (some o) = .ok s ↔
      c.IsValid ∧ s.extensions.IsValid ∧ o.Replaces c s.extensions ∧
        s.origin = some (.given path) := by
  rw [load_eq_ok_iff]
  constructor
  · rintro ⟨f, hf, hs⟩
    obtain ⟨hc, rfl⟩ := (fromFile_eq_ok_iff hplace hread hparse).1 hf
    exact ⟨hc, override_eq_ok_iff.1 hs⟩
  · rintro ⟨hc, hs⟩
    exact ⟨_, (fromFile_eq_ok_iff hplace hread hparse).2 ⟨hc, rfl⟩, override_eq_ok_iff.2 hs⟩

/-- A file that was written as text is read as that text. -/
theorem readText?_of_entryAt? {text : String}
    (h : tree.entryAt? place = some (.file text.toUTF8)) :
    tree.readText? place = some text.toList := by
  have hvalid : text.toUTF8.IsValidUTF8 := text.isValidUTF8
  rw [FileTree.readText?, h]
  dsimp only
  rw [String.fromUTF8?, dif_pos hvalid]
  rfl

/-- A tree with one file, which holds the text. -/
def treeOf (name : Text) (text : String) : FileTree := ⟨[([name], .file text.toUTF8)]⟩

theorem readText?_treeOf (name : Text) (text : String) :
    (treeOf name text).readText? [name] = some text.toList :=
  readText?_of_entryAt? (by simp [treeOf, FileTree.entryAt?])

/-- A file that sets both fields, loaded with another list of plugins. -/
theorem load_given_eq_ok_iff_replaced :
    ∃ tree source c, FileTree.resolve? tree [] "a.toml" = some [("a.toml" : Text)] ∧
      tree.readText? ["a.toml"] = some source ∧ Extensions.parse? source = some c ∧
      c = ⟨"cpp", some ["breathe"]⟩ ∧
      load tree [] "rstfmt.toml" (some "a.toml") (some { plugins := some ["a", "breathe"] }) =
        .ok ⟨⟨"cpp", some ["a", "breathe"]⟩, some (.given "a.toml")⟩ := by
  have hplace : (treeOf "a.toml"
      "[extensions]\ndefault_domain = \"cpp\"\nplugins = [\"breathe\"]\n").resolve? [] "a.toml" =
        some [("a.toml" : Text)] := by decide
  have hparse : Extensions.parse?
      "[extensions]\ndefault_domain = \"cpp\"\nplugins = [\"breathe\"]\n" =
        some ⟨"cpp", some ["breathe"]⟩ := by decide +kernel
  have hfile : Extensions.IsValid ⟨"cpp", some ["breathe"]⟩ :=
    Extensions.violation?_eq_none_iff.1 (by decide)
  have hvalid : Extensions.IsValid ⟨"cpp", some ["a", "breathe"]⟩ :=
    Extensions.violation?_eq_none_iff.1 (by decide)
  refine ⟨_, _, _, hplace, readText?_treeOf _ _, hparse, rfl, ?_⟩
  exact (load_given_eq_ok_iff hplace (readText?_treeOf _ _) hparse _ _).2
    ⟨hfile, hvalid, Overrides.replaces_iff.2 rfl, rfl⟩

/-- **Overrides do not make up for a file that is not valid.** The default domain of the file is
blank, and the overrides name another one. -/
theorem not_load_given_of_replaced :
    ¬∀ (tree : FileTree) (current place : Place) (fileName path source : Text) (c : Extensions),
      tree.resolve? current path = some place → tree.readText? place = some source →
        Extensions.parse? source = some c → ∀ (o : Overrides) (s : Settings),
          load tree current fileName (some path) (some o) = .ok s ↔
            s.extensions.IsValid ∧ o.Replaces c s.extensions ∧ s.origin = some (.given path) := by
  intro h
  have hplace : (treeOf "a.toml" "[extensions]\ndefault_domain = \"\"\n").resolve? [] "a.toml" =
      some [("a.toml" : Text)] := by decide
  have hparse : Extensions.parse? "[extensions]\ndefault_domain = \"\"\n" = some ⟨[], none⟩ := by
    decide +kernel
  have hvalid : Extensions.IsValid ⟨"py", none⟩ := Extensions.violation?_eq_none_iff.1 (by decide)
  have hload := (h _ [] _ "rstfmt.toml" _ _ _ hplace (readText?_treeOf _ _) hparse
    { defaultDomain := some "py" } ⟨⟨"py", none⟩, some (.given "a.toml")⟩).2
      ⟨hvalid, Overrides.replaces_iff.2 rfl, rfl⟩
  obtain ⟨f, hfile, -⟩ := load_eq_ok_iff.1 hload
  obtain ⟨hblank, -⟩ := (fromFile_eq_ok_iff hplace (readText?_treeOf _ _) hparse).1 hfile
  obtain ⟨c, hc, -⟩ := hblank.domain_filled
  cases hc

end Settings

end StructuredText

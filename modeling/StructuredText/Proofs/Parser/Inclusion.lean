import StructuredText.Proofs.Invocation.Arguments
import StructuredText.Proofs.Parser.Termination

/-!
# Files that include one another

A file may include itself, or another one that includes it in turn. A parse comes to an end all the
same, and where each of some files begins with the inclusion of one of them, it ends with the error
that the limit on nesting is exceeded, whatever the limit is (`terminates_and_catches_inclusion`).

Structure: on each level the first thing that a file comes to is the inclusion of the next one, so
that an error in the lines of that one is its own (`blocks_includeLine`). From the level beyond the
limit the error is passed on through all levels (`blocks_of_includeEachOther`).
-/

namespace StructuredText

open Text (IsWord isBlank indentation normalLines ofLines)

/-- The directive of the grammar that includes a file. -/
def inclusion : Directive :=
  .element "include" { Shape.oneLine with options := .declared includeOptions } .included

/-- The line that includes a file. -/
def includeLine (file : Text) : Text := (".. include:: " : Text) ++ file

/-! ## Reading the line -/

theorem directiveMarker?_includeLine {file : Text} (h : IsWord file) :
    directiveMarker? (includeLine file) = some ("include".toList, file) := by
  have hshort : directiveMarker? (".. include::" : Text) = some ("include".toList, []) := by decide
  have hname := (of_directiveMarker? hshort).1
  have hhead : file.head? ≠ some ' ' := by
    obtain ⟨c, t, rfl, hc⟩ := h.beginsWord
    intro heq
    cases heq
    cases hc
  have hmarker := directiveMarker?_marker hname hhead
  rwa [if_neg h.ne_nil] at hmarker

theorem isLine_includeLine {file : Text} (h : IsWord file) : Text.IsLine (includeLine file) :=
  Text.IsLine.append (by decide) h.isLine h.ne_nil

/-- A word that does not look like a field is the one argument of an inclusion. -/
theorem divide_inclusion {file : Text} (h : IsWord file) (hfield : isField file = false)
    (offset : Nat) : ∃ parts, inclusion.shape.divide [file] offset = .ok parts ∧
      parts.arguments = [file] := by
  have hwords : Text.words file = [file] := Text.words_of_isWord h
  have hblank : isBlank file = false := by
    rw [← Bool.not_eq_true, ← Text.words_eq_nil_iff, hwords]
    exact List.cons_ne_nil _ _
  have hbody : (Shape.blockBody [file] offset).1 = [file] := by
    rw [Shape.blockBody, Text.dropTrailingBlanks_cons hblank]
    simp [Text.dropTrailingBlanks, hblank]
  have hbefore : Shape.beforeFields [file] = [file] := by simp [Shape.beforeFields, hblank, hfield]
  have hfields : Shape.fromFields [file] = [] := by simp [Shape.fromFields, hblank, hfield]
  have hafter : Shape.afterParagraph [file] = [] := by simp [Shape.afterParagraph, hblank]
  have harguments : inclusion.shape.argumentsIn [file] = .ok [file] :=
    Shape.readArguments_of_words hwords (Nat.le_refl 1) (Nat.le_refl 1)
  rw [Shape.divide_of_acceptsOptions rfl]
  dsimp only
  rw [hbody, hbefore, hfields, hafter, harguments, readFields]
  exact ⟨_, rfl, rfl⟩

namespace Parser

/-! ## One level -/

variable {p : Parser}

/-- What is wrong with the lines of a file is wrong with the lines that include it first. -/
theorem blocks_includeLine {nested : Nested} {file text : Text} {rest : List Text} {offset : Nat}
    {e : ParseError} (hknown : p.registry.directive? "include" = some inclusion) (h : IsWord file)
    (hfield : isField file = false)
    (hfile : p.config.fileText (joinPath p.config.baseDir file) = .ok text)
    (hrest : ∀ l, rest.find? (fun l => !isBlank l) = some l → indentation l = 0)
    (hnested : nested (normalLines text) 0 = .error e) :
    p.blocks nested (includeLine file :: rest) offset = .error e := by
  have hmarker := directiveMarker?_includeLine h
  obtain ⟨parts, hdivide, harguments⟩ := divide_inclusion h hfield offset
  have hhands : p.Hands [includeLine file] offset inclusion
      (keptInvocation "include" (ofLines [includeLine file]) offset parts) :=
    .intro hmarker hknown (invocation_eq_ok_iff.2 ⟨parts, hdivide, rfl⟩)
  have hrun : inclusion.run (keptInvocation "include" (ofLines [includeLine file]) offset parts)
      (p.context nested (offset + 1)) = .error (.nested e) := by
    have hincluded : parseIncluded
        (keptInvocation "include" (ofLines [includeLine file]) offset parts)
        (p.context nested (offset + 1)) = .error (.nested e) := by
      simp only [parseIncluded, keptInvocation, harguments, context, Context.resolvePath, hfile,
        hnested, Except.mapError_error]
    simp only [inclusion, Directive.run, hincluded]
    rfl
  obtain ⟨index, hchunks⟩ := exists_chunks_eq_cons (isExplicit_of_directiveMarker? hmarker) rest
  rw [blockLines_of_stop hrest] at hchunks
  rw [blocks_eq, hchunks, List.mapM_cons, chunkBlocks_explicit rfl, Nat.add_zero,
    hhands.explicitBlocks_eq, hrun]
  rfl

/-! ## All levels -/

/-- Whether each of some files begins with the inclusion of one of them, without anything that
belongs to it below. The files are named by words that do not look like fields. -/
structure IncludeEachOther (config : ParserConfig) (files : Set Text) : Prop where
  word : ∀ file ∈ files, IsWord file
  noField : ∀ file ∈ files, isField file = false
  includes : ∀ file ∈ files, ∃ text, config.fileText (joinPath config.baseDir file) = .ok text ∧
    ∃ next ∈ files, ∃ rest, normalLines text = includeLine next :: rest ∧
      ∀ l, rest.find? (fun l => !isBlank l) = some l → indentation l = 0

variable {config : ParserConfig} {files : Set Text}

theorem blocks_of_includeEachOther {r : Registry} (hknown : r.directive? "include" = some inclusion)
    (h : IncludeEachOther config files) (levels : Nat) {file : Text} (hfile : file ∈ files)
    {rest : List Text} (hrest : ∀ l, rest.find? (fun l => !isBlank l) = some l → indentation l = 0)
    (offset : Nat) :
    blocks ⟨r, config⟩ (nestedWithin ⟨r, config⟩ levels) (includeLine file :: rest) offset =
      .error (.depthExceeded 1 config.maxDepth) := by
  induction levels generalizing file rest offset with
  | zero =>
    obtain ⟨text, htext, -⟩ := h.includes file hfile
    exact blocks_includeLine hknown (h.word file hfile) (h.noField file hfile) htext hrest rfl
  | succ levels ih =>
    obtain ⟨text, htext, next, hnext, rest', hlines, hrest'⟩ := h.includes file hfile
    refine blocks_includeLine hknown (h.word file hfile) (h.noField file hfile) htext hrest ?_
    rw [nestedWithin, blocksWithin_eq, hlines]
    exact ih hnext hrest' 0

theorem directive?_include : Registry.withBaseGrammar.directive? "include" = some inclusion := rfl

theorem parse_includeLine (h : IncludeEachOther config files) {file : Text} (hfile : file ∈ files) :
    parse ⟨.withBaseGrammar, config⟩ (includeLine file) =
      .error (.depthExceeded 1 config.maxDepth) := by
  have hline := isLine_includeLine (h.word file hfile)
  have hne : includeLine file ≠ [] := List.cons_ne_nil _ _
  have hlast : [includeLine file].getLast? ≠ some [] := fun heq => hne (Option.some.inj heq)
  have hlines := Text.normalLines_ofLines (List.forall_mem_singleton.2 hline) hlast
  have hone : ofLines [includeLine file] = includeLine file := rfl
  rw [hone] at hlines
  rw [parse_eq_error_iff, hlines]
  exact blocks_of_includeEachOther directive?_include h _ hfile (fun l hl => by cases hl) 0

/-- **A parse comes to an end, and files that include one another are caught**, whatever the limit on
nesting is and whatever the files hold: with the library's own directives nothing descends without
end, and under the grammar an inclusion of files that each begin with the inclusion of one of them
exceeds the limit. -/
theorem terminates_and_catches_inclusion (config : ParserConfig) :
    (∀ r : Registry, r.NativeDirectives → Terminates ⟨r, config⟩) ∧
      ∀ files : Set Text, IncludeEachOther config files → ∀ file ∈ files,
        parse ⟨.withBaseGrammar, config⟩ (includeLine file) =
          .error (.depthExceeded 1 config.maxDepth) := by
  constructor
  · intro r hr
    exact terminates hr
  · intro files h file hfile
    exact parse_includeLine h hfile

/-- Two files that include each other, one of which goes on behind a blank line. -/
def pairConfig : ParserConfig where
  fileText path :=
    if path = "./a" then .ok ".. include:: b"
    else if path = "./b" then .ok ".. include:: a\n\nText"
    else .error []
  maxDepth := 3

theorem includeEachOther_pairConfig : IncludeEachOther pairConfig {"a".toList, "b".toList} where
  word := by
    rintro file (rfl | rfl)
    · exact Text.isWord_of_all (by decide) (by decide)
    · exact Text.isWord_of_all (by decide) (by decide)
  noField := by
    rintro file (rfl | rfl)
    · decide
    · decide
  includes := by
    rintro file (rfl | rfl)
    · exact ⟨".. include:: b", rfl, "b".toList, Or.inr rfl, [], by decide, fun l hl => by cases hl⟩
    · refine ⟨".. include:: a\n\nText", rfl, "a".toList, Or.inl rfl, ["", "Text"], by decide,
        fun l hl => ?_⟩
      cases hl
      rfl

theorem catches_inclusion_pairConfig :
    Registry.withBaseGrammar.NativeDirectives ∧
      IncludeEachOther pairConfig {"a".toList, "b".toList} ∧
      Terminates ⟨.withBaseGrammar, pairConfig⟩ ∧
      parse ⟨.withBaseGrammar, pairConfig⟩ ".. include:: a" = .error (.depthExceeded 1 3) := by
  have hr := Registry.nativeDirectives_withBaseGrammar
  obtain ⟨hterminates, hcatches⟩ := terminates_and_catches_inclusion pairConfig
  exact ⟨hr, includeEachOther_pairConfig, hterminates _ hr,
    hcatches _ includeEachOther_pairConfig "a" (Or.inl rfl)⟩

end Parser

end StructuredText

import Mathlib.Data.List.Permutation
import StructuredText.Proofs.Passthrough.Roles

/-!
# Parsing without side inputs

Where every directive is kept, nothing of what a parser knows besides its registry enters the result
but the limit on nesting: not the directory, not the path, and not the files. Two parsers with the
same registry and the same limit give the same document or the same error (`parse_congr`).

The error then says something about the document alone. A directive fails because its block is laid
out wrongly (`BlockError.OfLayout`), with one of a few wordings, and a role only if it is the one that
has no format of its own.
-/

namespace StructuredText

namespace Parser

/-! ## Two parsers with one registry -/

section Congr

variable {r : Registry} {config config' : ParserConfig}

theorem directiveBlocks_congr (hr : r.KeepsDirectives) (nested : Nested) (name : Text)
    (lines : List Text) (text : Text) (index : Nat) :
    directiveBlocks ⟨r, config⟩ nested name lines text index =
      directiveBlocks ⟨r, config'⟩ nested name lines text index := by
  cases hd : r.directive? name with
  | none => rw [directiveBlocks_unknown hd, directiveBlocks_unknown hd]
  | some d =>
    obtain ⟨shape, raw, rfl⟩ := hr name d hd
    rw [directiveBlocks_kept hd, directiveBlocks_kept hd]

theorem explicitBlocks_congr (hr : r.KeepsDirectives) (nested : Nested) (index : Nat)
    (lines : List Text) : explicitBlocks ⟨r, config⟩ nested index lines =
      explicitBlocks ⟨r, config'⟩ nested index lines := by
  cases hm : directiveMarker? (lines.headD []) with
  | none => rw [explicitBlocks_comment hm, explicitBlocks_comment hm]
  | some marker =>
    rw [explicitBlocks_directive hm, explicitBlocks_directive hm, directiveBlocks_congr hr]

/-- One level: the same lines give the same, if nested content does. -/
theorem blocks_congr (hr : r.KeepsDirectives) (nested : Nested) (lines : List Text) (offset : Nat) :
    blocks ⟨r, config⟩ nested lines offset = blocks ⟨r, config'⟩ nested lines offset := by
  induction lines, offset using quote_induction with
  | step lines offset ih =>
    have hchunk : ∀ c ∈ chunks lines,
        chunkBlocks ⟨r, config⟩ nested (blocks ⟨r, config⟩ nested) offset c =
          chunkBlocks ⟨r, config'⟩ nested (blocks ⟨r, config'⟩ nested) offset c := by
      intro c hc
      cases hk : c.kind with
      | quote => rw [chunkBlocks_quote hk, chunkBlocks_quote hk, ih c hc hk]
      | explicit => rw [chunkBlocks_explicit hk, chunkBlocks_explicit hk, explicitBlocks_congr hr]
      | paragraph =>
        rw [chunkBlocks_paragraph hk, chunkBlocks_paragraph hk]
        rfl
      | literal => rw [chunkBlocks_literal hk, chunkBlocks_literal hk]
    rw [blocks_eq, blocks_eq, Except.mapM_congr hchunk]

/-- All levels: what stands where no level is left is an error that names the limit. -/
theorem nestedWithin_congr (hr : r.KeepsDirectives) (hdepth : config.maxDepth = config'.maxDepth)
    (levels : Nat) : nestedWithin ⟨r, config⟩ levels = nestedWithin ⟨r, config'⟩ levels := by
  induction levels with
  | zero =>
    funext lines offset
    rw [nestedWithin, nestedWithin, hdepth]
  | succ levels ih =>
    funext lines offset
    rw [nestedWithin, nestedWithin, blocksWithin_eq, blocksWithin_eq, ih]
    exact blocks_congr hr _ lines offset

/-- **Two parsers with the same registry and the same limit agree on every source.** -/
theorem parse_congr (hr : r.KeepsDirectives) (hdepth : config.maxDepth = config'.maxDepth)
    (source : Text) : parse ⟨r, config⟩ source = parse ⟨r, config'⟩ source := by
  have hlevels : nestedWithin ⟨r, config⟩ config.maxDepth =
      nestedWithin ⟨r, config'⟩ config'.maxDepth := by
    rw [hdepth]
    exact nestedWithin_congr hr hdepth _
  rw [parse, parse, blocksWithin_eq, blocksWithin_eq]
  dsimp only
  rw [hlevels, blocks_congr hr]

end Congr

end Parser

/-! ## What an error can be -/

/-- The wordings of what can be wrong with the layout of a block. -/
inductive LayoutWording : String → Prop where
  | tooFewArguments (required supplied : Nat) :
      LayoutWording s!"{required} argument(s) required, {supplied} supplied"
  | tooManyArguments (maximum supplied : Nat) :
      LayoutWording s!"maximum {maximum} argument(s) allowed, {supplied} supplied"
  | notAField : LayoutWording "invalid option block"
  | duplicateOption (name : Text) :
      LayoutWording ("invalid option data: " ++ s!"duplicate option \"{String.ofList name}\"")
  | contentNotPermitted : LayoutWording "no content permitted"

theorem BlockError.OfLayout.wording {cause : BlockError} (h : cause.OfLayout) :
    LayoutWording cause.message := by
  cases h with
  | tooFewArguments required supplied => exact .tooFewArguments required supplied
  | tooManyArguments maximum supplied => exact .tooManyArguments maximum supplied
  | notAField => exact .notAField
  | duplicateOption name => exact .duplicateOption name
  | contentNotPermitted => exact .contentNotPermitted

namespace Parser

variable {p : Parser} {levels : Nat} {lines : List Text} {offset : Nat} {name : Text} {line : Nat}

/-- A directive fails by itself because its block is laid out wrongly. -/
theorem Fails.ofLayout {fault : DirectiveFault}
    (h : p.Fails levels lines offset (.directive name line fault)) :
    ∃ cause : BlockError, fault = .block cause ∧ cause.OfLayout := by
  cases h with
  | block hc hk hmarker hknown hdivide => exact ⟨_, rfl, Shape.ofLayout_of_divide hdivide⟩
  | inline hc hk h => cases ofRole_of_inlineNodes h

/-- A role fails by refusing its text. -/
theorem Fails.refused {fault : RoleFault} (h : p.Fails levels lines offset (.role name line fault)) :
    ∃ role i, p.registry.role? name = some role ∧ role.run i = .error fault := by
  cases h with
  | inline hc hk h =>
    cases ofRole_of_inlineNodes h with
    | refused hrole hrun => exact ⟨_, _, hrole, hrun⟩

/-- The error of a parse is one that some lines fail with by themselves. -/
theorem exists_fails_of_parse (hkept : p.registry.KeepsDirectives) {source : Text} {e : ParseError}
    (h : p.parse source = .error e) : ∃ levels lines offset, p.Fails levels lines offset e := by
  obtain ⟨-, lines, offset, levels, -, -, hfails⟩ :=
    exists_enters_of_error hkept .document (parse_eq_error_iff.1 h)
  exact ⟨levels, lines, offset, hfails⟩

end Parser

namespace Passthrough

variable {e : Extensions} {r : Registry}

/-- The only role of the registry that fails is the one without a format of its own. -/
theorem eq_raw_of_run_eq_error (hr : registry e = .ok r) {name : Text} {role : Role}
    (hrole : r.role? name = some role) {i : Interpreted} {fault : RoleFault}
    (hrun : role.run i = .error fault) : role = .raw := by
  rcases isTotal_or_raw hr hrole with htotal | hraw
  · obtain ⟨nodes, hnodes⟩ := Role.exists_run_eq_ok htotal i
    rw [hnodes] at hrun
    cases hrun
  · exact hraw

/-- **Parsing has no side inputs and few errors.** Where everything is kept, the result depends on the
registry, the source and the limit alone; a directive fails for the layout of its block, and a role
only if its name stands for the role `raw` of a documentation generator. -/
theorem parse_confined (hr : registry e = .ok r) {config config' : ParserConfig}
    (hdepth : config.maxDepth = config'.maxDepth) (source : Text) :
    Parser.parse ⟨r, config⟩ source = Parser.parse ⟨r, config'⟩ source ∧
      (∀ name line fault, Parser.parse ⟨r, config⟩ source = .error (.directive name line fault) →
        (∃ cause : BlockError, fault = .block cause ∧ cause.OfLayout) ∧
          LayoutWording fault.message) ∧
      ∀ name line fault, Parser.parse ⟨r, config⟩ source = .error (.role name line fault) →
        ∃ role, Registry.documentation.role? "raw" = some role ∧ r.role? name = some role := by
  have hkept := registry_keepsDirectives hr
  refine ⟨Parser.parse_congr hkept hdepth source, fun name line fault h => ?_,
    fun name line fault h => ?_⟩
  · obtain ⟨levels, lines, offset, hfails⟩ := Parser.exists_fails_of_parse hkept h
    obtain ⟨cause, rfl, hcause⟩ := hfails.ofLayout
    exact ⟨⟨cause, rfl, hcause⟩, hcause.wording⟩
  · obtain ⟨levels, lines, offset, hfails⟩ := Parser.exists_fails_of_parse hkept h
    obtain ⟨role, i, hrole, hrun⟩ := hfails.refused
    obtain rfl := eq_raw_of_run_eq_error hr hrole hrun
    exact ⟨.raw, Registry.role?_documentation_raw, hrole⟩

/-- No role is registered under this name, so that the one of the grammar is found. -/
theorem role?_registry_raw (hr : registry {} = .ok r) : r.role? "raw" = some .raw := by
  obtain ⟨s, hregister⟩ := registry_eq_ok_iff.1 hr
  obtain ⟨-, hbase, -⟩ := register_same hregister
  obtain ⟨selection, roles, hselection, rfl, rfl⟩ := register_eq_ok hregister
  rw [selectPlugins_default, Except.ok.injEq] at hselection
  subst hselection
  have hnone : (Registry.documentation.registerRoles
      (roleList (Registry.documentation.domains.catalog "py") knownPlugins)).roles.find? "raw" =
        none := by
    have hnot : "raw".toList ∉ ((roleList (documentationDomains.catalog "py") knownPlugins).map
        fun f => (lowercase f.1, f.2)).map Prod.fst := by
      decide +kernel
    obtain ⟨-, -, hroles, hdomains⟩ := Registry.documentation_same
    rw [Registry.roles_registerRoles, hroles, hdomains, ← Option.not_isSome_iff_eq_none,
      NameTable.isSome_find?_insertAll]
    rintro (h | h)
    · exact hnot h
    · cases h
  have hdirectives := Registry.registerDirectives_same
    (Registry.documentation.registerRoles
      (roleList (Registry.documentation.domains.catalog "py") knownPlugins))
    (directiveList (Registry.documentation.domains.catalog "py")
      Registry.documentation.baseDirectives knownPlugins)
  rw [← hdirectives.2.2.1] at hnone
  refine Registry.lookUp_eq_some_iff.2 (.grammar hnone hnone ?_)
  rw [hbase, Registry.documentation_same.2.1]
  rfl

/-- Surroundings in which no file can be read. -/
def fileless : ParserConfig := { fileText := fun _ => .error "gone" }

/-- Surroundings in which every path can be read. -/
def fileful : ParserConfig := { baseDir := "/b", sourcePath := some "c", fileText := .ok }

/-- A file that is not read, a directive without its argument, and a role that refuses. -/
theorem parse_confined_include :
    ∃ r, registry {} = .ok r ∧ fileless.maxDepth = fileful.maxDepth ∧
      Parser.parse ⟨r, fileless⟩ ".. include:: a.txt" =
        Parser.parse ⟨r, fileful⟩ ".. include:: a.txt" ∧
      (Parser.parse ⟨r, fileless⟩ ".. only::" =
          .error (.directive "only" 1 (.block (.tooFewArguments 1 0))) ∧
        LayoutWording (DirectiveFault.block (.tooFewArguments 1 0)).message) ∧
      Parser.parse ⟨r, fileless⟩ ":raw:`x`" = .error (.role "raw" 1 (.formatless "raw")) ∧
        ∃ role, Registry.documentation.role? "raw" = some role ∧ r.role? "raw" = some role := by
  obtain ⟨r, hr⟩ := exists_registry_default
  have hdepth : fileless.maxDepth = fileful.maxDepth := rfl
  have honly : Parser.parse ⟨r, fileless⟩ ".. only::" =
      .error (.directive "only" 1 (.block (.tooFewArguments 1 0))) := by
    have hlines : Text.normalLines ".. only::" = [".. only::".toList] := by decide
    have hmarker : directiveMarker? (".. only::" : Text) = some ("only".toList, []) := by decide
    have hdivide : Directive.only.shape.withAnyOption.divide [[]] 0 =
        .error (.tooFewArguments 1 0) := by cbv
    rw [Parser.parse_of_marker hlines hmarker (by decide) (by decide),
      Parser.directiveBlocks_kept (directive?_only hr)]
    have hbelow : [] :: Text.dropMargin [] = [[]] := rfl
    rw [hbelow, hdivide]
    rfl
  have hrole : Parser.parse ⟨r, fileless⟩ ":raw:`x`" =
      .error (.role "raw" 1 (.formatless "raw")) := by
    have hchunks : chunks (Text.normalLines ":raw:`x`") = [⟨.paragraph, 0, [":raw:`x`"]⟩] := by cbv
    have hsegments : segments (Text.escape ":raw:`x`") =
        [.interpreted (.before "raw") "x"] := by cbv
    have hannounce : literalAnnouncement (Text.ofLines [":raw:`x`"]) =
        (":raw:`x`".toList, false) := by decide
    rw [Parser.parse_eq_error_iff, Parser.blocks_of_chunk hchunks,
      Parser.chunkBlocks_paragraph rfl, Parser.paragraphBlocks]
    dsimp only
    rw [hannounce, if_neg (by decide), inlineNodes, hsegments, assembleFrom, Segment.assemble,
      interpret]
    dsimp only [RolePlace.name]
    rw [role?_registry_raw hr]
    rfl
  obtain ⟨-, hdirectives, -⟩ := parse_confined hr hdepth ".. only::"
  exact ⟨r, hr, hdepth, (parse_confined hr hdepth _).1, ⟨honly, (hdirectives _ _ _ honly).2⟩, hrole,
    (parse_confined hr hdepth _).2.2 _ _ _ hrole⟩

end Passthrough

end StructuredText

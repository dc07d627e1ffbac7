import StructuredText.Proofs.Invocation.Rendering
import StructuredText.Proofs.Parser.Reading
import StructuredText.Proofs.Parser.Shift
import StructuredText.Proofs.Passthrough.Interception

/-!
# Writing out what was kept

A node that keeps its invocation can be written out and parsed again. Where every directive is kept
and every role is the library's own, the second parse finds the invocation that was written exactly
if its parts are stable (`exists_parse_render_iff_stable`). The parts of a parsed document need not
be: a block may have been read out of a margin that the written form does not give back.

Structure: an invocation that was read fits the shape of its directive (`Reads.fits`), so its written
form is one block that is divided like any other (`parse_render_eq_ok_iff`). What is nested in a node
is parsed again from another line, which changes nothing but line numbers.
-/

namespace StructuredText

namespace Parser

variable {p : Parser} {shape : Shape} {raw : Bool} {inv : Invocation}

/-- The name of an invocation that was read is that of its directive, whose shape its parts fit. -/
theorem Reads.fits {lines : List Text} {index : Nat} (h : p.Reads lines index shape raw inv)
    (hlines : ∀ l ∈ lines, Text.IsLine l) :
    IsDirectiveName inv.name ∧ p.registry.directive? inv.name = some (.passthrough shape raw) ∧
      shape.Fits inv.arguments inv.options inv.content := by
  cases h with
  | intro hmarker hknown hdivide =>
    obtain ⟨before, fields, tail, start, hd⟩ := Shape.divide_withAnyOption_eq_ok_iff.1 hdivide
    exact ⟨(of_directiveMarker? hmarker).1, hknown, (hd.fits (isLine_block hlines hmarker)).1⟩

/-- What parsing a written form gives. -/
theorem parse_render_eq_ok_iff (hname : IsDirectiveName inv.name)
    (hknown : p.registry.directive? inv.name = some (.passthrough shape raw))
    (hfits : shape.Fits inv.arguments inv.options inv.content) {d : Document} :
    p.parse inv.render = .ok d ↔
      ∃ parts children, shape.withAnyOption.divide
          (writtenBlock inv.arguments inv.options inv.content) 0 = .ok parts ∧
        (if raw then .ok [] else
          p.nestedWithin p.config.maxDepth parts.content parts.contentOffset) = .ok children ∧
        d.children = [.directive (keptInvocation inv.name inv.render 0 parts) raw children] := by
  rw [Invocation.parse_render p hname hfits, Except.map_eq_ok_iff]
  constructor
  · rintro ⟨bs, hbs, rfl⟩
    exact (directiveBlocks_kept_eq_ok_iff hknown).1 hbs
  · intro h
    exact ⟨d.children, (directiveBlocks_kept_eq_ok_iff hknown).2 h, rfl⟩

section Stable

variable (hname : IsDirectiveName inv.name)
  (hknown : p.registry.directive? inv.name = some (.passthrough shape raw))
  (hfits : shape.Fits inv.arguments inv.options inv.content)

include hname hknown hfits

/-- An invocation that is found again has stable parts. -/
theorem stable_of_parse_render {d : Document} (hd : p.parse inv.render = .ok d)
    {inv' : Invocation} {raw' : Bool} {children : List Block}
    (hhead : d.blocks.head? = some (.directive inv' raw' children))
    (harguments : inv'.arguments = inv.arguments) (hoptions : inv'.options = inv.options)
    (hcontent : inv'.content = inv.content) :
    Stable inv.arguments inv.options inv.content := by
  obtain ⟨parts, kids, hdivide, -, hchildren⟩ := (parse_render_eq_ok_iff hname hknown hfits).1 hd
  rw [Document.blocks, hchildren, Block.visit_cons, List.head?_cons, Option.some.injEq,
    Block.directive.injEq] at hhead
  obtain ⟨rfl, -, -⟩ := hhead
  have hparts : parts = ⟨inv.arguments, inv.options, inv.content, parts.contentOffset⟩ := by
    rw [← harguments, ← hoptions, ← hcontent]
    rfl
  rw [hparts] at hdivide
  exact (divide_written_iff hfits 0).1 ⟨_, hdivide⟩

/-- An invocation with stable parts is found again, if its content can be parsed there. -/
theorem parse_render_of_stable (hstable : Stable inv.arguments inv.options inv.content) :
    ∃ k, ∀ kids, (if raw then .ok [] else
        p.nestedWithin p.config.maxDepth inv.content k) = .ok kids →
      p.parse inv.render = .ok ⟨[.directive (keptInvocation inv.name inv.render 0
        ⟨inv.arguments, inv.options, inv.content, k⟩) raw kids]⟩ := by
  obtain ⟨k, hdivide⟩ := (divide_written_iff hfits 0).2 hstable
  exact ⟨k, fun kids hkids =>
    (parse_render_eq_ok_iff hname hknown hfits).2 ⟨_, kids, hdivide, hkids, rfl⟩⟩

end Stable

end Parser

namespace Passthrough

/-- **A kept invocation survives being written and parsed, exactly if its parts are stable.** -/
theorem exists_parse_render_iff_stable {e : Extensions} {r : Registry} (hr : registry e = .ok r)
    {config : ParserConfig} {source : Text} {d : Document}
    (hd : Parser.parse ⟨r, config⟩ source = .ok d) {inv : Invocation} {raw : Bool}
    {children : List Block} (hb : Block.directive inv raw children ∈ d.blocks) :
    (∃ d' inv' children', Parser.parse ⟨r, config⟩ inv.render = .ok d' ∧
      d'.blocks.head? = some (.directive inv' raw children') ∧ inv'.name = inv.name ∧
      inv'.arguments = inv.arguments ∧ inv'.options = inv.options ∧
      inv'.content = inv.content) ↔
    Stable inv.arguments inv.options inv.content := by
  have hkept : r.KeepsDirectives := registry_keepsDirectives hr
  have hroles := nativeRoles_registry hr
  -- The invocation was read from lines of the source, at the outermost level.
  obtain ⟨lines, offset, n, henters, hlevels, hgives⟩ :=
    Parser.exists_enters_of_occurs hkept .document (Parser.parse_eq_ok_iff.1 hd)
      (Block.occurs_of_mem_visit hb)
  have hn : config.maxDepth = n := by simpa using hlevels
  cases hgives with
  | @directive c shape _ _ _ hc hk hreads hinner =>
    obtain ⟨hname, hknown, hfits⟩ :=
      hreads.fits fun l hl => henters.isLine l (mem_of_mem_lines hc hl)
    constructor
    · rintro ⟨d', inv', children', hd', hhead, -, harguments, hoptions, hcontent⟩
      exact Parser.stable_of_parse_render hname hknown hfits hd' hhead harguments hoptions hcontent
    · intro hstable
      obtain ⟨k, hparse⟩ := Parser.parse_render_of_stable hname hknown hfits hstable
      -- The content parsed where it stood; it parses where it is written now.
      have hkids : ∃ kids, (if raw then .ok [] else
          Parser.nestedWithin ⟨r, config⟩ config.maxDepth inv.content k) = .ok kids := by
        cases raw with
        | true => exact ⟨[], rfl⟩
        | false =>
          have hinner' : Parser.nestedWithin ⟨r, config⟩ config.maxDepth inv.content
              inv.contentOffset = .ok children := by rwa [hn]
          exact Parser.exists_nested_ok (Parser.shifts_nestedWithin hkept hroles _) hinner' k
      obtain ⟨kids, hkids⟩ := hkids
      exact ⟨_, _, kids, hparse kids hkids, Document.head?_blocks [], rfl, rfl, rfl, rfl⟩

/-- The words after `only` in the two sources below are its argument. -/
theorem fitsArguments_only : Directive.only.shape.FitsArguments ["html"] := by
  refine ⟨by decide, by decide, Or.inl fun w hw => ?_⟩
  rw [List.mem_singleton.1 hw]
  exact Text.isWord_of_all (by decide) rfl

/-- With an option in the block, content that is further indented than the rest survives. -/
theorem exists_parse_render_only :
    ∃ (r : Registry) (d d' : Document) (inv inv' : Invocation) (children' : List Block),
      registry {} = .ok r ∧
      Parser.parse ⟨r, { fileText := fun _ => .error [] }⟩
        ".. only::\n   html\n   :nested:\n\n       Text" = .ok d ∧
      Block.directive inv true [] ∈ d.blocks ∧ inv.content = (["    Text"] : List Text) ∧
      Parser.parse ⟨r, { fileText := fun _ => .error [] }⟩ inv.render = .ok d' ∧
      d'.blocks.head? = some (.directive inv' true children') ∧ inv'.name = inv.name ∧
      inv'.arguments = inv.arguments ∧ inv'.options = inv.options ∧
      inv'.content = inv.content := by
  obtain ⟨r, hr⟩ := exists_registry_default
  have hname : IsFieldName "nested" := ⟨by decide, by decide, by decide, by decide⟩
  have hdivide : Directive.only.shape.Divides ["", "html", ":nested:", "", "    Text"] 0 ["html"]
      [":nested:"] ["", "    Text"] 1
      ⟨["html"], .flag "nested", ["    Text"], 4⟩ := by
    refine ⟨rfl, by decide, by decide, ?_, ?_, readFields_flag hname,
      Shape.argumentsIn_argumentLines fitsArguments_only, rfl, rfl, fun _ => rfl⟩
    · intro l hl
      cases hl
      decide
    · intro l hl
      cases hl
      decide
  have hlines : Text.normalLines ".. only::\n   html\n   :nested:\n\n       Text" =
      (".. only::" :: ["   html", "   :nested:", "", "       Text"] : List Text) := by decide
  have hd := Parser.parse_of_kept_marker (p := ⟨r, { fileText := fun _ => .error [] }⟩) hlines
    (by decide) (by decide) (by decide) (directive?_only hr)
    (Shape.divide_withAnyOption_eq_ok_iff.2 ⟨_, _, _, _, hdivide⟩) rfl
  -- The option's line shows the margin, whatever the indentation of the content.
  have hstable : Stable ["html"] (.flag "nested") ["    Text"] := by
    refine ⟨by decide, fun e he v hv => ?_, fun hnil => by cases hnil⟩
    rw [List.mem_singleton.1 he] at hv
    cases hv
  obtain ⟨d', inv', children', hd', hhead, hsame⟩ :=
    (exists_parse_render_iff_stable hr hd
      (Document.mem_blocks_of_mem (List.mem_singleton_self _))).2 hstable
  exact ⟨r, _, d', _, inv', children', hr, hd,
    Document.mem_blocks_of_mem (List.mem_singleton_self _), rfl, hd', hhead, hsame⟩

/-- Without one it does not: the written form does not keep the indentation. -/
theorem not_exists_parse_render_only :
    ∃ (r : Registry) (d : Document) (inv : Invocation), registry {} = .ok r ∧
      Parser.parse ⟨r, { fileText := fun _ => .error [] }⟩ ".. only::\n   html\n\n       Text" =
        .ok d ∧
      Block.directive inv true [] ∈ d.blocks ∧
      ¬∃ d' inv' children',
        Parser.parse ⟨r, { fileText := fun _ => .error [] }⟩ inv.render = .ok d' ∧
        d'.blocks.head? = some (.directive inv' true children') ∧ inv'.name = inv.name ∧
        inv'.arguments = inv.arguments ∧ inv'.options = inv.options ∧
        inv'.content = inv.content := by
  obtain ⟨r, hr⟩ := exists_registry_default
  have hknown := directive?_only hr
  have hdivide : Directive.only.shape.Divides ["", "html", "", "    Text"] 0 ["html"] []
      ["", "    Text"] 1 ⟨["html"], ∅, ["    Text"], 3⟩ := by
    refine ⟨rfl, by decide, by simp, by simp, ?_, readFields_nil _ _,
      Shape.argumentsIn_argumentLines fitsArguments_only, rfl, rfl, fun _ => rfl⟩
    intro l hl
    cases hl
    decide
  have hlines : Text.normalLines ".. only::\n   html\n\n       Text" =
      (".. only::" :: ["   html", "", "       Text"] : List Text) := by decide
  have hd := Parser.parse_of_kept_marker (p := ⟨r, { fileText := fun _ => .error [] }⟩) hlines
    (by decide) (by decide) (by decide) hknown
    (Shape.divide_withAnyOption_eq_ok_iff.2 ⟨_, _, _, _, hdivide⟩) rfl
  have hreads : Parser.Reads ⟨r, { fileText := fun _ => .error [] }⟩
      [".. only::", "   html", "", "       Text"] 0 Directive.only.shape true
      (Parser.keptInvocation "only" ".. only::\n   html\n\n       Text" 0
        ⟨["html"], ∅, ["    Text"], 3⟩) :=
    .intro (by decide) hknown (Shape.divide_withAnyOption_eq_ok_iff.2 ⟨_, _, _, _, hdivide⟩)
  obtain ⟨hname, -, hfits⟩ := hreads.fits fun l hl =>
    Text.isLine_of_mem_normalLines (by rwa [hlines])
  refine ⟨r, _, _, hr, hd, Document.mem_blocks_of_mem (List.mem_singleton_self _), ?_⟩
  rintro ⟨d', inv', children', hd', hhead, -, harguments, hoptions, hcontent⟩
  have hstable :=
    Parser.stable_of_parse_render hname hknown hfits hd' hhead harguments hoptions hcontent
  have hmargin := hstable.no_margin rfl
  revert hmargin
  decide

end Passthrough

end StructuredText

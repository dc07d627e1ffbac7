import Mathlib.Data.List.Permutation
import StructuredText.Proofs.Inline.Agreement
import StructuredText.Proofs.Parser.Blocks
import StructuredText.Proofs.Passthrough.Roles

/-!
# The skeleton of a document

A document that is kept as written has the blocks that it has when its directives and roles are
expanded. Where both parses succeed, the blocks face each other one by one: comments and literal
blocks are the same, quotes and paragraphs stand on the same lines, and the element that a directive
expands to faces the node that keeps an invocation of it (`faces_parse`).

Structure: how lines are cut into chunks depends on the lines alone, so both parses go through the
same chunks. One chunk gives blocks that face each other (`faces_chunkBlocks`), provided that the
quotes do; and a quote is parsed by the same function from less indented lines (`faces_blocks`). What
is inside a directive is not compared, since its shape decides what of it is content.
-/

namespace StructuredText

/-- Whether a directive expands to an element. -/
def Directive.Expands (d : Directive) : Prop :=
  ∃ tag shape expansion, d = .element tag shape expansion

/-- Whether every directive that a registry knows expands to an element. -/
def Registry.ExpandsDirectives (r : Registry) : Prop :=
  ∀ name d, r.directive? name = some d → d.Expands

/-- Two blocks face each other, the first with directives expanded as `host` knows them and the
second with directives kept. -/
inductive Block.Faces (host : Registry) : Block → Block → Prop where
  | paragraph (line : Nat) {is js : List Inline} (h : List.Forall₂ Inline.Agrees is js) :
      Faces host (.paragraph line is) (.paragraph line js)
  | quote (line : Nat) {bs cs : List Block} (h : List.Forall₂ (Faces host) bs cs) :
      Faces host (.quote line bs) (.quote line cs)
  | comment (line : Nat) (text : Text) : Faces host (.comment line text) (.comment line text)
  | literalBlock (text : Text) :
      Faces host (.ofText "literal_block" text) (.ofText "literal_block" text)
  | directive {tag : Text} {shape : Shape} {expansion : Expansion} {inv : Invocation}
      (h : host.directive? inv.name = some (.element tag shape expansion))
      (attributes : List (Text × Text)) (text : Option Text) (children : List Block) (raw : Bool)
      (kept : List Block) :
      Faces host (.element tag attributes text children) (.directive inv raw kept)

namespace Directive

/-- A directive that expands to an element gives exactly that element. -/
theorem run_element_eq_ok {tag : Text} {shape : Shape} {expansion : Expansion} {inv : Invocation}
    {ctx : Context} {bs : List Block} (h : (element tag shape expansion).run inv ctx = .ok bs) :
    ∃ attributes text children, bs = [.element tag attributes text children] := by
  cases expansion with
  | body =>
    obtain ⟨children, -, h⟩ := Except.bind_eq_ok_iff.1 h
    cases h
    exact ⟨_, _, _, rfl⟩
  | literal =>
    cases h
    exact ⟨_, _, _, rfl⟩
  | included =>
    obtain ⟨children, -, h⟩ := Except.bind_eq_ok_iff.1 h
    cases h
    exact ⟨_, _, _, rfl⟩
  | empty =>
    cases h
    exact ⟨_, _, _, rfl⟩

end Directive

namespace Parser

/-! ## One chunk -/

section Chunk

variable {p q : Parser} {nested nested' : Nested}

/-- The blocks of an expanded directive: one element with its tag. -/
theorem directiveBlocks_expanded_eq_ok {name text : Text} {lines : List Text} {index : Nat}
    {tag : Text} {shape : Shape} {expansion : Expansion} {bs : List Block}
    (hd : p.registry.directive? name = some (.element tag shape expansion))
    (h : p.directiveBlocks nested name lines text index = .ok bs) :
    ∃ attributes text children, bs = [.element tag attributes text children] := by
  rw [directiveBlocks, hd] at h
  dsimp only at h
  split at h
  · cases h
  · exact Directive.run_element_eq_ok (Except.mapError_eq_ok_iff.1 h)

theorem faces_directiveBlocks (hp : p.registry.ExpandsDirectives)
    (hq : q.registry.KeepsDirectives) {name text : Text} {lines : List Text} {index : Nat}
    {bs cs : List Block} (hbs : p.directiveBlocks nested name lines text index = .ok bs)
    (hcs : q.directiveBlocks nested' name lines text index = .ok cs) :
    List.Forall₂ (Block.Faces p.registry) bs cs := by
  cases hd : p.registry.directive? name with
  | none =>
    rw [directiveBlocks_unknown hd] at hbs
    cases hbs
  | some d =>
    obtain ⟨tag, shape, expansion, rfl⟩ := hp name d hd
    obtain ⟨attributes, elementText, children, rfl⟩ := directiveBlocks_expanded_eq_ok hd hbs
    cases hd' : q.registry.directive? name with
    | none =>
      rw [directiveBlocks_unknown hd'] at hcs
      cases hcs
    | some d' =>
      obtain ⟨shape', raw, rfl⟩ := hq name d' hd'
      obtain ⟨parts, kept, -, -, rfl⟩ := (directiveBlocks_kept_eq_ok_iff hd').1 hcs
      have hname : (keptInvocation name text index parts).name = name := rfl
      exact .cons (.directive (hname ▸ hd) _ _ _ _ _) .nil

theorem faces_explicitBlocks (hp : p.registry.ExpandsDirectives) (hq : q.registry.KeepsDirectives)
    {lines : List Text} {index : Nat} {bs cs : List Block}
    (hbs : p.explicitBlocks nested index lines = .ok bs)
    (hcs : q.explicitBlocks nested' index lines = .ok cs) :
    List.Forall₂ (Block.Faces p.registry) bs cs := by
  cases hm : directiveMarker? (lines.headD []) with
  | none =>
    rw [explicitBlocks_comment hm] at hbs hcs
    cases hbs
    cases hcs
    exact .cons (.comment _ _) .nil
  | some marker =>
    obtain ⟨name, rest⟩ := marker
    rw [explicitBlocks_directive hm] at hbs hcs
    exact faces_directiveBlocks hp hq hbs hcs

theorem faces_paragraphBlocks (hp : p.registry.NativeRoles) (hq : q.registry.NativeRoles)
    {lines : List Text} {index : Nat} {bs cs : List Block}
    (hbs : p.paragraphBlocks index lines = .ok bs) (hcs : q.paragraphBlocks index lines = .ok cs) :
    List.Forall₂ (Block.Faces p.registry) bs cs := by
  simp only [paragraphBlocks] at hbs hcs
  split at hbs
  · next hempty =>
    rw [if_pos hempty] at hcs
    cases hbs
    cases hcs
    exact .nil
  · next hne =>
    rw [if_neg hne] at hcs
    obtain ⟨is, his, rfl⟩ := Except.map_eq_ok_iff.1 hbs
    obtain ⟨js, hjs, rfl⟩ := Except.map_eq_ok_iff.1 hcs
    exact .cons (.paragraph _ (agrees_inlineNodes hp hq his hjs)) .nil

/-- One chunk gives blocks that face each other, if what is inside a quote does. -/
theorem faces_chunkBlocks (hp : p.registry.ExpandsDirectives) (hq : q.registry.KeepsDirectives)
    (hproles : p.registry.NativeRoles) (hqroles : q.registry.NativeRoles) {quoted quoted' : Nested}
    {offset : Nat} {c : Chunk}
    (hquoted : c.kind = .quote → ∀ bs cs,
      quoted (Text.dropMargin c.lines) (offset + c.start) = .ok bs →
      quoted' (Text.dropMargin c.lines) (offset + c.start) = .ok cs →
        List.Forall₂ (Block.Faces p.registry) bs cs)
    {bs cs : List Block} (hbs : p.chunkBlocks nested quoted offset c = .ok bs)
    (hcs : q.chunkBlocks nested' quoted' offset c = .ok cs) :
    List.Forall₂ (Block.Faces p.registry) bs cs := by
  cases hk : c.kind with
  | quote =>
    rw [chunkBlocks_quote hk] at hbs hcs
    obtain ⟨inner, hinner, rfl⟩ := Except.map_eq_ok_iff.1 hbs
    obtain ⟨inner', hinner', rfl⟩ := Except.map_eq_ok_iff.1 hcs
    exact .cons (.quote _ (hquoted hk _ _ hinner hinner')) .nil
  | explicit =>
    rw [chunkBlocks_explicit hk] at hbs hcs
    exact faces_explicitBlocks hp hq hbs hcs
  | paragraph =>
    rw [chunkBlocks_paragraph hk] at hbs hcs
    exact faces_paragraphBlocks hproles hqroles hbs hcs
  | literal =>
    rw [chunkBlocks_literal hk] at hbs hcs
    cases hbs
    cases hcs
    exact .cons (.literalBlock _) .nil

/-- The blocks of the same lines face each other, whatever becomes of nested content. -/
theorem faces_blocks (hp : p.registry.ExpandsDirectives) (hq : q.registry.KeepsDirectives)
    (hproles : p.registry.NativeRoles) (hqroles : q.registry.NativeRoles) {lines : List Text}
    {offset : Nat} {bs cs : List Block} (hbs : p.blocks nested lines offset = .ok bs)
    (hcs : q.blocks nested' lines offset = .ok cs) :
    List.Forall₂ (Block.Faces p.registry) bs cs := by
  induction lines, offset using quote_induction generalizing bs cs with
  | step lines offset ih =>
    rw [blocks_eq] at hbs hcs
    obtain ⟨parsed, hparsed, hbs⟩ := Except.bind_eq_ok_iff.1 hbs
    obtain ⟨parsed', hparsed', hcs⟩ := Except.bind_eq_ok_iff.1 hcs
    cases hbs
    cases hcs
    refine List.rel_flatten (Except.forall₂_of_mapM_eq_ok hparsed hparsed' ?_)
    intro c hc chunk chunk' hchunk hchunk'
    refine faces_chunkBlocks hp hq hproles hqroles ?_ hchunk hchunk'
    intro hk inner inner' hinner hinner'
    exact ih c hc hk hinner hinner'

end Chunk

end Parser

/-! ## The registry of a documentation generator -/

namespace Directive

instance (d : Directive) : Decidable d.Expands :=
  match d with
  | element tag shape expansion => .isTrue ⟨tag, shape, expansion, rfl⟩
  | passthrough .. => .isFalse nofun
  | custom .. => .isFalse nofun

end Directive

theorem Registry.expandsDirectives_documentation : documentation.ExpandsDirectives := by
  obtain ⟨hbase, -, -, hdomains⟩ := documentation_same
  have happlication : ∀ e ∈ applicationDirectives, e.2.Expands := by decide +kernel
  have hgrammar : ∀ e ∈ grammarDirectives, e.2.Expands := by decide +kernel
  have hdomain : ∀ d ∈ documentationDomains.entries, ∀ e ∈ d.2.directives.entries, e.2.Expands := by
    decide +kernel
  intro name d hd
  refine of_directive? (P := Directive.Expands) (fun e he => ?_) (fun e he => ?_) ?_ hd
  · rcases mem_registerDirectives he with ⟨f, hf, hfe⟩ | he
    · rw [← hfe]
      exact happlication f hf
    · cases he
  · rw [hbase] at he
    rcases NameTable.mem_insertAll he with he | he
    · exact hgrammar e he
    · cases he
  · rw [hdomains]
    exact hdomain

namespace Passthrough

/-- **A document that is kept as written has the skeleton of the document that it would become.**
Whatever the two configurations are, the blocks face each other one by one, at top level and inside
every quote. -/
theorem faces_parse {e : Extensions} {r : Registry} (hr : registry e = .ok r)
    {config config' : ParserConfig} {source : Text} {h p : Document}
    (hh : Parser.parse ⟨.documentation, config⟩ source = .ok h)
    (hp : Parser.parse ⟨r, config'⟩ source = .ok p) :
    List.Forall₂ (Block.Faces .documentation) h.children p.children := by
  have hexpands := Registry.expandsDirectives_documentation
  have hkeeps := registry_keepsDirectives hr
  exact Parser.faces_blocks (p := ⟨.documentation, config⟩) (q := ⟨r, config'⟩) hexpands hkeeps
    Registry.nativeRoles_documentation (nativeRoles_registry hr) (Parser.parse_eq_ok_iff.1 hh)
    (Parser.parse_eq_ok_iff.1 hp)

/-- A comment in a quote, interpreted text in a paragraph, and a directive. -/
def facingSource : Text := "  .. a\n\nSee :sub:`x`.\n\n.. only:: html"

theorem chunks_facingSource : chunks (Text.normalLines facingSource) =
    [⟨.quote, 0, ["  .. a"]⟩, ⟨.paragraph, 2, ["See :sub:`x`."]⟩,
      ⟨.explicit, 4, [".. only:: html"]⟩] := by
  cbv

/-- What a parser has to know to parse it. -/
theorem exists_parse_facingSource {p : Parser} {role : Role}
    (hrole : p.registry.role? "sub" = some role) (htotal : role.IsTotal)
    (honly : ∃ bs, p.directiveBlocks (p.nestedWithin p.config.maxDepth) "only" ["html"]
      ".. only:: html" 4 = .ok bs) : ∃ d, p.parse facingSource = .ok d := by
  obtain ⟨bs, hbs⟩ : ∃ bs, p.blocks (p.nestedWithin p.config.maxDepth)
      (Text.normalLines facingSource) 0 = .ok bs := by
    refine Parser.exists_blocks_eq_ok fun c hc => ?_
    rw [chunks_facingSource, List.mem_cons, List.mem_cons, List.mem_singleton] at hc
    rcases hc with rfl | rfl | rfl
    · have hinner : chunks (Text.dropMargin ["  .. a"]) = [⟨.explicit, 0, [".. a"]⟩] := by cbv
      have hmarker : directiveMarker? ((([".. a"] : List Text)).headD []) = none := by decide
      rw [Parser.chunkBlocks_quote rfl, Parser.blocks_of_chunk hinner,
        Parser.chunkBlocks_explicit rfl, Parser.explicitBlocks_comment hmarker]
      exact ⟨_, rfl⟩
    · have hsegments : segments (Text.escape "See :sub:`x`.") =
          [.text "See ", .interpreted (.before "sub") "x", .text "."] := by cbv
      obtain ⟨nodes, hnodes⟩ : ∃ nodes, inlineNodes p.registry "See :sub:`x`." 3 = .ok nodes := by
        refine exists_inlineNodes_eq_ok (fun place c hmem => ?_) 3
        rw [hsegments] at hmem
        obtain ⟨rfl, -⟩ : place = .before ['s', 'u', 'b'] ∧ c = ['x'] := by simpa using hmem
        exact ⟨role, hrole, htotal⟩
      have hannounce : literalAnnouncement (Text.ofLines ["See :sub:`x`."]) =
          ("See :sub:`x`.".toList, false) := by decide
      rw [Parser.chunkBlocks_paragraph rfl, Parser.paragraphBlocks]
      dsimp only
      rw [hannounce, if_neg (by decide), hnodes]
      exact ⟨_, rfl⟩
    · have hmarker : directiveMarker? (".. only:: html" : Text) =
          some ("only".toList, "html".toList) := by
        decide
      rw [Parser.chunkBlocks_explicit rfl, Parser.explicitBlocks_cons hmarker]
      exact honly
  exact ⟨⟨bs⟩, Parser.parse_eq_ok_iff.2 hbs⟩

theorem faces_parse_facingSource :
    ∃ (r : Registry) (h p : Document), registry {} = .ok r ∧
      Parser.parse ⟨.documentation, { fileText := fun _ => .error [] }⟩ facingSource = .ok h ∧
      Parser.parse ⟨r, { fileText := fun _ => .error [] }⟩ facingSource = .ok p ∧
      List.Forall₂ (Block.Faces .documentation) h.children p.children := by
  obtain ⟨r, hr⟩ := exists_registry_default
  obtain ⟨h, hh⟩ : ∃ h, Parser.parse ⟨.documentation, { fileText := fun _ => .error [] }⟩
      facingSource = .ok h := by
    have hrole : Registry.documentation.role? "sub" = some (.ofText "subscript") :=
      Registry.role?_documentation_of_grammar rfl
    refine exists_parse_facingSource hrole trivial ?_
    have honly : Registry.documentation.directive? "only" = some .only := by
      refine Registry.lookUp_eq_some_iff.2 (.registered ?_)
      rw [Registry.documentation, Registry.registerApplication, Registry.find?_registerDirectives]
      rfl
    have hdivide : Directive.only.shape.divide ["html"] 4 = .ok ⟨["html"], ∅, [], 6⟩ := by cbv
    obtain ⟨children, hchildren⟩ : ∃ bs, Parser.blocksWithin
        ⟨.documentation, { fileText := fun _ => .error [] }⟩ 15 [] 6 = .ok bs := by
      refine Parser.exists_blocks_eq_ok fun c hc => ?_
      rw [chunks, chunksFrom] at hc
      cases hc
    rw [Parser.directiveBlocks, honly]
    dsimp only
    rw [Parser.invocation, hdivide]
    show ∃ bs, Except.mapError _
      (Except.bind (Except.mapError _ (Parser.blocksWithin _ 15 [] 6)) _) = .ok bs
    rw [hchildren]
    exact ⟨_, rfl⟩
  obtain ⟨p, hp⟩ : ∃ p, Parser.parse ⟨r, { fileText := fun _ => .error [] }⟩
      facingSource = .ok p := by
    have hcanonical : Registry.canonicalName roleAlias? "sub" ∈
        grammarRoleList.map fun f => lowercase f.1 := by
      decide +kernel
    obtain ⟨role, hrole, htotal⟩ := exists_role?_of_grammar hr hcanonical
    refine exists_parse_facingSource hrole htotal ?_
    have hdivide : Directive.only.shape.withAnyOption.divide ["html"] 4 =
        .ok ⟨["html"], ∅, [], 6⟩ := by cbv
    exact ⟨_, (Parser.directiveBlocks_kept_eq_ok_iff (directive?_only hr)).2
      ⟨_, _, hdivide, rfl, rfl⟩⟩
  exact ⟨r, h, p, hr, hh, hp, faces_parse hr hh hp⟩

end Passthrough

end StructuredText

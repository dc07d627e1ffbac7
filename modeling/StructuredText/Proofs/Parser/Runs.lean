import StructuredText.Proofs.Directive.Native
import StructuredText.Proofs.Invocation.WellFormed
import StructuredText.Proofs.Parser.Blocks

/-!
# Which directives a parse runs

A parse runs a directive on an invocation where it comes to lines that are a directive block. The
lines it comes to are those of the document, of the quotes among them, and whatever the directives it
runs parse in turn: their content, a file, or, for a caller's own function, lines of its own. `Visits`
follows it through these, and `Runs` says on which invocations a directive is run there. Errors and
the limit on nesting only keep a parse from some of them.

How content is parsed makes a difference only to explicit markup that a directive is run on
(`explicitBlocks_or_hands`, `Hands.explicitBlocks_eq`), and there only through the lines that the
directive may parse (`run_congr`).

Every invocation that is run is of the form that the directive's shape asks for (`admits_of_runs`), up
to white space at the end of its last argument. There is none where no line of the block ends in white
space. No line of documents, files and content does, but callers' own functions may parse lines that
do (`exists_runs_not_trimmed`). Which lines they parse is not known here, so that it is a parameter of
`Visits` and `Runs`.
-/

namespace StructuredText

open Text (Trimmed)

namespace Directive

/-- What a run on an invocation may parse as nested content, by the index of the first line: the
content, or the lines of the file that the first argument names. A caller's own function may take
the lines from anywhere. -/
inductive MayParse (config : ParserConfig) (inv : Invocation) :
    Directive → List Text → Nat → Prop where
  | body (tag : Text) (shape : Shape) :
      MayParse config inv (.element tag shape .body) inv.content inv.contentOffset
  | included {path text : Text} {arguments : List Text} (tag : Text) (shape : Shape)
      (hpath : inv.arguments = path :: arguments)
      (hfile : config.fileText (joinPath config.baseDir path) = .ok text) :
      MayParse config inv (.element tag shape .included) (Text.normalLines text) 0
  | kept (shape : Shape) :
      MayParse config inv (.passthrough shape false) inv.content inv.contentOffset
  | custom (shape : Shape) (run : Invocation → Context → Except Failure (List Block))
      (lines : List Text) (offset : Nat) : MayParse config inv (.custom shape run) lines offset

end Directive

namespace Parser

/-- The lines of explicit markup, the first of which has the given index, are a block of the directive
`d`, and `inv` is what they come to. -/
inductive Hands (p : Parser) (lines : List Text) (index : Nat) (d : Directive) (inv : Invocation) :
    Prop where
  | intro {name rest : Text} (hmarker : directiveMarker? (lines.headD []) = some (name, rest))
      (hknown : p.registry.directive? name = some d)
      (hinvocation : invocation d name (rest :: Text.dropMargin lines.tail) (Text.ofLines lines)
        index = .ok inv)

/-- A parse of the source may come to the lines, the first of which it takes for the line with the
index `offset`, if `passed` holds of the lists of lines that callers' own functions parse. -/
inductive Visits (p : Parser) (passed : List Text → Prop) (source : Text) :
    (lines : List Text) → (offset : Nat) → Prop where
  | document : Visits p passed source (Text.normalLines source) 0
  | quote {lines : List Text} {offset : Nat} {c : Chunk} (h : Visits p passed source lines offset)
      (hc : c ∈ chunks lines) (hk : c.kind = .quote) :
      Visits p passed source (Text.dropMargin c.lines) (offset + c.start)
  | nested {lines lines' : List Text} {offset offset' : Nat} {c : Chunk} {d : Directive}
      {inv : Invocation} (h : Visits p passed source lines offset) (hc : c ∈ chunks lines)
      (hk : c.kind = .explicit) (hhands : p.Hands c.lines (offset + c.start) d inv)
      (hparse : d.MayParse p.config inv lines' offset') (hpassed : ¬d.IsNative → passed lines') :
      Visits p passed source lines' offset'

/-- A parse of the source may run the directive on the invocation, which is what the lines of a
directive block come to. -/
inductive Runs (p : Parser) (passed : List Text → Prop) (source : Text) :
    (block : List Text) → Directive → Invocation → Prop where
  | intro {lines : List Text} {offset : Nat} {c : Chunk} {d : Directive} {inv : Invocation}
      (h : p.Visits passed source lines offset) (hc : c ∈ chunks lines) (hk : c.kind = .explicit)
      (hhands : p.Hands c.lines (offset + c.start) d inv) : Runs p passed source c.lines d inv

variable {p : Parser} {passed : List Text → Prop} {source : Text} {d : Directive} {inv : Invocation}

/-! ## What a directive's block comes to -/

theorem invocation_eq_ok_iff {name : Text} {lines : List Text} {text : Text} {index : Nat} :
    invocation d name lines text index = .ok inv ↔
      ∃ parts, d.shape.divide lines index = .ok parts ∧
        inv = keptInvocation name text index parts := by
  unfold invocation
  split
  · next h => simp [h]
  · next parts h =>
    rw [h]
    constructor
    · intro heq
      cases heq
      exact ⟨parts, rfl, rfl⟩
    · rintro ⟨parts', heq, rfl⟩
      cases heq
      rfl

/-- The blocks of a directive's block are what the directive makes of the invocation. -/
theorem Hands.explicitBlocks_eq {lines : List Text} {index : Nat} (h : p.Hands lines index d inv)
    (nested : Nested) :
    p.explicitBlocks nested index lines =
      (d.run inv (p.context nested (index + 1))).mapError (failureError inv.name (index + 1)) := by
  obtain ⟨hmarker, hknown, hinvocation⟩ := h
  rw [explicitBlocks_directive hmarker, directiveBlocks, hknown]
  dsimp only
  rw [hinvocation]
  obtain ⟨parts, -, rfl⟩ := invocation_eq_ok_iff.1 hinvocation
  rfl

/-- So are the blocks of lines that hold nothing but a directive's block. -/
theorem Hands.blocks_eq {lines : List Text} {offset : Nat} (h : p.Hands lines offset d inv)
    (hchunks : chunks lines = [⟨.explicit, 0, lines⟩]) (nested : Nested) :
    p.blocks nested lines offset =
      (d.run inv (p.context nested (offset + 1))).mapError (failureError inv.name (offset + 1)) := by
  rw [Parser.blocks_eq, hchunks, List.mapM_cons, chunkBlocks_explicit rfl, Nat.add_zero,
    h.explicitBlocks_eq]
  cases d.run inv (p.context nested (offset + 1)) with
  | error e => rfl
  | ok bs =>
    show Except.ok [bs].flatten = Except.ok bs
    rw [List.flatten_singleton]

/-- Lines are a block of one directive, and come to one invocation. -/
theorem Hands.unique {lines : List Text} {index : Nat} {d' : Directive} {inv' : Invocation}
    (h : p.Hands lines index d inv) (h' : p.Hands lines index d' inv') : d = d' ∧ inv = inv' := by
  obtain ⟨hmarker, hknown, hinvocation⟩ := h
  obtain ⟨hmarker', hknown', hinvocation'⟩ := h'
  rw [hmarker] at hmarker'
  cases hmarker'
  rw [hknown] at hknown'
  cases hknown'
  rw [hinvocation] at hinvocation'
  cases hinvocation'
  exact ⟨rfl, rfl⟩

/-- Explicit markup is a comment, or an error whatever its content may be, or the block of a
directive. -/
theorem explicitBlocks_or_hands (p : Parser) (lines : List Text) (index : Nat) :
    directiveMarker? (lines.headD []) = none ∨
      (∃ e, ∀ nested, p.explicitBlocks nested index lines = .error e) ∨
        ∃ d inv, p.Hands lines index d inv := by
  cases hm : directiveMarker? (lines.headD []) with
  | none => exact Or.inl rfl
  | some marker =>
    obtain ⟨name, rest⟩ := marker
    refine Or.inr ?_
    cases hd : p.registry.directive? name with
    | none =>
      refine Or.inl ⟨.unknownDirective name (index + 1), fun nested => ?_⟩
      rw [explicitBlocks_directive hm, directiveBlocks_unknown hd]
    | some d =>
      cases hinv : invocation d name (rest :: Text.dropMargin lines.tail) (Text.ofLines lines)
        index with
      | error e =>
        refine Or.inl ⟨e, fun nested => ?_⟩
        rw [explicitBlocks_directive hm, directiveBlocks, hd]
        dsimp only
        rw [hinv]
      | ok inv => exact Or.inr ⟨d, inv, .intro hm hd hinv⟩

/-- A run depends on nested content only through the lines that it may parse. -/
theorem run_congr (d : Directive) (p : Parser) (line : Nat) {nested nested' : Nested}
    (h : ∀ lines offset, d.MayParse p.config inv lines offset →
      nested' lines offset = nested lines offset) :
    d.run inv (p.context nested' line) = d.run inv (p.context nested line) := by
  cases d with
  | element tag shape expansion =>
    cases expansion with
    | body =>
      have hcontent := h _ _ (.body tag shape)
      simp only [Directive.run, parseContent, context, hcontent]
    | included =>
      have hincluded : parseIncluded inv (p.context nested' line) =
          parseIncluded inv (p.context nested line) := by
        unfold parseIncluded
        cases harguments : inv.arguments with
        | nil => rfl
        | cons path arguments =>
          simp only [context, Context.resolvePath]
          cases hfile : p.config.fileText (joinPath p.config.baseDir path) with
          | error message => rfl
          | ok text => simp only [h _ _ (.included tag shape harguments hfile)]
      simp only [Directive.run, hincluded]
    | literal => rfl
    | empty => rfl
  | passthrough shape raw =>
    cases raw with
    | true => rfl
    | false =>
      have hcontent := h _ _ (.kept shape)
      simp only [Directive.run, parseContent, context, hcontent]
  | custom shape run =>
    -- A caller's own function may parse anything.
    have hall : nested' = nested :=
      funext fun lines => funext fun offset => h _ _ (.custom shape run lines offset)
    rw [hall]

/-! ## What is run -/

/-- Where the parts of an invocation come from: the text behind the marker and the lines below it, out
of their margin. -/
theorem Hands.exists_sources {lines : List Text} {index : Nat} (h : p.Hands lines index d inv) :
    ∃ name rest parts before fields content,
      directiveMarker? (lines.headD []) = some (name, rest) ∧
      d.shape.Sources (rest :: Text.dropMargin lines.tail) parts before fields content ∧
      inv = keptInvocation name (Text.ofLines lines) index parts := by
  obtain ⟨hmarker, -, hinvocation⟩ := h
  obtain ⟨parts, hdivide, rfl⟩ := invocation_eq_ok_iff.1 hinvocation
  obtain ⟨before, fields, content, hsources⟩ := Shape.exists_sources_of_divide hdivide
  exact ⟨_, _, parts, before, fields, content, hmarker, hsources, rfl⟩

theorem Hands.admits {lines : List Text} {index : Nat} (h : p.Hands lines index d inv) :
    d.shape.Admits inv.arguments inv.options inv.content := by
  obtain ⟨name, rest, parts, before, fields, content, -, hsources, rfl⟩ := h.exists_sources
  refine hsources.admits fun l hl hblank => ?_
  rw [List.tail_cons] at hl
  exact Text.eq_nil_of_mem_dropMargin hl hblank

/-- Where no line of a directive's block ends in white space, neither does an argument or a line of
the content. -/
theorem Hands.trimmed {lines : List Text} {index : Nat} (h : p.Hands lines index d inv)
    (hlines : ∀ l ∈ lines, Trimmed l) :
    (∀ a ∈ inv.arguments, Trimmed a) ∧ ∀ l ∈ inv.content, Trimmed l := by
  obtain ⟨name, rest, parts, before, fields, content, hmarker, hsources, rfl⟩ := h.exists_sources
  have hblock := forall_mem_block (fun h hsuffix => Trimmed.suffix h hsuffix) hlines hmarker
  exact ⟨hsources.trimmed_arguments hblock, fun l hl => hblock l (hsources.mem_lines hl)⟩

theorem visits_of_normalLines {lines : List Text} (h : Text.normalLines source = lines) :
    p.Visits passed source lines 0 := by
  rw [← h]
  exact .document

/-- **No line that a parse comes to ends in white space**, if none does of those that callers' own
functions parse. -/
theorem Visits.trimmed (hpassed : ∀ lines, passed lines → ∀ l ∈ lines, Trimmed l)
    {lines : List Text} {offset : Nat} (h : p.Visits passed source lines offset) :
    ∀ l ∈ lines, Trimmed l := by
  induction h with
  | document => exact fun l hl => (Text.isLine_of_mem_normalLines hl).trimmed
  | quote _ hc _ ih =>
    intro l hl
    obtain ⟨m, hm, hsuffix, -⟩ := Text.mem_dropMargin hl
    exact (ih m (mem_of_mem_lines hc hm)).suffix hsuffix
  | nested _ hc _ hhands hparse hcaller ih =>
    obtain ⟨-, hcontent⟩ := hhands.trimmed fun l hl => ih l (mem_of_mem_lines hc hl)
    cases hparse with
    | body => exact hcontent
    | included => exact fun l hl => (Text.isLine_of_mem_normalLines hl).trimmed
    | kept => exact hcontent
    | custom => exact hpassed _ (hcaller id)

/-- **Every directive is run on a well-formed invocation**, whatever the source, the registry, the
files and the lines that callers' own functions parse are, and however deeply the directive is nested.
None of its arguments ends in white space if no line of its block does, and no line of any block does
if callers' own functions parse no such lines. -/
theorem admits_of_runs (p : Parser) (passed : List Text → Prop) (source : Text)
    {block : List Text} {d : Directive} {inv : Invocation} (h : p.Runs passed source block d inv) :
    d.shape.Admits inv.arguments inv.options inv.content ∧
      ((∀ l ∈ block, Trimmed l) → ∀ a ∈ inv.arguments, Trimmed a) ∧
      ((∀ lines, passed lines → ∀ l ∈ lines, Trimmed l) → ∀ l ∈ block, Trimmed l) := by
  obtain ⟨hvisits, hc, -, hhands⟩ := h
  exact ⟨hhands.admits, fun hblock => (hhands.trimmed hblock).1, fun hpassed l hl =>
    hvisits.trimmed hpassed l (mem_of_mem_lines hc hl)⟩

/-- A picture that leads somewhere. -/
def picture : Directive :=
  .element "image"
    { required := 1, finalWhitespace := true, options := .declared [("target", .uri)] }
    .empty

/-- A parser that knows a kept remark and a picture. -/
def remarkParser : Parser :=
  { registry := Registry.empty
      |>.registerDirective "remark" (.passthrough { content := true } false)
      |>.registerDirective "image" picture
    config := { fileText := fun _ => .error [] } }

/-- A picture in a remark. -/
def pictureSource : Text := ".. remark::\n\n   .. image:: a  b\n      :target: x  y"

/-- The lines of the picture, as the remark has them for content. -/
def pictureLines : List Text := [".. image:: a  b", "   :target: x  y"]

theorem visits_pictureLines (passed : List Text → Prop) :
    remarkParser.Visits passed pictureSource pictureLines 2 := by
  have hlines : Text.normalLines pictureSource =
      ([".. remark::", "", "   .. image:: a  b", "      :target: x  y"] : List Text) := by cbv
  have hchunks : chunks [".. remark::", "", "   .. image:: a  b", "      :target: x  y"] =
      [⟨.explicit, 0, [".. remark::", "", "   .. image:: a  b", "      :target: x  y"]⟩] := by cbv
  have hhands : remarkParser.Hands [".. remark::", "", "   .. image:: a  b", "      :target: x  y"] 0
      (.passthrough { content := true } false)
      ⟨"remark", [], ∅, pictureLines, 1, 2, pictureSource⟩ :=
    .intro (by cbv) (by cbv) (by rw [List.tail_cons]; cbv)
  have hnative : Directive.IsNative (.passthrough { content := true } false) := trivial
  exact (visits_of_normalLines hlines).nested (by rw [hchunks]; exact List.mem_singleton_self _) rfl
    hhands (.kept _) fun hcaller => absurd hnative hcaller

/-- Two words are the one argument of the picture, and its target is in standard form. -/
theorem admits_of_runs_picture :
    ∃ inv, remarkParser.Runs (fun _ => False) pictureSource pictureLines picture inv ∧
      inv.arguments = ["a  b".toList] ∧
      inv.options.entries = [("target".toList, some "xy".toList)] ∧
      picture.shape.Admits inv.arguments inv.options inv.content ∧
      ∀ a ∈ inv.arguments, Trimmed a := by
  have hchunks : chunks pictureLines = [⟨.explicit, 0, pictureLines⟩] := by cbv
  have hhands : remarkParser.Hands pictureLines 2 picture
      ⟨"image", ["a  b"], ⟨[("target", some "xy")], by decide⟩, [], 3, 5,
        ".. image:: a  b\n   :target: x  y"⟩ :=
    .intro (by cbv) (by cbv) (by rw [pictureLines, List.tail_cons]; cbv)
  have hruns : remarkParser.Runs (fun _ => False) pictureSource pictureLines picture _ :=
    .intro (visits_pictureLines _) (by rw [hchunks]; exact List.mem_singleton_self _) rfl hhands
  obtain ⟨hadmits, harguments, hblock⟩ := admits_of_runs _ _ _ hruns
  exact ⟨_, hruns, rfl, rfl, hadmits, harguments (hblock fun _ hpassed => hpassed.elim)⟩

/-- The lines of a picture, with white space at the end. -/
def echoedLines : List Text := [".. image:: a b "]

/-- A caller's directive that stands for a picture. -/
def echo : Directive :=
  .custom {} fun _ ctx => (ctx.parseNested echoedLines 0).mapError .nested

/-- A parser that knows this directive, and keeps pictures as they are written. -/
def echoParser : Parser :=
  { registry := Registry.empty
      |>.registerDirective "echo" echo
      |>.registerDirective "image" (picture.wrapped true)
    config := { fileText := fun _ => .error [] } }

/-- The picture, as its lines are read. -/
def echoedInvocation : Invocation := ⟨"image", ["a b "], ∅, [], 1, 2, ".. image:: a b "⟩

theorem hands_echo :
    echoParser.Hands [".. echo::"] 0 echo ⟨"echo", [], ∅, [], 1, 0, ".. echo::"⟩ :=
  .intro (by cbv) (by cbv) (by rw [List.tail_cons]; cbv)

theorem hands_echoedLines :
    echoParser.Hands echoedLines 0 (picture.wrapped true) echoedInvocation :=
  .intro (by cbv) (by cbv) (by rw [echoedLines, List.tail_cons]; cbv)

theorem normalLines_echo : Text.normalLines ".. echo::" = ([".. echo::"] : List Text) := by cbv

theorem chunks_echo : chunks [".. echo::"] = [⟨.explicit, 0, [".. echo::"]⟩] := by cbv

theorem chunks_echoedLines : chunks echoedLines = [⟨.explicit, 0, echoedLines⟩] := by cbv

theorem visits_echoedLines :
    echoParser.Visits (fun lines => lines = echoedLines) ".. echo::" echoedLines 0 :=
  (visits_of_normalLines normalLines_echo).nested
    (by rw [chunks_echo]; exact List.mem_singleton_self _) rfl hands_echo
    (.custom {} _ echoedLines 0) fun _ => rfl

theorem parse_echo : echoParser.parse ".. echo::" = .ok ⟨[.directive echoedInvocation true []]⟩ := by
  have hnested : echoParser.nestedWithin 16 echoedLines 0 =
      .ok [.directive echoedInvocation true []] := by
    rw [nestedWithin, blocksWithin_eq, hands_echoedLines.blocks_eq chunks_echoedLines]
    rfl
  have hrun : echo.run ⟨"echo", [], ∅, [], 1, 0, ".. echo::"⟩
      (echoParser.context (echoParser.nestedWithin 16) 1) =
        .ok [.directive echoedInvocation true []] := by
    show (echoParser.nestedWithin 16 echoedLines 0).mapError Failure.nested = _
    rw [hnested]
    rfl
  rw [parse_eq_ok_iff, normalLines_echo, hands_echo.blocks_eq chunks_echo]
  exact congrArg _ hrun

/-- **An argument can end in white space** where a caller's own function parses a line that does. -/
theorem exists_runs_not_trimmed :
    ∃ inv, echoParser.Runs (fun lines => lines = echoedLines) ".. echo::" echoedLines
        (picture.wrapped true) inv ∧
      echoParser.parse ".. echo::" = .ok ⟨[.directive inv true []]⟩ ∧
      inv.arguments = ["a b ".toList] ∧ ¬∀ a ∈ inv.arguments, Trimmed a := by
  have hruns := Runs.intro visits_echoedLines
    (by rw [chunks_echoedLines]; exact List.mem_singleton_self _) rfl hands_echoedLines
  exact ⟨_, hruns, parse_echo, rfl, by decide⟩

end Parser

end StructuredText

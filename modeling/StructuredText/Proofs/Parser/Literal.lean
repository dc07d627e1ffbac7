import StructuredText.Proofs.Inline.Inert
import StructuredText.Proofs.Invocation.Options
import StructuredText.Proofs.Parser.Blocks

/-!
# Literal blocks

A paragraph that ends with two colons announces a literal block, and the indented block below it is
kept as it is: its lines are one chunk, whatever they are, and none of them is read as anything else
(`blocks_announced`). For a paragraph of one word the parse can be written down as a whole, since a
word is plain text (`parse_literalSource`).
-/

namespace StructuredText

open Text (isBlank indentation continuesBlock)

/-! ## Letters -/

section Letters

variable {c : Char} (hc : c.isAlpha = true)

include hc

theorem ne_of_isAlpha {d : Char} (hd : d.isAlpha = false) : c ≠ d :=
  ne_of_apply_ne Char.isAlpha (by simp only [hc, hd, Ne, Bool.true_eq_false, not_false_iff])

theorem toNat_of_isAlpha : 65 ≤ c.toNat ∧ c.toNat < 123 := by
  rcases Bool.or_eq_true_iff.1 hc with hupper | hlower
  · obtain ⟨hlow, hhigh⟩ := of_decide_eq_true hupper
    have hA : 65 ≤ c.toNat := UInt32.le_iff_toNat_le.1 hlow
    have hZ : c.toNat ≤ 90 := UInt32.le_iff_toNat_le.1 hhigh
    omega
  · obtain ⟨hlow, hhigh⟩ := Bool.and_eq_true_iff.1 hlower
    have ha : 97 ≤ c.toNat := UInt32.le_iff_toNat_le.1 (of_decide_eq_true hlow)
    have hz : c.toNat ≤ 122 := UInt32.le_iff_toNat_le.1 (of_decide_eq_true hhigh)
    omega

theorem isWhite_eq_false_of_isAlpha : isWhite c = false := by
  obtain ⟨hlow, hhigh⟩ := toNat_of_isAlpha hc
  -- Letters lie between the space, which is white space, and the next such character.
  unfold isWhite whiteSpace CodePoints.has
  rw [CodePoints.insideOf_of_le (by omega), CodePoints.insideOf_of_le (by omega),
    CodePoints.insideOf_of_le (by omega), CodePoints.insideOf_of_le (by omega),
    CodePoints.insideOf_of_lt (by omega)]
  rfl

theorem isOpeningMark_eq_false_of_isAlpha : isOpeningMark c = false := by
  have hstar : c ≠ '*' := ne_of_isAlpha hc rfl
  have hquote : c ≠ backquote := ne_of_isAlpha hc rfl
  have hcolon : c ≠ ':' := ne_of_isAlpha hc rfl
  simp [isOpeningMark, hstar, hquote, hcolon]

end Letters

/-! ## The announcement -/

/-- Two colons right behind a text that does not end in a space announce a literal block; one of them
belongs to the text. -/
theorem literalAnnouncement_append {w : Text} (hne : w ≠ []) (hspace : w.getLast? ≠ some ' ') :
    literalAnnouncement (w ++ [':', ':']) = (w ++ [':'], true) := by
  have halone : w ++ [':', ':'] ≠ [':', ':'] := by simpa using hne
  have hspaced : Text.before? [' ', ':', ':'] (w ++ [':', ':']) = none := by
    have hback : Text.before? [' ', ':', ':'] (w ++ [':', ':']) =
        (Text.after? [' '] w.reverse).map List.reverse := by
      rw [Text.before?, List.reverse_append]
      rfl
    rw [← List.head?_reverse] at hspace
    rw [hback, Option.map_eq_none_iff]
    cases hlast : w.reverse with
    | nil => rfl
    | cons c r =>
      rw [hlast, List.head?_cons, Ne, Option.some.injEq] at hspace
      rw [Text.after?, if_neg (Ne.symm hspace)]
  rw [literalAnnouncement, if_neg halone, hspaced, Text.before?_append]

section Announced

variable {l first : Text} {below : List Text} (hl : isBlank l = false) (hflush : indentation l = 0)
  (hexplicit : isExplicit l = false) (hannounces : announcesLiteral [l] = true)
  (hfirst : isBlank first = false) (hindented : 0 < indentation first)
  (hbelow : ∀ x ∈ below, continuesBlock x = true) (hend : Text.EndsFilled (first :: below))

include hl hflush hexplicit hannounces hfirst hindented hbelow hend

/-- **A line that announces a literal block, a blank line and an indented block are two chunks.** -/
theorem chunks_announced : chunks (l :: [] :: first :: below) =
    [⟨.paragraph, 0, [l]⟩, ⟨.literal, 2, first :: below⟩] := by
  have hparagraph : ([] :: first :: below).takeWhile (fun l => !isBlank l) = [] := rfl
  have hrest : ([] :: first :: below).dropWhile (fun l => !isBlank l) = [] :: first :: below := rfl
  rw [chunks, chunksFrom, if_neg (by simp [hl]), if_neg (by omega), if_neg (by simp [hexplicit]),
    hparagraph, hrest]
  dsimp only
  rw [hannounces, chunksFrom, if_pos Text.isBlank_nil,
    chunksFrom_of_indented true _ hfirst hindented hbelow, Text.dropTrailingBlanks_eq_self hend]
  rfl

/-- **Literal blocks are opaque.** Whatever the lines of the block are, the blocks are those of the
paragraph above it and one element that holds the lines out of their margin. -/
theorem Parser.blocks_announced (p : Parser) (nested : Parser.Nested) (offset : Nat) :
    p.blocks nested (l :: [] :: first :: below) offset =
      (p.paragraphBlocks offset [l]).map fun bs => bs ++ [Parser.literalBlock (first :: below)] := by
  rw [Parser.blocks_eq,
    chunks_announced hl hflush hexplicit hannounces hfirst hindented hbelow hend, List.mapM_cons,
    List.mapM_cons, List.mapM_nil, Parser.chunkBlocks_paragraph rfl, Parser.chunkBlocks_literal rfl,
    Nat.add_zero]
  dsimp only
  cases p.paragraphBlocks offset [l] with
  | error e => rfl
  | ok bs =>
    show Except.ok [bs, [Parser.literalBlock (first :: below)]].flatten = _
    rw [List.flatten_cons, List.flatten_singleton]
    rfl

end Announced

/-! ## A word above the block -/

section Word

variable {w : Text} (hne : w ≠ []) (hletters : ∀ c ∈ w, c.isAlpha = true)

include hletters

theorem not_mem_word_append {d : Char} (hd : d.isAlpha = false) {v : Text} (hv : d ∉ v) :
    d ∉ w ++ v := by
  intro h
  rcases List.mem_append.1 h with h | h
  · exact ne_of_isAlpha (hletters d h) hd rfl
  · exact hv h

theorem isLine_announcement : Text.IsLine (w ++ [':', ':']) := by
  refine ⟨not_mem_word_append hletters rfl (by decide),
    not_mem_word_append hletters rfl (by decide), fun c hc => ?_⟩
  rw [List.getLast?_append] at hc
  cases hc
  exact isWhite_colon

/-- A word and a colon are plain text. -/
theorem inlineNodes_announcement (registry : Registry) (line : Nat) :
    inlineNodes registry (w ++ [':']) line = .ok [.text (w ++ [':'])] := by
  have hback : '\\' ∉ w ++ [':'] := not_mem_word_append hletters rfl (by decide)
  have hmeant : Text.meant (w ++ [':']) = w ++ [':'] :=
    meant_eq_self hback (not_mem_word_append hletters rfl (by decide))
  have hinert : Inert none (Text.escape (w ++ [':'])) := by
    rw [Text.escape_eq_self hback]
    refine Inert.append (fun c hc => isOpeningMark_eq_false_of_isAlpha (hletters c hc))
      (fun previous => .cons ?_ (.nil _)) none
    -- The colon opens no role name, since nothing follows it.
    rw [constructAfter?]
    exact ite_self none
  rw [inlineNodes_of_inert registry hinert (by simp [hmeant]) line, hmeant]

include hne

theorem isBlank_announcement : isBlank (w ++ [':', ':']) = false := by
  obtain ⟨c, r, rfl⟩ := List.exists_cons_of_ne_nil hne
  rw [isBlank, List.cons_append, List.all_cons,
    isWhite_eq_false_of_isAlpha (hletters c (List.mem_cons_self ..)), Bool.false_and]

theorem indentation_announcement : indentation (w ++ [':', ':']) = 0 := by
  obtain ⟨c, r, rfl⟩ := List.exists_cons_of_ne_nil hne
  have hspace : c ≠ ' ' := ne_of_isAlpha (hletters c (List.mem_cons_self ..)) rfl
  simp [indentation, hspace]

theorem isExplicit_announcement : isExplicit (w ++ [':', ':']) = false := by
  obtain ⟨c, r, rfl⟩ := List.exists_cons_of_ne_nil hne
  cases h : isExplicit (c :: r ++ [':', ':']) with
  | false => rfl
  | true =>
    obtain ⟨t, ht⟩ := exists_of_isExplicit h
    exact absurd (List.cons.inj ht).1 (ne_of_isAlpha (hletters c (List.mem_cons_self ..)) rfl)

theorem literalAnnouncement_word :
    literalAnnouncement (w ++ [':', ':']) = (w ++ [':'], true) :=
  literalAnnouncement_append hne fun hlast =>
    ne_of_isAlpha (hletters _ (List.mem_of_getLast? hlast)) rfl rfl

theorem paragraphBlocks_announcement (p : Parser) (offset : Nat) :
    p.paragraphBlocks offset [w ++ [':', ':']] =
      .ok [.paragraph (offset + 1) [.text (w ++ [':'])]] := by
  have htext : literalAnnouncement (Text.ofLines [w ++ [':', ':']]) = (w ++ [':'], true) :=
    literalAnnouncement_word hne hletters
  rw [Parser.paragraphBlocks, htext, if_neg (by simp),
    inlineNodes_announcement hletters p.registry (offset + 1)]
  rfl

end Word

/-- A word that announces a literal block, a blank line, and lines moved to the right. -/
def literalSource (w : Text) (n : Nat) (ls : List Text) : Text :=
  Text.ofLines ((w ++ [':', ':']) :: [] :: ls.map (indentBy n))

/-- Reading the source gives the lines that it was made of. -/
theorem normalLines_literalSource {w : Text} (hletters : ∀ c ∈ w, c.isAlpha = true) (n : Nat)
    {ls : List Text} (hls : ∀ l ∈ ls, Text.IsLine l) (hne : ls ≠ []) (hend : Text.EndsFilled ls) :
    Text.normalLines (literalSource w n ls) = (w ++ [':', ':']) :: [] :: ls.map (indentBy n) := by
  refine Text.normalLines_ofLines (fun l hl => ?_) fun hlast => ?_
  · rcases List.mem_cons.1 hl with rfl | hl
    · exact isLine_announcement hletters
    · rcases List.mem_cons.1 hl with rfl | hl
      · exact Text.isLine_nil
      · obtain ⟨x, hx, rfl⟩ := List.mem_map.1 hl
        exact Text.isLine_indentBy (hls x hx)
  · have hfilled : Text.EndsFilled ([w ++ [':', ':'], []] ++ ls.map (indentBy n)) :=
      (hend.map_indentBy n).append (by simpa using hne)
    cases hfilled [] hlast

namespace Parser

/-- **What is in a literal block is kept and not read.** Below a word with two colons and a blank line,
lines moved to the right are one literal block that holds them out of their margin, whatever they
would mean elsewhere and whatever directives and roles are known. -/
theorem parse_literalSource (p : Parser) {w : Text} (hne : w ≠ [])
    (hletters : ∀ c ∈ w, c.isAlpha = true) {n : Nat} (hn : 1 ≤ n) {ls : List Text}
    (hls : ∀ l ∈ ls, Text.IsLine l) {first : Text} (hfirst : ls.head? = some first)
    (hb : isBlank first = false) (hend : Text.EndsFilled ls) :
    p.parse (literalSource w n ls) =
      .ok ⟨[.paragraph 1 [.text (w ++ [':'])],
        .ofText "literal_block" (Text.ofLines (Text.dropMargin ls))]⟩ := by
  obtain ⟨below, rfl⟩ := List.head?_eq_some_iff.1 hfirst
  have hannounces : announcesLiteral [w ++ [':', ':']] = true :=
    congrArg Prod.snd (literalAnnouncement_word hne hletters)
  have hblank : isBlank (indentBy n first) = false := by rw [Text.isBlank_indentBy, hb]
  have hindented : 0 < indentation (indentBy n first) := by
    rw [Text.indentation_indentBy n (Text.ne_nil_of_not_isBlank hb)]
    omega
  rw [parse_eq_ok_iff, normalLines_literalSource hletters n hls (by simp) hend, List.map_cons,
    blocks_announced (isBlank_announcement hne hletters) (indentation_announcement hne hletters)
      (isExplicit_announcement hne hletters) hannounces hblank hindented
      (continuesBlock_of_mem_map_indentBy hn below) (hend.map_indentBy n),
    paragraphBlocks_announcement hne hletters, ← List.map_cons, literalBlock,
    Text.dropMargin_map_indentBy]
  rfl

/-- Lines that look like a directive, a role without an end, emphasis and another announcement. -/
def markupLines : List Text := [" .. image::", "", ":no:`role", "    *x::"]

theorem parse_literalSource_markup :
    ("Code".toList ≠ [] ∧ (∀ c ∈ "Code".toList, c.isAlpha = true) ∧ 1 ≤ 3 ∧
      (∀ l ∈ markupLines, Text.IsLine l) ∧ markupLines.head? = some " .. image::".toList ∧
      isBlank " .. image::" = false ∧ Text.EndsFilled markupLines) ∧
    parse ⟨.empty, { fileText := fun _ => .error [] }⟩
        "Code::\n\n    .. image::\n\n   :no:`role\n       *x::" =
      .ok ⟨[.paragraph 1 [.text "Code:"],
        .ofText "literal_block" " .. image::\n\n:no:`role\n    *x::"]⟩ := by
  have hall : "Code".toList.all Char.isAlpha = true := by decide
  have hletters : ∀ c ∈ "Code".toList, c.isAlpha = true := List.all_eq_true.1 hall
  have hread : ∀ l ∈ markupLines, '\n' ∉ l ∧ '\t' ∉ l ∧ Text.trimEnd l = l := by decide
  have hls : ∀ l ∈ markupLines, Text.IsLine l := fun l hl => Text.isLine_of_trimEnd (hread l hl)
  have hend : Text.EndsFilled markupLines := by decide
  have hsource : literalSource "Code" 3 markupLines =
      "Code::\n\n    .. image::\n\n   :no:`role\n       *x::".toList := by decide
  have htext : Text.ofLines (Text.dropMargin markupLines) =
      " .. image::\n\n:no:`role\n    *x::".toList := by decide
  refine ⟨⟨by decide, hletters, by decide, hls, rfl, by decide, hend⟩, ?_⟩
  rw [← hsource, ← htext]
  exact parse_literalSource _ (by decide) hletters (by decide) hls rfl (by decide) hend

end Parser

end StructuredText

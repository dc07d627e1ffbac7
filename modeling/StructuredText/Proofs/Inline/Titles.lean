import StructuredText.Proofs.Inline.RoleText
import StructuredText.Proofs.Registry.LookUp
import StructuredText.Proofs.Role.ExplicitTitle
import StructuredText.Proofs.Text.Protection
import StructuredText.Proofs.Text.Words

/-!
# Titles and targets

A cross-reference can have any title and any target. Four characters mean something in its text: the
backslash, the backquote that would end it, and the brackets around a target. With a backslash before
each of them, a backquote or an opening bracket stands only behind a marker (`Guarded`), and such a
character is passed over both by the search for the end of the text (`isRoleContent_of_guarded`) and by
the search for the target (`Guarded.passesOver`). Dropping the markers gives the title and the target
back (`inlineNodes_titled`).
-/

namespace StructuredText

/-- The characters that mean something in the text of a cross-reference. -/
def isTitleMark (c : Char) : Bool := c ∈ ['\\', backquote, '<', '>']

/-- A title and a target, each with a backslash before the characters that would mean something. -/
def titledText (title target : Text) : Text :=
  title.protect isTitleMark ++ ' ' :: '<' :: target.protect isTitleMark ++ ['>']

/-! ## Guarded characters -/

/-- Every `d` in a text stands right behind a marker; `previous` is the character before the text. -/
inductive Guarded (d : Char) : Option Char → Text → Prop where
  | nil (previous : Option Char) : Guarded d previous []
  | cons {previous : Option Char} {c : Char} {t : Text} (hc : c = d → previous = some escapeMarker)
    (ht : Guarded d (some c) t) : Guarded d previous (c :: t)

namespace Guarded

variable {d : Char}

theorem of_not_mem {t : Text} (h : d ∉ t) (previous : Option Char) : Guarded d previous t := by
  induction t generalizing previous with
  | nil => exact .nil previous
  | cons c t ih =>
    rw [List.mem_cons, not_or] at h
    exact .cons (fun hc => absurd hc.symm h.1) (ih h.2 (some c))

theorem append {u v : Text} {previous : Option Char} (hu : Guarded d previous u)
    (hv : ∀ previous, Guarded d previous v) : Guarded d previous (u ++ v) := by
  induction hu with
  | nil previous => exact hv previous
  | cons hc _ ih => exact .cons hc ih

/-- A special character of a protected text is guarded. -/
theorem protectWith {special : Char → Bool} (hd : special d = true) (hmarker : escapeMarker ≠ d)
    (t : Text) (previous : Option Char) :
    Guarded d previous (Text.protectWith escapeMarker special t) := by
  induction t generalizing previous with
  | nil => exact .nil previous
  | cons c t ih =>
    cases hc : special c with
    | true =>
      rw [Text.protectWith_special hc]
      exact .cons (fun h => absurd h hmarker) (.cons (fun _ => rfl) (ih (some c)))
    | false =>
      rw [Text.protectWith_plain hc]
      refine .cons (fun h => ?_) (ih (some c))
      rw [h, hd] at hc
      cases hc

end Guarded

/-! ## The end of the text -/

/-- Behind a marker a backquote ends nothing, so that the first one that ends the text is the one
behind it. -/
theorem interpretedEnd?_of_guarded {previous : Char} {x : Text}
    (h : Guarded backquote (some previous) x) (hclose : mayClose (x.getLastD previous) = true) :
    interpretedEnd? true previous (x ++ [backquote]) = some (x, .plain, []) := by
  induction x generalizing previous with
  | nil =>
    have hend : (backquote = backquote && mayClose previous) = true := by
      rw [List.getLastD_nil] at hclose
      simp [hclose]
    rw [List.nil_append, interpretedEnd?, if_pos hend]
    rfl
  | cons c x ih =>
    obtain - | ⟨hc, hx⟩ := h
    have hno : ¬(c = backquote && mayClose previous) = true := by
      intro hcontra
      rw [Bool.and_eq_true, decide_eq_true_eq] at hcontra
      cases hc hcontra.1
      cases hcontra.2
    rw [List.getLastD_cons] at hclose
    rw [List.cons_append, interpretedEnd?, if_neg hno, ih hx hclose]
    rfl

/-- **Text whose backquotes are guarded is read as a whole.** -/
theorem isRoleContent_of_guarded {content : Text} (hb : Text.BeginsWord content)
    (h : Guarded backquote none content)
    (hclose : ∀ c, content.getLast? = some c → mayClose c = true) : IsRoleContent content := by
  obtain ⟨c, x, rfl, hc⟩ := hb
  obtain - | ⟨hquote, hx⟩ := h
  have hfirst : ¬(isWhite c || c = backquote) = true := by
    rw [hc, Bool.false_or, decide_eq_true_eq]
    intro hcontra
    cases hquote hcontra
  have hlast : mayClose (x.getLastD c) = true := by
    refine hclose _ ?_
    rw [List.getLast?_cons, List.getLastD_eq_getLast?]
  rw [IsRoleContent, List.cons_append, interpreted?, if_neg hfirst,
    interpretedEnd?_of_guarded hx hlast]
  rfl

/-! ## The target -/

/-- The search for a target looks for the same marker. -/
theorem Guarded.passesOver {previous : Option Char} {x : Text} (h : Guarded '<' previous x) :
    PassesOver previous x := by
  induction h with
  | nil previous => exact passesOver_nil previous
  | cons hc _ ih =>
    rw [passesOver_cons_iff]
    exact ⟨fun hopen => .inr (hc hopen), ih⟩

/-- **A title whose opening brackets are guarded is told from the target behind it.** -/
theorem explicitTitle?_titled {x : Text} (h : Guarded '<' none x) (hb : Text.BeginsWord x)
    (ht : Text.Trimmed x) (v : Text) :
    explicitTitle? (x ++ ' ' :: '<' :: v ++ ['>']) = some (x, v) := by
  have hread := explicitTitle?_spaces hb.ne_nil ht h.passesOver (k := 1)
    (fun hk => absurd hk Nat.one_ne_zero) v
  rw [List.append_assoc x] at hread
  exact hread

/-! ## Cross-references -/

theorem interpret_reference {registry : Registry} {i : Interpreted}
    (h : registry.role? i.name = some .reference) :
    interpret registry i = .ok [Role.keptReference i] := by
  rw [interpret, h]
  rfl

theorem escape_titledText (title target : Text) :
    Text.escape (titledText title target) =
      Text.protectWith escapeMarker isTitleMark title ++
        ' ' :: '<' :: Text.protectWith escapeMarker isTitleMark target ++ ['>'] := by
  have hspace : ' ' ≠ '\\' := by decide
  have hopen : '<' ≠ '\\' := by decide
  rw [titledText, Text.escape_append_of_not_mem _ (by decide),
    Text.escape_protect_append (by decide), Text.escape_cons_plain hspace,
    Text.escape_cons_plain hopen, Text.escape_protect (by decide)]

theorem guarded_title {d : Char} (hd : isTitleMark d = true) (t : Text) (previous : Option Char) :
    Guarded d previous (Text.protectWith escapeMarker isTitleMark t) := by
  refine Guarded.protectWith hd ?_ t previous
  rintro rfl
  cases hd

theorem unescape_title {t : Text} (h : escapeMarker ∉ t) :
    Text.unescape (Text.protectWith escapeMarker isTitleMark t) = t :=
  Text.unescape_protectWith (by decide) (by decide) h

theorem not_mem_protect_title {t : Text} (h : escapeMarker ∉ t) :
    escapeMarker ∉ t.protect isTitleMark := fun hmem =>
  (Text.mem_of_mem_protectWith hmem).elim (by decide) h

theorem beginsWord_title {title : Text} (h : Text.BeginsWord title) :
    Text.BeginsWord (Text.protectWith escapeMarker isTitleMark title) :=
  h.protectWith isWhite_nul

theorem trimmed_title {title : Text} (h : Text.Trimmed title) :
    Text.Trimmed (Text.protectWith escapeMarker isTitleMark title) := by
  rw [Text.Trimmed, Text.getLast?_protectWith]
  exact h

theorem not_mem_titledText {title target : Text} (hnul : escapeMarker ∉ title)
    (hnul' : escapeMarker ∉ target) : escapeMarker ∉ titledText title target := by
  have hchars : escapeMarker ∉ [' ', '<', '>'] := by decide
  simp only [List.mem_cons, List.not_mem_nil, or_false, not_or] at hchars
  simp [titledText, not_mem_protect_title hnul, not_mem_protect_title hnul', hchars]

theorem isRoleContent_title {title : Text} (hb : Text.BeginsWord title) (ht : Text.Trimmed title)
    (hnul : escapeMarker ∉ title) : IsRoleContent (Text.escape (title.protect isTitleMark)) := by
  rw [Text.escape_protect (by decide)]
  refine isRoleContent_of_guarded (beginsWord_title hb) (guarded_title (by decide) title none)
    fun c hc => ?_
  rw [Text.getLast?_protectWith] at hc
  have hmarker : c ≠ escapeMarker := fun h => hnul (h ▸ List.mem_of_getLast? hc)
  simp [mayClose, ht c hc, hmarker]

theorem isRoleContent_titledText {title : Text} (hb : Text.BeginsWord title) (target : Text) :
    IsRoleContent (Text.escape (titledText title target)) := by
  rw [escape_titledText]
  refine isRoleContent_of_guarded (((beginsWord_title hb).append _).append _) ?_ fun c hc => ?_
  · refine ((guarded_title (by decide) title none).append fun previous => ?_).append fun previous =>
      Guarded.of_not_mem (by decide) previous
    exact .cons (fun h => absurd h (by decide)) (.cons (fun h => absurd h (by decide))
      (guarded_title (by decide) target _))
  -- The text ends with the closing bracket.
  · rw [List.getLast?_concat, Option.some.injEq] at hc
    rw [← hc]
    decide

section Titles

variable (registry : Registry) {name : Text} (hname : IsRoleName name)
  (hrole : registry.role? name = some .reference) {title : Text} (hb : Text.BeginsWord title)
  (ht : Text.Trimmed title) (hnul : escapeMarker ∉ title)

include hname hrole hb ht hnul

/-- A title alone is title and target in one. -/
theorem inlineNodes_title (line : Nat) :
    inlineNodes registry (roleText name (title.protect isTitleMark)) line =
      .ok [.crossReference (roleText name (title.protect isTitleMark)) (lowercase name) false title
        title] := by
  have hsplit := explicitTitle?_eq_none (guarded_title (d := '<') (by decide) title none).passesOver
  rw [inlineNodes_roleText hname registry (not_mem_protect_title hnul)
    (isRoleContent_title hb ht hnul), interpret_reference hrole, Text.escape_protect (by decide)]
  simp only [Role.keptReference, hsplit, unescape_title hnul]

/-- A title and a target. -/
theorem inlineNodes_titled {target : Text} (hnul' : escapeMarker ∉ target) (line : Nat) :
    inlineNodes registry (roleText name (titledText title target)) line =
      .ok [.crossReference (roleText name (titledText title target)) (lowercase name) true target
        title] := by
  have hsplit := explicitTitle?_titled (guarded_title (d := '<') (by decide) title none)
    (beginsWord_title hb) (trimmed_title ht) (Text.protectWith escapeMarker isTitleMark target)
  rw [inlineNodes_roleText hname registry (not_mem_titledText hnul hnul')
    (isRoleContent_titledText hb target), interpret_reference hrole, escape_titledText]
  simp only [Role.keptReference, hsplit, unescape_title hnul, unescape_title hnul']

end Titles

/-- **Every title and every target can be written.** A role that keeps cross-references gives back the
title and the target, if each has a backslash before the characters that would mean something; without
a target, the title is both. -/
theorem inlineNodes_crossReference (registry : Registry) {name : Text} (hname : IsRoleName name)
    (hrole : registry.role? name = some .reference) {title : Text} (hb : Text.BeginsWord title)
    (ht : Text.Trimmed title) (hnul : escapeMarker ∉ title) {target : Text}
    (hnul' : escapeMarker ∉ target) (line : Nat) :
    inlineNodes registry (roleText name (titledText title target)) line =
        .ok [.crossReference (roleText name (titledText title target)) (lowercase name) true target
          title] ∧
      inlineNodes registry (roleText name (title.protect isTitleMark)) line =
        .ok [.crossReference (roleText name (title.protect isTitleMark)) (lowercase name) false title
          title] :=
  ⟨inlineNodes_titled registry hname hrole hb ht hnul hnul' line,
    inlineNodes_title registry hname hrole hb ht hnul line⟩

/-- A registry with one role, which keeps cross-references. -/
def referenceRegistry : Registry := Registry.empty.registerRole "py:ref" .reference

/-- A title with brackets, a backquote and a backslash before a space, and a target that ends in a
backslash. -/
theorem inlineNodes_crossReference_brackets :
    (IsRoleName "Py:Ref" ∧ referenceRegistry.role? "Py:Ref" = some .reference ∧
      Text.BeginsWord "<a\\ `b> <c>" ∧ Text.Trimmed "<a\\ `b> <c>" ∧
      escapeMarker ∉ "<a\\ `b> <c>".toList ∧ escapeMarker ∉ "x> `\\".toList) ∧
    inlineNodes referenceRegistry
        ":Py:Ref:`\\<a\\\\ \\`b\\> \\<c\\> <x\\> \\`\\\\>`" 1 =
      .ok [.crossReference ":Py:Ref:`\\<a\\\\ \\`b\\> \\<c\\> <x\\> \\`\\\\>`" "py:ref" true
        "x> `\\" "<a\\ `b> <c>"] ∧
    inlineNodes referenceRegistry ":Py:Ref:`\\<a\\\\ \\`b\\> \\<c\\>`" 1 =
      .ok [.crossReference ":Py:Ref:`\\<a\\\\ \\`b\\> \\<c\\>`" "py:ref" false
        "<a\\ `b> <c>" "<a\\ `b> <c>"] := by
  have hname : IsRoleName "Py:Ref" := by decide
  have hlower : lowercase "Py:Ref" = "py:ref" := by decide +kernel
  have hrole : referenceRegistry.role? "Py:Ref" = some .reference := by
    refine Registry.lookUp_eq_some_iff.2 (.registered ?_)
    rw [hlower, referenceRegistry, Registry.registerRole, NameTable.find?_insert,
      if_pos (by decide +kernel)]
  have hb : Text.BeginsWord "<a\\ `b> <c>" := ⟨'<', _, rfl, by decide⟩
  have ht : Text.Trimmed "<a\\ `b> <c>" := by
    intro c hc
    cases hc
    decide
  have hnul : escapeMarker ∉ "<a\\ `b> <c>".toList := by decide
  have hnul' : escapeMarker ∉ "x> `\\".toList := by decide
  have h := inlineNodes_crossReference referenceRegistry hname hrole hb ht hnul hnul' 1
  rw [hlower] at h
  exact ⟨⟨hname, hrole, hb, ht, hnul, hnul'⟩, h⟩

end StructuredText

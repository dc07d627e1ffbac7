import StructuredText.Proofs.Text.Layout
import StructuredText.Role.ExplicitTitle

/-!
# What is read as a title and a target

The search for a target looks at one character before each opening bracket. It passes over a text if
every bracket in it is the first character of all or stands right behind a marker (`PassesOver`), and it
finds the first bracket that it does not pass over (`openBracket?_eq_some_iff`). So a text gives a title
and a target exactly if it consists of a head that is passed over, the bracket, the target and a closing
bracket (`explicitTitle?_eq_some_iff`), and it does so in one way only (`IsTitled.unique`). The title is
the head without the white space at its end, if that leaves anything; so the number of spaces that
separate title and target makes no difference (`explicitTitle?_spaces`).
-/

namespace StructuredText

/-! ## The search for the bracket -/

/-- Whether the search for a target passes over a text: every opening bracket in it is the first
character of all or stands right behind a marker; `previous` is the character before the text. -/
def PassesOver (previous : Option Char) (t : Text) : Prop :=
  ∀ before after, t = before ++ '<' :: after →
    before.getLast?.or previous = none ∨ before.getLast?.or previous = some escapeMarker

theorem passesOver_nil (previous : Option Char) : PassesOver previous [] := by
  intro before after h
  simp at h

theorem getLast?_cons_or (c : Char) (t : Text) (previous : Option Char) :
    (c :: t).getLast?.or previous = t.getLast?.or (some c) := by
  rw [List.getLast?_cons]
  cases t.getLast? with
  | none => rfl
  | some d => rfl

/-- The first character is looked at with the one before the text, the others with the one before
them. -/
theorem passesOver_cons_iff {previous : Option Char} {c : Char} {t : Text} :
    PassesOver previous (c :: t) ↔
      (c = '<' → previous = none ∨ previous = some escapeMarker) ∧ PassesOver (some c) t := by
  constructor
  · intro h
    constructor
    · intro hc
      exact h [] t (by rw [hc]; rfl)
    · intro before after ht
      have hstep := h (c :: before) after (by rw [ht]; rfl)
      rw [getLast?_cons_or] at hstep
      exact hstep
  · intro h before after heq
    cases before with
    | nil =>
      rw [List.nil_append, List.cons.injEq] at heq
      exact h.1 heq.1
    | cons d before =>
      rw [List.cons_append, List.cons.injEq] at heq
      rw [getLast?_cons_or, ← heq.1]
      exact h.2 before after heq.2

instance instDecidablePassesOver :
    (previous : Option Char) → (t : Text) → Decidable (PassesOver previous t)
  | previous, [] => isTrue (passesOver_nil previous)
  | _, c :: t =>
    have := instDecidablePassesOver (some c) t
    decidable_of_iff' _ passesOver_cons_iff

/-- **The search finds the first bracket that it does not pass over.** -/
theorem openBracket?_eq_some_iff {previous : Option Char} {t head rest : Text} :
    openBracket? previous t = some (head, rest) ↔
      t = head ++ '<' :: rest ∧ PassesOver previous head ∧
        head.getLast?.or previous ≠ none ∧ head.getLast?.or previous ≠ some escapeMarker := by
  induction t generalizing previous head with
  | nil =>
    constructor
    · intro h
      cases h
    · intro h
      simp at h
  | cons c t ih =>
    rw [openBracket?]
    by_cases hopen : c = '<' ∧ previous ≠ none ∧ previous ≠ some escapeMarker
    · rw [if_pos hopen]
      constructor
      · intro h
        cases h
        exact ⟨by rw [hopen.1]; rfl, passesOver_nil previous, hopen.2⟩
      · intro h
        obtain ⟨heq, hpass, -⟩ := h
        cases head with
        | nil =>
          rw [List.nil_append, List.cons.injEq] at heq
          rw [heq.2]
        | cons d head =>
          rw [List.cons_append, List.cons.injEq] at heq
          rcases (passesOver_cons_iff.1 hpass).1 (heq.1.symm.trans hopen.1) with hnone | hmarker
          · exact absurd hnone hopen.2.1
          · exact absurd hmarker hopen.2.2
    · rw [if_neg hopen]
      constructor
      · intro h
        obtain ⟨⟨head', rest'⟩, hp, heq⟩ := Option.map_eq_some_iff.1 h
        rw [Prod.mk.injEq] at heq
        obtain ⟨rfl, rfl⟩ := heq
        obtain ⟨rfl, hpass, hlast⟩ := ih.1 hp
        rw [getLast?_cons_or]
        refine ⟨rfl, passesOver_cons_iff.2 ⟨?_, hpass⟩, hlast⟩
        intro hc
        apply Decidable.byContradiction
        intro hno
        rw [not_or] at hno
        exact hopen ⟨hc, hno⟩
      · intro h
        obtain ⟨heq, hpass, hlast⟩ := h
        cases head with
        | nil =>
          rw [List.nil_append, List.cons.injEq] at heq
          exact absurd ⟨heq.1, hlast⟩ hopen
        | cons d head =>
          rw [List.cons_append, List.cons.injEq] at heq
          obtain ⟨rfl, ht⟩ := heq
          rw [getLast?_cons_or] at hlast
          rw [ih.2 ⟨ht, (passesOver_cons_iff.1 hpass).2, hlast⟩]
          rfl

/-! ## The title -/

/-- What is the title in the text before a target. -/
inductive IsTitle (head : Text) : Text → Prop where
  /-- The text without the white space at its end. -/
  | trimmed {title spaces : Text} (heq : head = title ++ spaces)
      (hspaces : ∀ c ∈ spaces, isWhite c = true) (hne : title ≠ []) (hlast : Text.Trimmed title) :
      IsTitle head title
  /-- The first character, where all characters are white space. -/
  | first {c : Char} {spaces : Text} (heq : head = c :: spaces)
      (hblank : ∀ d ∈ head, isWhite d = true) : IsTitle head [c]

/-- White space behind a title does not belong to it. -/
theorem titleOf_append {title spaces : Text} (hne : title ≠ []) (hlast : Text.Trimmed title)
    (hspaces : ∀ c ∈ spaces, isWhite c = true) : titleOf (title ++ spaces) = title := by
  have hfilled : ¬Text.isBlank (title ++ spaces) = true := by
    intro hblank
    rw [Text.isBlank, List.all_append, Bool.and_eq_true] at hblank
    exact hne (hlast.eq_nil_of_isBlank hblank.1)
  rw [titleOf, if_neg hfilled, Text.trimEnd_append_white hspaces, Text.trimEnd_eq_self hlast]

theorem isTitle_iff {head title : Text} (hne : head ≠ []) :
    IsTitle head title ↔ title = titleOf head := by
  constructor
  · intro h
    cases h with
    | trimmed heq hspaces htitle hlast => rw [heq, titleOf_append htitle hlast hspaces]
    | first heq hblank =>
      have hall : Text.isBlank head = true := List.all_eq_true.2 hblank
      rw [titleOf, if_pos hall, heq]
      rfl
  · intro h
    subst h
    unfold titleOf
    by_cases hblank : Text.isBlank head = true
    · rw [if_pos hblank]
      obtain ⟨c, spaces, rfl⟩ := List.exists_cons_of_ne_nil hne
      exact .first rfl (List.all_eq_true.1 hblank)
    · rw [if_neg hblank]
      obtain ⟨spaces, heq, hspaces⟩ := Text.exists_trimEnd_append head
      refine .trimmed heq (List.all_eq_true.1 hspaces) ?_ fun c hc => Text.isWhite_getLast_trimEnd hc
      intro hnil
      rw [hnil, List.nil_append] at heq
      rw [← heq] at hspaces
      exact hblank hspaces

/-! ## Title and target -/

/-- Whether a text consists of a head, a target in brackets behind it, and nothing else: the head is
not empty and does not end with a marker, and every opening bracket in it is its first character or
stands right behind a marker. -/
structure IsTitled (text head target : Text) : Prop where
  eq : text = head ++ '<' :: target ++ ['>']
  ne_nil : head ≠ []
  last_ne : head.getLast? ≠ some escapeMarker
  brackets : ∀ before after, head = before ++ '<' :: after →
    before = [] ∨ before.getLast? = some escapeMarker

theorem passesOver_none_iff {t : Text} :
    PassesOver none t ↔ ∀ before after, t = before ++ '<' :: after →
      before = [] ∨ before.getLast? = some escapeMarker := by
  simp only [PassesOver, Option.or_none, List.getLast?_eq_none_iff]

theorem isTitled_iff {text head target : Text} :
    IsTitled text head target ↔ text = head ++ '<' :: target ++ ['>'] ∧
      openBracket? none (head ++ '<' :: target) = some (head, target) := by
  rw [openBracket?_eq_some_iff, Option.or_none, passesOver_none_iff, ne_eq,
    List.getLast?_eq_none_iff]
  constructor
  · intro h
    exact ⟨h.eq, rfl, h.brackets, h.ne_nil, h.last_ne⟩
  · intro h
    obtain ⟨heq, -, hbrackets, hne, hlast⟩ := h
    exact ⟨heq, hne, hlast, hbrackets⟩

/-- **A text has one head and one target at most.** -/
theorem IsTitled.unique {text head head' target target' : Text} (h : IsTitled text head target)
    (h' : IsTitled text head' target') : head = head' ∧ target = target' := by
  obtain ⟨heq, hfind⟩ := isTitled_iff.1 h
  obtain ⟨heq', hfind'⟩ := isTitled_iff.1 h'
  have hinner : head ++ '<' :: target = head' ++ '<' :: target' :=
    List.append_cancel_right (heq.symm.trans heq')
  rw [hinner, hfind', Option.some.injEq, Prod.mk.injEq] at hfind
  exact ⟨hfind.1.symm, hfind.2.symm⟩

/-- **Which texts give a title and a target.** -/
theorem explicitTitle?_eq_some_iff {text title target : Text} :
    explicitTitle? text = some (title, target) ↔
      ∃ head, IsTitled text head target ∧ title = titleOf head := by
  unfold explicitTitle?
  constructor
  · intro h
    split at h
    · cases h
    · next inner hinner =>
      obtain ⟨⟨head, rest⟩, hfind, heq⟩ := Option.map_eq_some_iff.1 h
      rw [Prod.mk.injEq] at heq
      obtain ⟨rfl, rfl⟩ := heq
      have hsplit := (openBracket?_eq_some_iff.1 hfind).1
      have htext := Text.eq_append_of_before? hinner
      rw [hsplit] at hfind htext
      exact ⟨head, isTitled_iff.2 ⟨htext, hfind⟩, rfl⟩
  · intro h
    obtain ⟨head, htitled, rfl⟩ := h
    obtain ⟨rfl, hfind⟩ := isTitled_iff.1 htitled
    rw [Text.before?_append]
    dsimp only
    rw [hfind]
    rfl

/-- A text whose brackets are all passed over has no target. -/
theorem explicitTitle?_eq_none {text : Text} (h : PassesOver none text) :
    explicitTitle? text = none := by
  rw [Option.eq_none_iff_forall_not_mem]
  intro p hp
  obtain ⟨head, htitled, -⟩ := explicitTitle?_eq_some_iff.1 hp
  have heq := htitled.eq
  rw [List.append_assoc] at heq
  rcases passesOver_none_iff.1 h head _ heq with hnil | hmarker
  · exact htitled.ne_nil hnil
  · exact htitled.last_ne hmarker

/-- White space adds no bracket. -/
theorem PassesOver.append_white {previous : Option Char} {t spaces : Text}
    (h : PassesOver previous t) (hspaces : ∀ c ∈ spaces, isWhite c = true) :
    PassesOver previous (t ++ spaces) := by
  have hopen : '<' ∉ spaces := by
    intro hmem
    have hwhite := hspaces _ hmem
    revert hwhite
    decide
  intro before after heq
  rcases List.append_eq_append_iff.1 heq with ⟨u, rfl, hu⟩ | ⟨u, rfl, hu⟩
  · exact absurd (hu ▸ List.mem_append_right u (List.mem_cons_self ..)) hopen
  · cases u with
    | nil =>
      rw [List.nil_append] at hu
      exact absurd (hu ▸ List.mem_cons_self ..) hopen
    | cons d u =>
      rw [List.cons_append, List.cons.injEq] at hu
      exact h before u (by rw [hu.1])

/-- **A title is told from the target behind it**, however many spaces are between them. -/
theorem explicitTitle?_spaces {title : Text} (hne : title ≠ []) (hlast : Text.Trimmed title)
    (hpass : PassesOver none title) {k : Nat}
    (hmarker : k = 0 → title.getLast? ≠ some escapeMarker) (target : Text) :
    explicitTitle? (title ++ List.replicate k ' ' ++ '<' :: target ++ ['>']) =
      some (title, target) := by
  have hspaces : ∀ c ∈ List.replicate k ' ', isWhite c = true := by
    intro c hc
    rw [List.eq_of_mem_replicate hc]
    exact isWhite_space
  refine explicitTitle?_eq_some_iff.2 ⟨title ++ List.replicate k ' ', ⟨rfl, ?_, ?_, ?_⟩,
    (titleOf_append hne hlast hspaces).symm⟩
  · intro hnil
    exact hne (List.append_eq_nil_iff.1 hnil).1
  · intro hend
    cases k with
    | zero =>
      rw [List.replicate_zero, List.append_nil] at hend
      exact hmarker rfl hend
    | succ k =>
      rw [List.replicate_succ', ← List.append_assoc, List.getLast?_concat] at hend
      revert hend
      decide
  · exact passesOver_none_iff.1 (hpass.append_white hspaces)

/-- **Title and target are read by this grammar.** A text gives a title and a target exactly if it has a
head with the target in brackets behind it; then it has one such head and one such target only, and the
title is what the head says. So a title that says nothing by its own brackets is read back from any number
of spaces and any target. -/
theorem explicitTitle?_eq_some_iff_isTitled (text : Text) :
    (∀ title target, explicitTitle? text = some (title, target) ↔
      ∃ head, IsTitled text head target ∧ IsTitle head title) ∧
    (∀ head target, IsTitled text head target →
      (∃! title, IsTitle head title) ∧
        ∀ head' target', IsTitled text head' target' → head = head' ∧ target = target') ∧
    ∀ (title target : Text) (k : Nat), title ≠ [] → Text.Trimmed title →
      title.getLast? ≠ some escapeMarker →
      (∀ before after, title = before ++ '<' :: after →
        before = [] ∨ before.getLast? = some escapeMarker) →
      explicitTitle? (title ++ List.replicate k ' ' ++ '<' :: target ++ ['>']) =
        some (title, target) := by
  refine ⟨fun title target => ?reads, fun head target htitled => ⟨?title, ?unique⟩, ?spaces⟩
  case reads =>
    rw [explicitTitle?_eq_some_iff]
    constructor
    · intro h
      obtain ⟨head, htitled, heq⟩ := h
      exact ⟨head, htitled, (isTitle_iff htitled.ne_nil).2 heq⟩
    · intro h
      obtain ⟨head, htitled, htitle⟩ := h
      exact ⟨head, htitled, (isTitle_iff htitled.ne_nil).1 htitle⟩
  case title =>
    refine ⟨titleOf head, (isTitle_iff htitled.ne_nil).2 rfl, ?_⟩
    intro title htitle
    exact (isTitle_iff htitled.ne_nil).1 htitle
  case unique =>
    intro head' target' htitled'
    exact htitled.unique htitled'
  case spaces =>
    intro title target k hne hlast hmarker hbrackets
    exact explicitTitle?_spaces hne hlast (passesOver_none_iff.2 hbrackets) (fun _ => hmarker) target

/-- A title that begins with a bracket and has another behind a marker, two spaces, and a target with
brackets. -/
theorem explicitTitle?_eq_some_iff_isTitled_brackets :
    explicitTitle? "<a\x00<b  <x> <y>" = some ("<a\x00<b".toList, "x> <y".toList) ∧
      ∀ head target, IsTitled "<a\x00<b  <x> <y>" head target →
        head = "<a\x00<b  ".toList ∧ target = "x> <y".toList := by
  have htitled : IsTitled "<a\x00<b  <x> <y>" "<a\x00<b  " "x> <y" :=
    ⟨by decide, by decide, by decide, passesOver_none_iff.1 (by decide)⟩
  obtain ⟨-, hunique, hspaces⟩ := explicitTitle?_eq_some_iff_isTitled "<a\x00<b  <x> <y>"
  constructor
  · exact hspaces "<a\x00<b" "x> <y" 2 (by decide) (by decide) (by decide)
      (passesOver_none_iff.1 (by decide))
  · intro head target h
    obtain ⟨rfl, rfl⟩ := (hunique _ _ htitled).2 head target h
    exact ⟨rfl, rfl⟩

example : explicitTitle? " \t<b>" = some (" ".toList, "b".toList) := by decide

end StructuredText

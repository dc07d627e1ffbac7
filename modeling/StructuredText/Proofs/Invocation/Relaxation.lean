import Mathlib.Data.List.Permutation
import StructuredText.Grammar.Directives
import StructuredText.Proofs.Invocation.Division

/-!
# Opening a shape to any option

A shape that accepts only some options, or only some of their values, divides a block as the same
shape does when it accepts any option, except that it may refuse an option where the other one goes
on. `Relaxes` says so of the two runs, step by step, and `Shape.relaxes_divide` of a whole block.

Structure: the judgment `Relaxes` and how it passes through a sequence of steps (`Relaxes.bind`);
reading the fields (`relaxes_readFields`) and dividing the block; which wordings are those of a
refused option (`refusesOption_message_iff`), and the comparison in these terms
(`Shape.divide_withAnyOption_of_ne_none`).
-/

namespace StructuredText

open Text

/-! ## Two runs of which the first one may refuse an option -/

/-- How a run that may refuse options compares with one that accepts any: both give results that are
related by `R`, or both fail alike, or the first one refuses an option, whatever becomes of the
second. -/
inductive Relaxes {α : Type} (R : α → α → Prop) : Except BlockError α → Except BlockError α → Prop
    where
  | accepted {a b : α} (h : R a b) : Relaxes R (.ok a) (.ok b)
  | failed (cause : BlockError) : Relaxes R (.error cause) (.error cause)
  | refused (cause : OptionError) (y : Except BlockError α) : Relaxes R (.error (.option cause)) y

theorem Relaxes.bind {α β : Type} {R : α → α → Prop} {S : β → β → Prop}
    {x y : Except BlockError α} {f g : α → Except BlockError β} (h : Relaxes R x y)
    (hf : ∀ a b, R a b → Relaxes S (f a) (g b)) : Relaxes S (x.bind f) (y.bind g) := by
  cases h with
  | accepted h => exact hf _ _ h
  | failed cause => exact .failed cause
  | refused cause y => exact .refused cause _

section Consequences

variable {α : Type} {R : α → α → Prop} {x y : Except BlockError α}

theorem Relaxes.of_ok (h : Relaxes R x y) {a : α} (hx : x = .ok a) : ∃ b, y = .ok b ∧ R a b := by
  cases h with
  | accepted h =>
    cases hx
    exact ⟨_, rfl, h⟩
  | failed cause => cases hx
  | refused cause y => cases hx

theorem Relaxes.of_error (h : Relaxes R x y) {cause : BlockError} (hx : x = .error cause) :
    (∃ refused, cause = .option refused) ∨ y = .error cause := by
  cases h with
  | accepted h => cases hx
  | failed cause => exact Or.inr hx
  | refused refused y =>
    cases hx
    exact Or.inl ⟨refused, rfl⟩

theorem Relaxes.of_error_right (h : Relaxes R x y) {cause : BlockError} (hy : y = .error cause) :
    x = .error cause ∨ ∃ refused, x = .error (.option refused) := by
  cases h with
  | accepted h => cases hy
  | failed cause => exact Or.inl hy
  | refused refused y => exact Or.inr ⟨refused, rfl⟩

end Consequences

/-- Two runs that have read the same names find the same duplicates, whatever the values. -/
theorem Options.insert?_cases {o o' : Options} (hnames : o.names = o'.names) (name : Text)
    (v v' : Option Text) :
    (o.insert? name v = none ∧ o'.insert? name v' = none) ∨
      ∃ p p', o.insert? name v = some p ∧ o'.insert? name v' = some p' ∧ p.names = p'.names := by
  cases h : o.insert? name v with
  | none =>
    have hmem := (o.insert?_eq_none_iff name v).1 h
    rw [hnames] at hmem
    exact Or.inl ⟨rfl, (o'.insert?_eq_none_iff name v').2 hmem⟩
  | some p =>
    cases h' : o'.insert? name v' with
    | none =>
      have hmem := (o'.insert?_eq_none_iff name v').1 h'
      rw [← hnames, ← o.insert?_eq_none_iff name v, h] at hmem
      cases hmem
    | some p' =>
      refine Or.inr ⟨p, p', rfl, rfl, ?_⟩
      rw [Options.names, Options.names, Options.entries_of_insert? h,
        Options.entries_of_insert? h', List.map_append, List.map_append]
      exact congrArg (· ++ [name]) hnames

/-- **Reading fields under a specification and reading them with any option accepted.** -/
theorem relaxes_readFields (spec : OptionSpec) {acc acc' : Options}
    (hnames : acc.names = acc'.names) (lines : List Text) :
    Relaxes (fun o o' => o.names = o'.names) (readFields spec acc lines)
      (readFields .any acc' lines) := by
  induction lines using fields_induction generalizing acc acc' with
  | nil =>
    rw [readFields_nil, readFields_nil]
    exact .accepted hnames
  | notField line below hm =>
    rw [readFields_cons_of_none _ hm, readFields_cons_of_none _ hm]
    exact .failed _
  | field line below name first hm ih =>
    rw [readFields_cons spec hm, readFields_any_cons hm]
    cases spec.convert name (fieldValue first (below.takeWhile continuesBlock)) with
    | error cause => exact .refused cause _
    | ok value =>
      dsimp only
      rcases Options.insert?_cases hnames name value
        (fieldValue first (below.takeWhile continuesBlock)) with
        ⟨h, h'⟩ | ⟨p, p', h, h', hp⟩
      · rw [h, h']
        exact .failed _
      · rw [h, h']
        exact ih hp

/-! ## A whole block -/

/-- The same parts, except that the values of the options may differ. -/
structure Parts.SameButValues (parts parts' : Parts) : Prop where
  arguments : parts.arguments = parts'.arguments
  names : parts.options.names = parts'.options.names
  content : parts.content = parts'.content
  contentOffset : parts.contentOffset = parts'.contentOffset

namespace Shape

theorem relaxes_collect (shape : Shape) (content : List Text × Nat) {o o' : Options}
    (hnames : o.names = o'.names) (arguments : List Text) :
    Relaxes Parts.SameButValues (shape.collect content o arguments)
      (shape.collect content o' arguments) := by
  unfold collect
  split
  · exact .failed _
  · exact .accepted ⟨rfl, hnames, rfl, rfl⟩

/-- **A shape that accepts options divides a block as it does when it accepts any option**, unless
it refuses an option. -/
theorem relaxes_divide {shape : Shape} (h : shape.options.acceptsOptions = true)
    (lines : List Text) (offset : Nat) :
    Relaxes Parts.SameButValues (shape.divide lines offset)
      (shape.withAnyOption.divide lines offset) := by
  rw [divide_of_acceptsOptions h, divide_withAnyOption]
  refine (relaxes_readFields shape.options rfl _).bind fun o o' hnames => ?_
  cases shape.argumentsIn (beforeFields (blockBody lines offset).1) with
  | error cause => exact .failed cause
  | ok arguments => exact shape.relaxes_collect _ hnames arguments

end Shape

/-! ## The wording of a refusal -/

/-- Whether a wording is that of an option which is unknown or has an invalid value. -/
def RefusesOption (message : String) : Prop :=
  "unknown option".toList <+: message.toList ∨ "invalid option value".toList <+: message.toList

theorem isPrefix_toList_append {a b : String} (h : a.toList <+: b.toList) (c : String) :
    a.toList <+: (b ++ c).toList := by
  rw [String.toList_append]
  exact h.trans (List.prefix_append _ _)

theorem refusesOption_option (cause : OptionError) :
    RefusesOption (BlockError.option cause).message := by
  cases cause with
  | unknown name => exact Or.inl (isPrefix_toList_append (isPrefix_toList_append (by decide) _) _)
  | invalid name value cause =>
    exact Or.inr (isPrefix_toList_append (isPrefix_toList_append (isPrefix_toList_append
      (isPrefix_toList_append (isPrefix_toList_append (by decide) _) _) _) _) _)

/-- How a wording begins decides whether it is that of a refusal, once as much is known of it as the
longer of the two beginnings has characters. -/
theorem refusesOption_append_iff {a : String} (ha : 20 ≤ a.toList.length) (b : String) :
    RefusesOption (a ++ b) ↔ RefusesOption a := by
  have hof : ∀ p : List Char, p.length ≤ 20 →
      (p <+: (a ++ b).toList ↔ p <+: a.toList) := by
    intro p hp
    rw [String.toList_append]
    refine ⟨fun h => ?_, fun h => h.trans (List.prefix_append _ _)⟩
    exact List.prefix_of_prefix_length_le h (List.prefix_append _ _) (hp.trans ha)
  rw [RefusesOption, RefusesOption, hof _ (by decide), hof _ (by decide)]

/-- The wording of a refusal begins with one of two letters. -/
theorem head?_of_refusesOption {message : String} (h : RefusesOption message) :
    message.toList.head? = some 'u' ∨ message.toList.head? = some 'i' := by
  rcases h with ⟨t, ht⟩ | ⟨t, ht⟩
  · rw [← ht, List.head?_append]
    exact Or.inl rfl
  · rw [← ht, List.head?_append]
    exact Or.inr rfl

theorem not_refusesOption_of_head? {message : String} {c : Char}
    (h : message.toList.head? = some c) (hu : c ≠ 'u') (hi : c ≠ 'i') :
    ¬RefusesOption message := by
  intro hr
  rcases head?_of_refusesOption hr with h' | h' <;> rw [h, Option.some.injEq] at h'
  · exact hu h'
  · exact hi h'

theorem head?_toList_append {a : String} {c : Char} (h : a.toList.head? = some c) (b : String) :
    (a ++ b).toList.head? = some c := by
  rw [String.toList_append, List.head?_append, h]
  rfl

/-- A number is written with a digit at its front. -/
theorem head?_toString (n : Nat) :
    ∃ c, (toString n).toList.head? = some c ∧ c.isDigit = true := by
  have htext : (toString n).toList = Nat.toDigits 10 n := Nat.toList_repr
  obtain ⟨c, t, ht⟩ := List.exists_cons_of_ne_nil (Nat.toDigits_ne_nil (n := n) (b := 10))
  have hmem : c ∈ Nat.toDigits 10 n := by
    rw [ht]
    exact List.mem_cons_self ..
  exact ⟨c, by rw [htext, ht]; rfl, Nat.isDigit_of_mem_toDigits (by decide) (by decide) hmem⟩

/-- **The wording tells a refused option from everything else that can be wrong with a block.** -/
theorem refusesOption_message_iff (e : BlockError) :
    RefusesOption e.message ↔ ∃ cause, e = .option cause := by
  constructor
  · intro h
    cases e with
    | option cause => exact ⟨cause, rfl⟩
    | tooFewArguments required supplied =>
      obtain ⟨c, hc, hdigit⟩ := head?_toString required
      have hhead := head?_toList_append (head?_toList_append (head?_toList_append hc
        " argument(s) required, ") (toString supplied)) " supplied"
      exact absurd h (not_refusesOption_of_head? hhead (by rintro rfl; cases hdigit)
        (by rintro rfl; cases hdigit))
    | tooManyArguments maximum supplied =>
      have hm : "maximum ".toList.head? = some 'm' := rfl
      have hhead := head?_toList_append (head?_toList_append (head?_toList_append
        (head?_toList_append hm (toString maximum)) " argument(s) allowed, ")
        (toString supplied)) " supplied"
      exact absurd h (not_refusesOption_of_head? hhead (by decide) (by decide))
    | notAField =>
      have hno : ¬RefusesOption "invalid option block" := by
        rw [RefusesOption]
        decide
      exact absurd h hno
    | duplicateOption name =>
      have hno : ¬RefusesOption "invalid option data: " := by
        rw [RefusesOption]
        decide
      exact absurd ((refusesOption_append_iff (by decide) _).1 h) hno
    | contentNotPermitted =>
      have hn : "no content permitted".toList.head? = some 'n' := rfl
      exact absurd h (not_refusesOption_of_head? hn (by decide) (by decide))
  · rintro ⟨cause, rfl⟩
    exact refusesOption_option cause

/-- **Opening a shape to any option takes away the refusals of options and nothing else.** For a
shape that accepts options: what it accepts, the open shape divides alike, but for the values of the
options; an error with another wording than a refusal stays the same; and an error of the open shape
is one of the shape itself, unless that refuses an option before. -/
theorem Shape.divide_withAnyOption_of_ne_none {shape : Shape} (h : shape.options ≠ .none)
    (lines : List Text) (offset : Nat) :
    (∀ parts, shape.divide lines offset = .ok parts →
      ∃ relaxed, shape.withAnyOption.divide lines offset = .ok relaxed ∧
        relaxed.arguments = parts.arguments ∧ relaxed.content = parts.content ∧
        relaxed.contentOffset = parts.contentOffset ∧
        relaxed.options.names = parts.options.names) ∧
      (∀ cause, shape.divide lines offset = .error cause → ¬RefusesOption cause.message →
        shape.withAnyOption.divide lines offset = .error cause) ∧
      (∀ cause, shape.withAnyOption.divide lines offset = .error cause →
        shape.divide lines offset = .error cause ∨
          ∃ refused, shape.divide lines offset = .error refused ∧
            RefusesOption refused.message) := by
  have haccepts : shape.options.acceptsOptions = true := by
    cases hspec : shape.options with
    | none => exact absurd hspec h
    | declared options => rfl
    | any => rfl
  have hrelaxes := relaxes_divide haccepts lines offset
  refine ⟨fun parts hok => ?_, fun cause herror hwording => ?_, fun cause herror => ?_⟩
  · obtain ⟨relaxed, hrelaxed, hsame⟩ := hrelaxes.of_ok hok
    exact ⟨relaxed, hrelaxed, hsame.arguments.symm, hsame.content.symm, hsame.contentOffset.symm,
      hsame.names.symm⟩
  · rcases hrelaxes.of_error herror with hrefused | hrelaxed
    · exact absurd ((refusesOption_message_iff cause).2 hrefused) hwording
    · exact hrelaxed
  · rcases hrelaxes.of_error_right herror with hsame | ⟨refused, hrefused⟩
    · exact Or.inl hsame
    · exact Or.inr ⟨_, hrefused, refusesOption_option refused⟩

/-- A title with a name that is left empty, and one that has twice an option which is unknown. -/
theorem divide_withAnyOption_titled :
    Shape.titled.options ≠ .none ∧
      (∃ parts relaxed, Shape.titled.divide ["Notes", ":name:"] 0 = .ok parts ∧
        Shape.titled.withAnyOption.divide ["Notes", ":name:"] 0 = .ok relaxed ∧
        relaxed.arguments = ["Notes"] ∧ relaxed.options.names = ["name"] ∧
        parts.options.value? "name" = some [] ∧ relaxed.options.value? "name" = none) ∧
      Shape.titled.withAnyOption.divide ["Notes", ":alt:", ":alt:"] 0 =
        .error (.duplicateOption "alt") ∧
      ∃ refused, Shape.titled.divide ["Notes", ":alt:", ":alt:"] 0 = .error refused ∧
        RefusesOption refused.message := by
  have htitled : Shape.titled.options ≠ .none := by decide
  have hrefused : Shape.titled.divide ["Notes", ":alt:", ":alt:"] 0 =
      .error (.option (.unknown "alt")) := by cbv
  have hduplicate : Shape.titled.withAnyOption.divide ["Notes", ":alt:", ":alt:"] 0 =
      .error (.duplicateOption "alt") := by cbv
  have hparts : Shape.titled.divide ["Notes", ":name:"] 0 =
      .ok ⟨["Notes"], ⟨[("name", some [])], by simp⟩, [], 3⟩ := by cbv
  obtain ⟨haccepted, -, -⟩ :=
    Shape.divide_withAnyOption_of_ne_none htitled ["Notes", ":name:"] 0
  obtain ⟨relaxed, hrelaxed, harguments, -, -, hnames⟩ := haccepted _ hparts
  have hvalue : Shape.titled.withAnyOption.divide ["Notes", ":name:"] 0 =
      .ok ⟨["Notes"], .flag "name", [], 3⟩ := by cbv
  obtain ⟨-, -, herror⟩ :=
    Shape.divide_withAnyOption_of_ne_none htitled ["Notes", ":alt:", ":alt:"] 0
  refine ⟨htitled, ⟨_, relaxed, hparts, hrelaxed, harguments, hnames, rfl, ?_⟩, hduplicate, ?_⟩
  · rw [hvalue, Except.ok.injEq] at hrelaxed
    rw [← hrelaxed]
    rfl
  · rcases herror _ hduplicate with hsame | hrefusal
    · rw [hrefused] at hsame
      cases hsame
    · exact hrefusal

end StructuredText

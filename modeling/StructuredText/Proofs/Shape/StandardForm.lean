import Mathlib.Data.List.DropRight
import StructuredText.Proofs.Except
import StructuredText.Proofs.List
import StructuredText.Proofs.Text.CharacterClasses
import StructuredText.Proofs.Text.Numeral
import StructuredText.Shape.OptionSpec

/-!
# Standard forms of option values

Converting the value of an option brings it into the standard form of its kind, which is said here
without reference to the conversion (`OptionKind.IsStandard`): a numeral without leading zeros, one of
the listed values in lower case, class names with single spaces between them, and so on. Every
converted value has this form (`isStandard_of_convert`) and a value that has it is left alone
(`convert_of_isStandard`), so that converting twice is converting once (`convert_idempotent`).
-/

namespace StructuredText

open Text (BeginsWord IsWord Trimmed isBlank)

/-! ## Class names -/

theorem mem_of_mem_trimHyphens {t : Text} {c : Char} (h : c ∈ trimHyphens t) : c ∈ t :=
  (List.dropWhile_suffix _).subset ((List.rdropWhile_prefix _ _).subset h)

theorem head?_trimHyphens (t : Text) : (trimHyphens t).head? ≠ some '-' := by
  intro h
  -- The end that is taken off does not reach to the front.
  obtain ⟨r, hr⟩ := List.head?_eq_some_iff.1 h
  obtain ⟨u, hu⟩ := List.rdropWhile_prefix (· == '-') (t.dropWhile (· == '-'))
  have hfront : (t.dropWhile (· == '-')).head? = some '-' := by
    rw [← hu]
    exact congrArg (fun s => (s ++ u).head?) hr
  have hstop := List.head_dropWhile_stop hfront
  cases hstop

theorem getLast?_trimHyphens (t : Text) : (trimHyphens t).getLast? ≠ some '-' := by
  intro h
  have hne : trimHyphens t ≠ [] := by
    intro hnil
    rw [hnil] at h
    cases h
  rw [List.getLast?_eq_some_getLast hne, Option.some.injEq] at h
  have hlast := List.rdropWhile_last_not (· == '-') (t.dropWhile (· == '-')) hne
  exact hlast (beq_iff_eq.2 h)

theorem trimHyphens_eq_self {t : Text} (hhead : t.head? ≠ some '-')
    (hlast : t.getLast? ≠ some '-') : trimHyphens t = t := by
  have hfront : t.dropWhile (· == '-') = t := by
    cases t with
    | nil => rfl
    | cons c t =>
      have hc : ¬(c == '-') = true := by simpa using hhead
      exact List.dropWhile_cons_of_neg hc
  have hback : t.rdropWhile (· == '-') = t := by
    refine List.rdropWhile_eq_self_iff.2 fun hne hhyphen => hlast ?_
    rw [List.getLast?_eq_some_getLast hne, beq_iff_eq.1 hhyphen]
  show (t.dropWhile (· == '-')).rdropWhile (· == '-') = t
  rw [hfront, hback]

/-- A class name: letters and numbers in lower case, with hyphens inside only. -/
structure IsClassName (name : Text) : Prop where
  ne_nil : name ≠ []
  chars : ∀ c ∈ name, isAlphanumeric c = true ∨ c = '-'
  head : name.head? ≠ some '-'
  last : name.getLast? ≠ some '-'
  lower : lowercase name = name

theorem isSettled_hyphen : IsSettled '-' := by
  unfold IsSettled
  decide +kernel

theorem isClassName_className {word : Text} (h : className word ≠ []) :
    IsClassName (className word) := by
  -- Each character is one of the word in lower case, or a hyphen in its place.
  have hchars : ∀ c ∈ className word, isAlphanumeric c = true ∧ c ∈ lowercase word ∨ c = '-' := by
    intro c hc
    obtain ⟨d, hd, rfl⟩ := List.mem_map.1 (mem_of_mem_trimHyphens hc)
    split
    · next halpha => exact Or.inl ⟨halpha, hd⟩
    · exact Or.inr rfl
  constructor
  · exact h
  · intro c hc
    exact (hchars c hc).imp_left And.left
  · exact head?_trimHyphens _
  · exact getLast?_trimHyphens _
  · refine lowercase_eq_self_iff.2 fun c hc => ?_
    rcases hchars c hc with ⟨-, hmem⟩ | rfl
    · exact isSettled_of_mem_lowercaseAfter hmem
    · exact isSettled_hyphen

namespace IsClassName

variable {name : Text}

theorem isWord (h : IsClassName name) : IsWord name := by
  refine ⟨h.ne_nil, fun c hc => ?_⟩
  rcases h.chars c hc with halpha | rfl
  · rw [← Bool.not_eq_true]
    intro hwhite
    rw [isAlphanumeric_of_isWhite hwhite] at halpha
    cases halpha
  · decide

/-- A class name is made of itself. -/
theorem className_eq (h : IsClassName name) : className name = name := by
  have hkept : ∀ c ∈ name, (if isAlphanumeric c then c else '-') = c := by
    intro c hc
    rcases h.chars c hc with halpha | rfl
    · rw [if_pos halpha]
    · rw [ite_self]
  have hmap : (name.map fun c => if isAlphanumeric c then c else '-') = name :=
    (List.map_congr_left hkept).trans (List.map_id name)
  rw [className, h.lower, hmap, trimHyphens_eq_self h.head h.last]

end IsClassName

/-! ## The form of each kind -/

namespace OptionKind

/-- The values, absent or present, that have the standard form of a kind. -/
inductive IsStandard : OptionKind → Option Text → Prop where
  | flag : IsStandard .flag none
  | unchanged (v : Text) : IsStandard .unchanged (some v)
  | unchangedRequired {v : Text} (hfilled : isBlank v = false) :
      IsStandard .unchangedRequired (some v)
  /-- The decimal representation of a positive number that fits into 64 bits with sign. -/
  | positiveInt {n : Nat} (hmin : 1 ≤ n) (hmax : n ≤ 0x7fffffffffffffff) :
      IsStandard .positiveInt (some (Nat.toDigits 10 n))
  | nonNegativeInt {n : Nat} (hmax : n ≤ 0x7fffffffffffffff) :
      IsStandard .nonNegativeInt (some (Nat.toDigits 10 n))
  /-- A listed value in lower case without white space around it. -/
  | choice {values : List Text} {v : Text} (hlisted : v ∈ values) (hlower : lowercase v = v)
      (hbegin : BeginsWord v) (hend : Trimmed v) : IsStandard (.choice values) (some v)
  /-- Class names with single spaces between them, at least one. -/
  | classNames {names : List Text} (hne : names ≠ []) (h : ∀ name ∈ names, IsClassName name) :
      IsStandard .classNames (some (Text.join [' '] names))
  /-- A text without white space. -/
  | uri {v : Text} (h : IsWord v) : IsStandard .uri (some v)

variable {value w : Option Text} {v : Text} {n : Int}

theorem requireValue_eq_ok_iff : requireValue value = .ok v ↔ value = some v ∧ isBlank v = false := by
  unfold requireValue
  split
  · next u =>
    cases hb : isBlank u with
    | true =>
      rw [if_pos rfl]
      constructor
      · intro h
        cases h
      · rintro ⟨h, hv⟩
        cases h
        rw [hb] at hv
        cases hv
    | false =>
      rw [if_neg Bool.false_ne_true]
      constructor
      · intro h
        cases h
        exact ⟨rfl, hb⟩
      · rintro ⟨h, -⟩
        cases h
        rfl
  · constructor
    · intro h
      cases h
    · rintro ⟨h, -⟩
      cases h

theorem readInteger_eq_ok_iff : readInteger v = .ok n ↔ Text.integer64? (Text.trim v) = some n := by
  unfold readInteger
  split
  · next i hi =>
    rw [hi, Except.ok.injEq, Option.some.injEq]
  · next hnone =>
    rw [hnone]
    constructor
    · intro h
      cases h
    · intro h
      cases h

/-! ## Numbers

Both kinds of numbers are converted in one way, with different bounds. -/

/-- The numeral of the integer that a value denotes, or the error if the integer is less than the
bound. -/
def boundedNumeral (bound : Int) (error : ValueError) (value : Option Text) :
    Except ValueError (Option Text) :=
  (requireValue value).bind fun v => (readInteger v).bind fun n =>
    if n < bound then .error error else .ok (some (Text.ofNat n.toNat))

theorem convert_positiveInt (value : Option Text) :
    convert .positiveInt value = boundedNumeral 1 .notPositive value := rfl

theorem convert_nonNegativeInt (value : Option Text) :
    convert .nonNegativeInt value = boundedNumeral 0 .negative value := rfl

theorem exists_toDigits_of_boundedNumeral (bound : Nat) {error : ValueError}
    (h : boundedNumeral bound error value = .ok w) :
    ∃ n, bound ≤ n ∧ n ≤ 0x7fffffffffffffff ∧ w = some (Nat.toDigits 10 n) := by
  obtain ⟨v, -, h⟩ := Except.bind_eq_ok_iff.1 h
  obtain ⟨n, hn, h⟩ := Except.bind_eq_ok_iff.1 h
  obtain ⟨-, -, hmax⟩ := Text.integer64?_eq_some_iff.1 (readInteger_eq_ok_iff.1 hn)
  split at h
  · cases h
  · next hbound =>
    cases h
    refine ⟨n.toNat, by omega, by omega, ?_⟩
    rw [Text.ofNat_eq_toDigits]

/-- A numeral is read as its number, and written again. -/
theorem boundedNumeral_toDigits {bound n : Nat} (error : ValueError) (hmin : bound ≤ n)
    (hmax : n ≤ 0x7fffffffffffffff) :
    boundedNumeral bound error (some (Nat.toDigits 10 n)) = .ok (some (Nat.toDigits 10 n)) := by
  rw [← Text.ofNat_eq_toDigits]
  have hword : IsWord (Text.ofNat n) :=
    ⟨Text.ofNat_ne_nil n, fun c hc => (Text.of_mem_ofNat hc).2.1⟩
  have htrimmed : Trimmed (Text.ofNat n) := by
    intro c hc
    exact hword.noWhite c (List.mem_of_getLast? hc)
  have hread : readInteger (Text.ofNat n) = .ok (n : Int) := by
    rw [readInteger_eq_ok_iff, hword.beginsWord.trim_eq htrimmed]
    exact Text.integer64?_ofNat hmax
  refine Except.bind_eq_ok_iff.2 ⟨_, requireValue_eq_ok_iff.2 ⟨rfl, hword.beginsWord.not_isBlank⟩, ?_⟩
  refine Except.bind_eq_ok_iff.2 ⟨_, hread, ?_⟩
  rw [if_neg (by omega), Int.toNat_natCast]

/-! ## Converted values have it -/

theorem isStandard_flag (h : convert .flag value = .ok w) : IsStandard .flag w := by
  unfold convert at h
  dsimp only at h
  split at h
  · split at h
    · cases h
      exact IsStandard.flag
    · cases h
  · cases h
    exact IsStandard.flag

theorem isStandard_choice {values : List Text} (h : convert (.choice values) value = .ok w) :
    IsStandard (.choice values) w := by
  obtain ⟨v, hv, h⟩ := Except.bind_eq_ok_iff.1 h
  obtain ⟨-, hfilled⟩ := requireValue_eq_ok_iff.1 hv
  dsimp only at h
  split at h
  · next hlisted =>
    cases h
    exact IsStandard.choice (List.contains_iff_mem.1 hlisted) (lowercase_lowercase _)
      (Text.beginsWord_trim hfilled).lowercase (Text.trimmed_trim v).lowercase
  · cases h

theorem isStandard_classNames (h : convert .classNames value = .ok w) :
    IsStandard .classNames w := by
  obtain ⟨v, hv, h⟩ := Except.bind_eq_ok_iff.1 h
  obtain ⟨-, hfilled⟩ := requireValue_eq_ok_iff.1 hv
  dsimp only at h
  split at h
  · cases h
  · next hnone =>
    cases h
    have hne : (Text.words v).map className ≠ [] := by
      intro hnil
      exact Text.words_ne_nil hfilled (List.map_eq_nil_iff.1 hnil)
    refine IsStandard.classNames hne fun name hname => ?_
    obtain ⟨word, -, rfl⟩ := List.mem_map.1 hname
    refine isClassName_className ?_
    intro hnil
    rw [hnil] at hname
    exact hnone (List.contains_iff_mem.2 hname)

theorem isStandard_uri (h : convert .uri value = .ok w) : IsStandard .uri w := by
  obtain ⟨v, hv, h⟩ := Except.bind_eq_ok_iff.1 h
  obtain ⟨-, hfilled⟩ := requireValue_eq_ok_iff.1 hv
  cases h
  have hword : ∀ word ∈ Text.words v, IsWord word := fun _ hmem => Text.isWord_of_mem_words hmem
  refine IsStandard.uri ⟨?_, ?_⟩
  · intro hnil
    obtain ⟨word, words, hwords⟩ := List.exists_cons_of_ne_nil (Text.words_ne_nil hfilled)
    have hmem : word ∈ Text.words v := by
      rw [hwords]
      exact List.mem_cons_self ..
    exact (hword word hmem).ne_nil (List.flatten_eq_nil_iff.1 hnil word hmem)
  · intro c hc
    obtain ⟨word, hmem, hc⟩ := List.mem_flatten.1 hc
    exact (hword word hmem).noWhite c hc

/-- **Converting brings a value into the standard form of its kind.** -/
theorem isStandard_of_convert {kind : OptionKind} (h : kind.convert value = .ok w) :
    kind.IsStandard w := by
  cases kind with
  | flag => exact isStandard_flag h
  | unchanged =>
    cases h
    exact IsStandard.unchanged _
  | unchangedRequired =>
    obtain ⟨v, hv, h⟩ := Except.bind_eq_ok_iff.1 h
    cases h
    exact IsStandard.unchangedRequired (requireValue_eq_ok_iff.1 hv).2
  | positiveInt =>
    rw [convert_positiveInt] at h
    obtain ⟨n, hmin, hmax, rfl⟩ := exists_toDigits_of_boundedNumeral 1 h
    exact IsStandard.positiveInt hmin hmax
  | nonNegativeInt =>
    rw [convert_nonNegativeInt] at h
    obtain ⟨n, -, hmax, rfl⟩ := exists_toDigits_of_boundedNumeral 0 h
    exact IsStandard.nonNegativeInt hmax
  | choice values => exact isStandard_choice h
  | classNames => exact isStandard_classNames h
  | uri => exact isStandard_uri h

/-! ## Values that have it are left alone -/

theorem convert_standardChoice {values : List Text} (hlisted : v ∈ values)
    (hlower : lowercase v = v) (hbegin : BeginsWord v) (hend : Trimmed v) :
    convert (.choice values) (some v) = .ok (some v) := by
  refine Except.bind_eq_ok_iff.2 ⟨v, requireValue_eq_ok_iff.2 ⟨rfl, hbegin.not_isBlank⟩, ?_⟩
  rw [hbegin.trim_eq hend, hlower]
  exact if_pos (List.contains_iff_mem.2 hlisted)

theorem convert_standardClassNames {names : List Text} (hne : names ≠ [])
    (h : ∀ name ∈ names, IsClassName name) :
    convert .classNames (some (Text.join [' '] names)) = .ok (some (Text.join [' '] names)) := by
  have hwords : Text.words (Text.join [' '] names) = names :=
    Text.words_join fun name hname => (h name hname).isWord
  have hfilled : isBlank (Text.join [' '] names) = false := by
    rw [← Bool.not_eq_true, ← Text.words_eq_nil_iff, hwords]
    exact hne
  have hmap : names.map className = names :=
    (List.map_congr_left fun name hname => (h name hname).className_eq).trans (List.map_id names)
  refine Except.bind_eq_ok_iff.2 ⟨_, requireValue_eq_ok_iff.2 ⟨rfl, hfilled⟩, ?_⟩
  rw [hwords, hmap]
  refine if_neg fun hnil => ?_
  exact (h [] (List.contains_iff_mem.1 hnil)).ne_nil rfl

theorem convert_standardUri (h : IsWord v) : convert .uri (some v) = .ok (some v) := by
  refine Except.bind_eq_ok_iff.2 ⟨v, requireValue_eq_ok_iff.2 ⟨rfl, h.beginsWord.not_isBlank⟩, ?_⟩
  rw [Text.words_of_isWord h, List.flatten_singleton]
  rfl

/-- **Converting leaves a value alone that has the standard form of its kind.** -/
theorem convert_of_isStandard {kind : OptionKind} (h : kind.IsStandard w) :
    kind.convert w = .ok w := by
  cases h with
  | flag => rfl
  | unchanged v => rfl
  | unchangedRequired hfilled =>
    exact Except.bind_eq_ok_iff.2 ⟨_, requireValue_eq_ok_iff.2 ⟨rfl, hfilled⟩, rfl⟩
  | positiveInt hmin hmax => exact boundedNumeral_toDigits .notPositive hmin hmax
  | nonNegativeInt hmax => exact boundedNumeral_toDigits .negative (Nat.zero_le _) hmax
  | choice hlisted hlower hbegin hend => exact convert_standardChoice hlisted hlower hbegin hend
  | classNames hne hnames => exact convert_standardClassNames hne hnames
  | uri hword => exact convert_standardUri hword

end OptionKind

/-! ## Options by name -/

namespace OptionSpec

/-- Where an option is declared, its value is converted by its kind. -/
theorem convert_declared_eq_ok_iff {options : List (Text × OptionKind)} {name : Text}
    {value w : Option Text} :
    convert (.declared options) name value = .ok w ↔
      ∃ kind, kind? name options = some kind ∧ kind.convert value = .ok w := by
  unfold convert
  dsimp only
  constructor
  · intro h
    split at h
    · cases h
    · next kind hkind =>
      split at h
      · next v hv =>
        cases h
        exact ⟨kind, hkind, hv⟩
      · cases h
  · rintro ⟨kind, hkind, hw⟩
    rw [hkind]
    dsimp only
    rw [hw]

/-- **Converting is a projection onto the standard forms**: what comes out of it has the standard form
of the option's kind, and comes out again if it is converted once more, be it by the kind or by the
name of the option. -/
theorem convert_idempotent :
    (∀ (kind : OptionKind) (value w : Option Text), kind.convert value = .ok w →
      kind.convert w = .ok w ∧ kind.IsStandard w) ∧
    (∀ (spec : OptionSpec) (name : Text) (value w : Option Text),
      spec.convert name value = .ok w → spec.convert name w = .ok w) := by
  have hkind : ∀ (kind : OptionKind) (value w : Option Text), kind.convert value = .ok w →
      kind.convert w = .ok w ∧ kind.IsStandard w := by
    intro kind value w h
    have hstandard := OptionKind.isStandard_of_convert h
    exact ⟨OptionKind.convert_of_isStandard hstandard, hstandard⟩
  refine ⟨hkind, ?_⟩
  intro spec name value w h
  cases spec with
  | none => cases h
  | any =>
    cases h
    rfl
  | declared options =>
    obtain ⟨kind, hdeclared, hw⟩ := convert_declared_eq_ok_iff.1 h
    exact convert_declared_eq_ok_iff.2 ⟨kind, hdeclared, (hkind kind value w hw).1⟩

/-- Class names that are brought into standard form, which is left alone. -/
theorem convert_idempotent_class :
    convert (.declared [("class", .classNames)]) "class" (some "  Big--Note\tx_1! ") =
      .ok (some "big--note x-1") ∧
    convert (.declared [("class", .classNames)]) "class" (some "big--note x-1") =
      .ok (some "big--note x-1") := by
  have hfirst : convert (.declared [("class", .classNames)]) "class" (some "  Big--Note\tx_1! ") =
      .ok (some ("big--note x-1" : Text)) := by decide +kernel
  exact ⟨hfirst, convert_idempotent.2 _ _ _ _ hfirst⟩

end OptionSpec

end StructuredText

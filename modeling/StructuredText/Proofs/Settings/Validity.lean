import StructuredText.Proofs.Text.Lines
import StructuredText.Settings.Loading

/-!
# Valid settings

What the check of settings is about, said of the settings themselves: the default domain is a simple
name, and the plugins are listed by names that are not blank, each once (`Extensions.IsValid`). The
check goes through them in this order and tells the first violation; it finds none exactly in valid
settings (`violation?_eq_none_iff`).

What overrides make of settings is said field by field (`Overrides.Replaces`): a field that they set
has their value, and every other field keeps its own.
-/

namespace StructuredText

open Text (isBlank)

/-- The characters of simple names: the ASCII letters and digits, the hyphen and the underscore. -/
def IsSimple (c : Char) : Prop :=
  ('A' ≤ c ∧ c ≤ 'Z') ∨ ('a' ≤ c ∧ c ≤ 'z') ∨ ('0' ≤ c ∧ c ≤ '9') ∨ c = '-' ∨ c = '_'

theorem isSimpleNameChar_iff {c : Char} : isSimpleNameChar c = true ↔ IsSimple c := by
  have hupper : c.isUpper = true ↔ (65 : UInt32) ≤ c.val ∧ c.val ≤ 90 := decide_eq_true_iff
  have hlower : c.isLower = true ↔ (97 : UInt32) ≤ c.val ∧ c.val ≤ 122 :=
    Bool.and_eq_true_iff.trans (and_congr decide_eq_true_iff decide_eq_true_iff)
  have hdigit : c.isDigit = true ↔ (48 : UInt32) ≤ c.val ∧ c.val ≤ 57 :=
    Bool.and_eq_true_iff.trans (and_congr decide_eq_true_iff decide_eq_true_iff)
  have halphanum : c.isAlphanum = true ↔ (c.isUpper = true ∨ c.isLower = true) ∨ c.isDigit = true :=
    Bool.or_eq_true_iff.trans (or_congr Bool.or_eq_true_iff Iff.rfl)
  -- The bounds of the ranges are compared by their code points.
  have hsimple : IsSimple c ↔ ((65 : UInt32) ≤ c.val ∧ c.val ≤ 90) ∨
      ((97 : UInt32) ≤ c.val ∧ c.val ≤ 122) ∨ ((48 : UInt32) ≤ c.val ∧ c.val ≤ 57) ∨ c = '-' ∨
        c = '_' := Iff.rfl
  rw [isSimpleNameChar, Bool.or_eq_true, Bool.or_eq_true, beq_iff_eq, beq_iff_eq, halphanum, hupper,
    hlower, hdigit, hsimple, or_assoc, or_assoc, or_assoc]

/-- Whether a text is more than white space. -/
def IsFilled (t : Text) : Prop := ∃ c ∈ t, isWhite c = false

theorem isBlank_eq_false_iff {t : Text} : isBlank t = false ↔ IsFilled t := by
  rw [isBlank, List.all_eq_false]
  simp only [IsFilled, Bool.not_eq_true]

namespace Extensions

/-- Settings as they have to be. -/
structure IsValid (e : Extensions) : Prop where
  domain_filled : IsFilled e.defaultDomain
  domain_simple : ∀ c ∈ e.defaultDomain, IsSimple c
  plugins_filled : ∀ ps, e.plugins = some ps → ∀ p ∈ ps, IsFilled p
  plugins_nodup : ∀ ps, e.plugins = some ps → ps.Nodup

end Extensions

/-- A list of plugins passes if none is blank, none is listed twice and none was seen before. -/
theorem pluginViolation?_eq_none_iff {seen ps : List Text} :
    pluginViolation? seen ps = none ↔
      (∀ p ∈ ps, IsFilled p) ∧ ps.Nodup ∧ ∀ p ∈ ps, p ∉ seen := by
  induction ps generalizing seen with
  | nil => simp [pluginViolation?]
  | cons p ps ih =>
    rw [pluginViolation?, List.forall_mem_cons, List.forall_mem_cons, List.nodup_cons,
      ← isBlank_eq_false_iff]
    cases hb : isBlank p with
    | true => simp
    | false =>
      by_cases hseen : p ∈ seen
      · simp [hseen]
      · rw [if_neg Bool.false_ne_true, if_neg (by simpa using hseen), ih]
        simp only [List.mem_cons, not_or, true_and]
        -- That no later name is `p` is the one thing said in two ways.
        constructor
        · rintro ⟨hfilled, hnodup, hnew⟩
          exact ⟨hfilled, ⟨fun hp => (hnew p hp).1 rfl, hnodup⟩, hseen, fun q hq => (hnew q hq).2⟩
        · rintro ⟨hfilled, ⟨hp, hnodup⟩, -, hnew⟩
          exact ⟨hfilled, hnodup, fun q hq => ⟨fun e => hp (e ▸ hq), hnew q hq⟩⟩

namespace Extensions

/-- **The check finds a violation exactly in settings that are not valid.** -/
theorem violation?_eq_none_iff {e : Extensions} : e.violation? = none ↔ e.IsValid := by
  have hplugins : pluginViolation? [] (e.plugins.getD []) = none ↔
      (∀ ps, e.plugins = some ps → ∀ p ∈ ps, IsFilled p) ∧
        ∀ ps, e.plugins = some ps → ps.Nodup := by
    rw [pluginViolation?_eq_none_iff]
    cases e.plugins with
    | none => simp
    | some ps => simp
  rw [violation?]
  cases hb : isBlank e.defaultDomain with
  | true =>
    refine iff_of_false (by simp) fun h => ?_
    rw [isBlank_eq_false_iff.2 h.domain_filled] at hb
    cases hb
  | false =>
    rw [if_neg Bool.false_ne_true]
    by_cases hsimple : e.defaultDomain.all isSimpleNameChar = true
    · rw [hsimple, Bool.not_true, if_neg Bool.false_ne_true, hplugins]
      have hchars : ∀ c ∈ e.defaultDomain, IsSimple c := fun c hc =>
        isSimpleNameChar_iff.1 (List.all_eq_true.1 hsimple c hc)
      exact ⟨fun ⟨hfilled, hnodup⟩ => ⟨isBlank_eq_false_iff.1 hb, hchars, hfilled, hnodup⟩,
        fun h => ⟨h.plugins_filled, h.plugins_nodup⟩⟩
    · rw [Bool.not_eq_true] at hsimple
      refine iff_of_false (by simp [hsimple]) fun h => ?_
      have hall := List.all_eq_true.2 fun c hc => isSimpleNameChar_iff.2 (h.domain_simple c hc)
      rw [hall] at hsimple
      cases hsimple

theorem checked_eq_ok_iff {e e' : Extensions} : e.checked = .ok e' ↔ e.IsValid ∧ e' = e := by
  rw [checked_eq_ok, violation?_eq_none_iff]

end Extensions

namespace Overrides

/-- The settings `e'` are the settings `e` with each field that the overrides set replaced. -/
structure Replaces (o : Overrides) (e e' : Extensions) : Prop where
  domain_set : ∀ d, o.defaultDomain = some d → e'.defaultDomain = d
  domain_kept : o.defaultDomain = none → e'.defaultDomain = e.defaultDomain
  plugins_set : ∀ ps, o.plugins = some ps → e'.plugins = some ps
  plugins_kept : o.plugins = none → e'.plugins = e.plugins

/-- Applying overrides replaces the fields that they set. -/
theorem replaces_iff {o : Overrides} {e e' : Extensions} :
    o.Replaces e e' ↔ e' = o.applyTo e := by
  constructor
  · intro h
    have hdomain : e'.defaultDomain = o.defaultDomain.getD e.defaultDomain := by
      cases hd : o.defaultDomain with
      | none => exact h.domain_kept hd
      | some d => exact h.domain_set d hd
    have hplugins : e'.plugins = o.plugins.or e.plugins := by
      cases hp : o.plugins with
      | none => exact h.plugins_kept hp
      | some ps => exact h.plugins_set ps hp
    rw [applyTo, ← hdomain, ← hplugins]
  · rintro rfl
    exact ⟨fun d hd => by rw [applyTo, hd]; rfl, fun hd => by rw [applyTo, hd]; rfl,
      fun ps hp => by rw [applyTo, hp]; rfl, fun hp => by rw [applyTo, hp]; rfl⟩

end Overrides

end StructuredText

import StructuredText.Proofs.Block.DirectiveMarker
import StructuredText.Proofs.List

/-!
# The grammar of directive markers

A name is made of runs of word characters with single separators between them (`IsName`), and a line
begins a directive if it is made up of two dots, spaces, a name, at most one more space, two colons
and what may follow them (`BeginsDirective`). Neither says how a line is read. That reading finds
exactly what the grammar allows (`directiveMarker?_eq_some_iff`) needs care at the colons, which may
separate two runs as well as end the marker; and since reading gives one result, a line begins a
directive in at most one way (`BeginsDirective.unique`).
-/

namespace StructuredText

/-! ## Names by their runs -/

/-- A run of a name: word characters other than the underscore, at least one of them. -/
structure IsRun (r : Text) : Prop where
  ne_nil : r ≠ []
  chars : ∀ c ∈ r, isWordChar c = true ∧ c ≠ '_'

/-- Names: runs with single separators between them. -/
inductive IsName : Text → Prop where
  | run {r : Text} (h : IsRun r) : IsName r
  | join {r t : Text} {separator : Char} (h : IsRun r)
      (hseparator : separator ∈ ['-', '.', '_', '+', ':']) (ht : IsName t) :
      IsName (r ++ separator :: t)

theorem isNameChar_iff {c : Char} : isNameChar c = true ↔ isWordChar c = true ∧ c ≠ '_' := by
  rw [isNameChar, Bool.and_eq_true, decide_eq_true_iff]

theorem isNameSeparator_iff {c : Char} :
    isNameSeparator c = true ↔ c ∈ ['-', '.', '_', '+', ':'] := by
  simp [isNameSeparator, or_assoc]

/-- A run in front of the rest of a name that goes on behind it. -/
theorem IsRun.nameRest {r : Text} (h : IsRun r) {t : Text} (ht : NameRest true t)
    (inRun : Bool) : NameRest inRun (r ++ t) := by
  obtain ⟨hne, hchars⟩ := h
  induction r generalizing inRun with
  | nil => exact absurd rfl hne
  | cons c r ih =>
    obtain ⟨hc, hr⟩ := List.forall_mem_cons.1 hchars
    refine NameRest.char (isNameChar_iff.2 hc) ?_
    by_cases hnil : r = []
    · rw [hnil]
      exact ht
    · exact ih true hnil hr

theorem IsName.isDirectiveName {name : Text} (h : IsName name) : IsDirectiveName name := by
  induction h with
  | @run r h =>
    have hrest := h.nameRest NameRest.done false
    rwa [List.append_nil] at hrest
  | join h hseparator _ ih =>
    exact h.nameRest (NameRest.separator (isNameSeparator_iff.2 hseparator) ih) false

/-- What stands of a name completes the part of a run that has been read before it. -/
theorem NameRest.isName {inRun : Bool} {t : Text} (h : NameRest inRun t) {r : Text}
    (hchars : ∀ c ∈ r, isWordChar c = true ∧ c ≠ '_') (hr : inRun = true → r ≠ [])
    (hnil : inRun = false → r = []) : IsName (r ++ t) := by
  induction h generalizing r with
  | done =>
    rw [List.append_nil]
    exact IsName.run ⟨hr rfl, hchars⟩
  | @char inRun c t hc _ ih =>
    have hsnoc : ∀ x ∈ r ++ [c], isWordChar x = true ∧ x ≠ '_' := by
      intro x hx
      rcases List.mem_append.1 hx with hx | hx
      · exact hchars x hx
      · rw [List.mem_singleton.1 hx]
        exact isNameChar_iff.1 hc
    have hname := ih hsnoc (fun _ => by simp) (fun h => by cases h)
    rwa [List.append_assoc] at hname
  | separator hc _ ih =>
    have hname := ih (r := []) (by simp) (fun h => by cases h) (fun _ => rfl)
    exact IsName.join ⟨hr rfl, hchars⟩ (isNameSeparator_iff.1 hc) hname

theorem isDirectiveName_iff {name : Text} : IsDirectiveName name ↔ IsName name := by
  constructor
  · intro h
    exact NameRest.isName h (r := []) (by simp) (fun h => by cases h) (fun _ => rfl)
  · exact IsName.isDirectiveName

/-! ## Spaces -/

theorem exists_eq_replicate_append_dropSpaces (t : Text) :
    ∃ k, t = List.replicate k ' ' ++ dropSpaces t := by
  induction t with
  | nil => exact ⟨0, rfl⟩
  | cons c t ih =>
    by_cases hc : c = ' '
    · obtain ⟨k, hk⟩ := ih
      refine ⟨k + 1, ?_⟩
      rw [hc, List.replicate_succ, List.cons_append]
      exact congrArg _ hk
    · refine ⟨0, ?_⟩
      rw [dropSpaces_of_head_ne (by simpa using hc)]
      rfl

theorem head?_dropSpaces (t : Text) : (dropSpaces t).head? ≠ some ' ' := by
  intro h
  have hstop := List.head_dropWhile_stop h
  simp at hstop

theorem dropSpaces_replicate_append (k : Nat) {t : Text} (h : t.head? ≠ some ' ') :
    dropSpaces (List.replicate k ' ' ++ t) = t := by
  induction k with
  | zero => exact dropSpaces_of_head_ne h
  | succ k ih =>
    rw [List.replicate_succ, List.cons_append]
    exact ih

/-! ## Lines -/

/-- What may stand behind the colons: nothing, or spaces and then the text of the directive. -/
inductive EndsMarker : Text → Text → Prop where
  | nothing : EndsMarker [] []
  | spaces (k : Nat) {first : Text} (h : first.head? ≠ some ' ') :
      EndsMarker (List.replicate (k + 1) ' ' ++ first) first

/-- A line begins a directive: two dots, spaces, a name, at most one more space, two colons and the
text of the directive. -/
def BeginsDirective (line name first : Text) : Prop :=
  ∃ k gap after,
    line = ['.', '.'] ++ List.replicate (k + 1) ' ' ++ name ++ gap ++ [':', ':'] ++ after ∧
      IsName name ∧ (gap = [] ∨ gap = [' ']) ∧ EndsMarker after first

theorem afterColons?_eq_some_iff {t first : Text} :
    afterColons? t = some first ↔ EndsMarker t first := by
  constructor
  · intro h
    unfold afterColons? at h
    split at h
    · cases h
      exact EndsMarker.nothing
    · next c t =>
      split at h
      · next hc =>
        cases h
        obtain ⟨k, hk⟩ := exists_eq_replicate_append_dropSpaces t
        have hends := EndsMarker.spaces k (head?_dropSpaces t)
        rwa [List.replicate_succ, List.cons_append, ← hk, ← hc] at hends
      · cases h
  · intro h
    cases h with
    | nothing => rfl
    | spaces k hfirst =>
      rw [List.replicate_succ, List.cons_append, afterColons?, if_pos rfl,
        dropSpaces_replicate_append k hfirst]

theorem terminator?_eq_some_iff {t first : Text} :
    terminator? t = some first ↔
      ∃ gap after, t = gap ++ [':', ':'] ++ after ∧ (gap = [] ∨ gap = [' ']) ∧
        EndsMarker after first := by
  constructor
  · intro h
    obtain ⟨after, rfl | rfl, hafter⟩ := terminator?_cases h
    · exact ⟨[], after, rfl, Or.inl rfl, afterColons?_eq_some_iff.1 hafter⟩
    · exact ⟨[' '], after, rfl, Or.inr rfl, afterColons?_eq_some_iff.1 hafter⟩
  · rintro ⟨gap, after, rfl, rfl | rfl, hafter⟩
    · exact afterColons?_eq_some_iff.2 hafter
    · exact afterColons?_eq_some_iff.2 hafter

theorem directiveName?_eq_some_iff {t name first : Text} :
    directiveName? false t = some (name, first) ↔
      IsDirectiveName name ∧ ∃ after, t = name ++ after ∧ terminator? after = some first := by
  constructor
  · exact of_directiveName?
  · rintro ⟨hname, after, rfl, hafter⟩
    exact directiveName?_append hname hafter

/-- **Reading a marker finds exactly what the grammar allows.** -/
theorem directiveMarker?_eq_some_iff {line name first : Text} :
    directiveMarker? line = some (name, first) ↔ BeginsDirective line name first := by
  constructor
  · intro h
    unfold directiveMarker? at h
    split at h
    · next t =>
      obtain ⟨hname, after, ht, hafter⟩ := directiveName?_eq_some_iff.1 h
      obtain ⟨gap, after, rfl, hgap, hends⟩ := terminator?_eq_some_iff.1 hafter
      obtain ⟨k, hk⟩ := exists_eq_replicate_append_dropSpaces t
      refine ⟨k, gap, after, ?_, isDirectiveName_iff.1 hname, hgap, hends⟩
      rw [hk, ht, List.replicate_succ]
      simp
    · cases h
  · rintro ⟨k, gap, after, rfl, hname, hgap, hends⟩
    have hname := isDirectiveName_iff.2 hname
    have hline : ['.', '.'] ++ List.replicate (k + 1) ' ' ++ name ++ gap ++ [':', ':'] ++ after =
        '.' :: '.' :: ' ' :: (List.replicate k ' ' ++ (name ++ (gap ++ [':', ':'] ++ after))) := by
      simp [List.replicate_succ]
    rw [hline, directiveMarker?,
      dropSpaces_replicate_append k (NameRest.head_ne_space hname _)]
    exact directiveName?_append hname (terminator?_eq_some_iff.2 ⟨gap, after, rfl, hgap, hends⟩)

theorem directiveMarker?_eq_none_iff {line : Text} :
    directiveMarker? line = none ↔ ∀ name first, ¬BeginsDirective line name first := by
  constructor
  · intro h name first hbegins
    rw [directiveMarker?_eq_some_iff.2 hbegins] at h
    cases h
  · intro h
    cases hmarker : directiveMarker? line with
    | none => rfl
    | some m => exact absurd (directiveMarker?_eq_some_iff.1 hmarker) (h m.1 m.2)

/-- A line begins a directive in at most one way. -/
theorem BeginsDirective.unique {line name first name' first' : Text}
    (h : BeginsDirective line name first) (h' : BeginsDirective line name' first') :
    name = name' ∧ first = first' := by
  have hsame := directiveMarker?_eq_some_iff.2 h
  rw [directiveMarker?_eq_some_iff.2 h'] at hsame
  cases hsame
  exact ⟨rfl, rfl⟩

end StructuredText

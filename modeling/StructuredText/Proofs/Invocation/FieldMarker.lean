import StructuredText.Invocation.FieldMarker
import StructuredText.Proofs.Text.Words

/-!
# Field markers, written and read

`fieldMarker?_eq_some_iff` says which lines are fields and what is read from them: a colon, a field
name, a colon, and nothing or a space and the value. From it follows that a field is read back where
it was written (`fieldMarker?_field`), and that what is read from a line could have been written. As a
grammar of lines (`IsFieldOf`) fields are unambiguous (`IsFieldOf.unique`).
-/

namespace StructuredText

/-- The name of a field: not empty, without a space at either end, and without a colon that a space
follows. -/
structure IsFieldName (name : Text) : Prop where
  ne_nil : name ≠ []
  noColonSpace : ¬ [':', ' '] <:+: name
  head_ne : name.head? ≠ some ' '
  last_ne : name.getLast? ≠ some ' '

/-- Whether the text after a field's second colon leaves the field as it is: the line ends there, or
a space follows. -/
def EndsField (tail : Text) : Prop := tail = [] ∨ tail.head? = some ' '

theorem fieldName?_append {name tail : Text} (h : ¬ [':', ' '] <:+: name) (ht : EndsField tail) :
    fieldName? (name ++ ':' :: tail) = some (name, tail) := by
  induction name with
  | nil => rw [List.nil_append, fieldName?, if_pos ⟨rfl, ht⟩]
  | cons c name ih =>
    rw [List.infix_cons_iff, not_or] at h
    -- No colon of the name has a space behind it, so that the reading goes on.
    have hstop : ¬(c = ':' ∧
        (name ++ ':' :: tail = [] ∨ (name ++ ':' :: tail).head? = some ' ')) := by
      rintro ⟨rfl, hnil | hspace⟩
      · simp at hnil
      · cases name with
        | nil => simp at hspace
        | cons d name =>
          rw [List.cons_append, List.head?_cons, Option.some.injEq] at hspace
          subst hspace
          exact h.1 ⟨name, rfl⟩
    rw [List.cons_append, fieldName?, if_neg hstop, ih h.2]
    rfl

theorem of_fieldName? {t name tail : Text} (h : fieldName? t = some (name, tail)) :
    t = name ++ ':' :: tail ∧ EndsField tail ∧ ¬ [':', ' '] <:+: name := by
  induction t generalizing name with
  | nil => cases h
  | cons c t ih =>
    rw [fieldName?] at h
    split at h
    · next hc =>
      cases h
      exact ⟨by rw [hc.1]; rfl, hc.2, by simp⟩
    · next hc =>
      obtain ⟨⟨name', tail'⟩, hp, he⟩ := Option.map_eq_some_iff.1 h
      simp only [Prod.mk.injEq] at he
      obtain ⟨rfl, rfl⟩ := he
      obtain ⟨rfl, htail, hno⟩ := ih hp
      refine ⟨rfl, htail, ?_⟩
      rw [List.infix_cons_iff, not_or]
      refine ⟨?_, hno⟩
      -- A colon and a space at the front would have ended the name there.
      rintro ⟨rest, hrest⟩
      rw [List.cons_append, List.cons_append, List.cons.injEq] at hrest
      exact hc ⟨hrest.1.symm, Or.inr (by rw [← hrest.2]; rfl)⟩

theorem fieldMarker?_cons_colon (body : Text) :
    fieldMarker? (':' :: body) = match fieldName? body with
      | some (name, tail) =>
        if name = [] ∨ name.head? = some ' ' ∨ name.getLast? = some ' ' then none
        else some (name, Text.trimStart tail)
      | none => none := rfl

theorem fieldMarker?_of_head_ne {line : Text} (h : line.head? ≠ some ':') :
    fieldMarker? line = none := by
  unfold fieldMarker?
  split
  · exact absurd rfl h
  · rfl

/-- **Which lines are fields.** -/
theorem fieldMarker?_eq_some_iff {line name first : Text} :
    fieldMarker? line = some (name, first) ↔
      ∃ tail, line = ':' :: (name ++ ':' :: tail) ∧ IsFieldName name ∧ EndsField tail ∧
        first = Text.trimStart tail := by
  constructor
  · intro h
    by_cases hhead : line.head? = some ':'
    · obtain ⟨body, rfl⟩ := List.head?_eq_some_iff.1 hhead
      rw [fieldMarker?_cons_colon] at h
      split at h
      · next name' tail hname =>
        split at h
        · cases h
        · next hok =>
          cases h
          rw [not_or, not_or] at hok
          obtain ⟨rfl, htail, hno⟩ := of_fieldName? hname
          exact ⟨tail, rfl, ⟨hok.1, hno, hok.2.1, hok.2.2⟩, htail, rfl⟩
      · cases h
    · rw [fieldMarker?_of_head_ne hhead] at h
      cases h
  · rintro ⟨tail, rfl, hname, htail, rfl⟩
    rw [fieldMarker?_cons_colon, fieldName?_append hname.noColonSpace htail]
    have hok : ¬(name = [] ∨ name.head? = some ' ' ∨ name.getLast? = some ' ') := by
      rw [not_or, not_or]
      exact ⟨hname.ne_nil, hname.head_ne, hname.last_ne⟩
    dsimp only
    rw [if_neg hok]

/-- The head of an option's written form: the name between colons. -/
def fieldHead (name : Text) : Text := ':' :: (name ++ [':'])

theorem fieldHead_ne_nil (name : Text) : fieldHead name ≠ [] := by simp [fieldHead]

theorem isBlank_fieldHead (name t : Text) : Text.isBlank (fieldHead name ++ t) = false := by
  simp [fieldHead, Text.isBlank, isWhite_colon]

theorem indentation_fieldHead (name t : Text) : Text.indentation (fieldHead name ++ t) = 0 := by
  simp [fieldHead, Text.indentation]

/-- A field without a value is read back. -/
theorem fieldMarker?_fieldHead {name : Text} (h : IsFieldName name) :
    fieldMarker? (fieldHead name) = some (name, []) :=
  fieldMarker?_eq_some_iff.2 ⟨[], rfl, h, Or.inl rfl, rfl⟩

/-- A field is read back where it was written. -/
theorem fieldMarker?_field {name first : Text} (h : IsFieldName name)
    (hf : Text.trimStart first = first) :
    fieldMarker? (fieldHead name ++ ' ' :: first) = some (name, first) := by
  refine fieldMarker?_eq_some_iff.2 ⟨' ' :: first, ?_, h, Or.inr rfl, ?_⟩
  · simp [fieldHead]
  · rw [Text.trimStart_cons_white isWhite_space, hf]

theorem isField_of_fieldMarker? {line : Text} {p : Text × Text} (h : fieldMarker? line = some p) :
    isField line = true := by
  rw [isField, h]
  rfl

/-! ## The grammar of fields -/

/-- Whether a line is the field of this name, with `tail` after its second colon. -/
structure IsFieldOf (line name tail : Text) : Prop where
  eq : line = ':' :: (name ++ ':' :: tail)
  isFieldName : IsFieldName name
  endsField : EndsField tail

/-- A line is a field in one way at most: a second colon further on would stand behind a space that
follows the first one. -/
theorem IsFieldOf.unique {line name name' tail tail' : Text} (h : IsFieldOf line name tail)
    (h' : IsFieldOf line name' tail') : name = name' ∧ tail = tail' := by
  have hread := fieldName?_append h.isFieldName.noColonSpace h.endsField
  have hread' := fieldName?_append h'.isFieldName.noColonSpace h'.endsField
  have heq : name ++ ':' :: tail = name' ++ ':' :: tail' :=
    List.tail_eq_of_cons_eq (h.eq.symm.trans h'.eq)
  rw [heq, hread', Option.some.injEq, Prod.mk.injEq] at hread
  exact ⟨hread.1.symm, hread.2.symm⟩

/-- **The field marker recognises the grammar of fields and nothing else.** It reads the name between
the two colons, and the text behind them without the white space at its front; a line has one name and
one such text at most. So every name is read back from the field that is written with it, and every
value that does not begin with white space, the empty one included. -/
theorem fieldMarker?_eq_some_iff_isFieldOf (line : Text) :
    (∀ name rest, fieldMarker? line = some (name, rest) ↔
      ∃ tail, IsFieldOf line name tail ∧ rest = Text.trimStart tail) ∧
    (∀ name name' tail tail', IsFieldOf line name tail → IsFieldOf line name' tail' →
      name = name' ∧ tail = tail') ∧
    ∀ name value, IsFieldName name → (∀ c, value.head? = some c → isWhite c = false) →
      fieldMarker? (':' :: (name ++ ':' :: ' ' :: value)) = some (name, value) := by
  refine ⟨?_, ?_, ?_⟩
  · intro name rest
    rw [fieldMarker?_eq_some_iff]
    constructor
    · intro h
      obtain ⟨tail, heq, hname, htail, hrest⟩ := h
      exact ⟨tail, ⟨heq, hname, htail⟩, hrest⟩
    · intro h
      obtain ⟨tail, ⟨heq, hname, htail⟩, hrest⟩ := h
      exact ⟨tail, heq, hname, htail, hrest⟩
  · intro name name' tail tail' h h'
    exact h.unique h'
  · intro name value hname hvalue
    have hline : fieldHead name ++ ' ' :: value = ':' :: (name ++ ':' :: ' ' :: value) := by
      simp [fieldHead]
    rw [← hline]
    exact fieldMarker?_field hname (Text.trimStart_eq_self hvalue)

/-- Colons in the name, at its end too, and in the value. -/
theorem fieldMarker?_eq_some_iff_isFieldOf_colons :
    (IsFieldOf ":a::b:: x: y" "a::b:" " x: y" ∧ IsFieldName "a::b:" ∧
      ∀ c, ("x: y" : Text).head? = some c → isWhite c = false) ∧
    fieldMarker? ":a::b:: x: y" = some ("a::b:".toList, "x: y".toList) ∧
    fieldMarker? (':' :: ("a::b:".toList ++ ':' :: ' ' :: "x: y".toList)) =
      some ("a::b:".toList, "x: y".toList) := by
  have hname : IsFieldName "a::b:" := ⟨by decide, by decide, by decide, by decide⟩
  have hfield : IsFieldOf ":a::b:: x: y" "a::b:" " x: y" := ⟨rfl, hname, Or.inr rfl⟩
  have hvalue : ∀ c, ("x: y" : Text).head? = some c → isWhite c = false := by
    intro c hc
    cases hc
    decide
  obtain ⟨hiff, -, hwritten⟩ := fieldMarker?_eq_some_iff_isFieldOf ":a::b:: x: y"
  exact ⟨⟨hfield, hname, hvalue⟩, (hiff _ _).2 ⟨" x: y", hfield, rfl⟩, hwritten _ _ hname hvalue⟩

/-- A name that ends with a space is no name, even where another colon follows. -/
example : fieldMarker? ":a : b:" = none := rfl

end StructuredText

import StructuredText.Inline.RoleMarker
import StructuredText.Inline.Segment

/-!
# Role names, written and read

`IsRoleName` is the grammar of role names. Reading a name goes as far as the grammar allows and comes
back where the closing colon looked like a separator. It finds only names of the grammar
(`isRoleName_of_roleMarker?`), and such a name is found again between its own colons
(`IsRoleName.roleMarker?_colons`); so these are the names there are (`isRoleName_iff`).
-/

namespace StructuredText

/-- What may stand of a role name from some place in it on; `inRun` says whether a run of letters and
digits goes on there. -/
inductive RoleNameRest : (inRun : Bool) → Text → Prop where
  | done : RoleNameRest true []
  | char {inRun : Bool} {c : Char} {t : Text} (hc : isAsciiAlphanumeric c = true)
    (ht : RoleNameRest true t) : RoleNameRest inRun (c :: t)
  | separator {c : Char} {t : Text} (hc : isRoleSeparator c = true) (ht : RoleNameRest false t) :
    RoleNameRest true (c :: t)

/-- The names of roles: runs of letters and digits with single separators between them. -/
def IsRoleName (name : Text) : Prop := RoleNameRest false name

theorem isAsciiAlphanumeric_eq_false_of_separator {c : Char} (h : isRoleSeparator c = true) :
    isAsciiAlphanumeric c = false := by
  simp only [isRoleSeparator, Bool.or_eq_true, beq_iff_eq] at h
  rcases h with (((rfl | rfl) | rfl) | rfl) | rfl
  · decide
  · decide
  · decide
  · decide
  · decide

theorem roleName?_char (inRun : Bool) {c : Char} (hc : isAsciiAlphanumeric c = true) (t : Text) :
    roleName? inRun (c :: t) = (roleName? true t).map fun p => (c :: p.1, p.2) := by
  rw [roleName?, if_pos hc]

theorem roleName?_separator {c : Char} (hc : isRoleSeparator c = true) (t : Text) :
    roleName? true (c :: t) = ((roleName? false t).map fun p => (c :: p.1, p.2)).or
      (if c = ':' then some ([], t) else none) := by
  rw [roleName?, isAsciiAlphanumeric_eq_false_of_separator hc, if_neg Bool.false_ne_true, hc,
    Bool.and_self, if_pos rfl]

namespace RoleNameRest

theorem roleName?_eq {inRun : Bool} {name : Text} (h : RoleNameRest inRun name) :
    roleName? inRun (name ++ [':']) = some (name, []) := by
  induction h with
  | done => rfl
  | char hc _ ih =>
    rw [List.cons_append, roleName?_char _ hc, ih]
    rfl
  | separator hc _ ih =>
    rw [List.cons_append, roleName?_separator hc, ih]
    rfl

/-- A name has no characters but those of the grammar. -/
theorem not_mem {inRun : Bool} {name : Text} (h : RoleNameRest inRun name) {c : Char}
    (halphanumeric : isAsciiAlphanumeric c = false) (hseparator : isRoleSeparator c = false) :
    c ∉ name := by
  induction h with
  | done => exact List.not_mem_nil
  | @char _ d _ hd _ ih =>
    have hne : c ≠ d := ne_of_apply_ne isAsciiAlphanumeric (by simp [halphanumeric, hd])
    exact List.not_mem_cons_of_ne_of_not_mem hne ih
  | @separator d _ hd _ ih =>
    have hne : c ≠ d := ne_of_apply_ne isRoleSeparator (by simp [hseparator, hd])
    exact List.not_mem_cons_of_ne_of_not_mem hne ih

theorem of_roleName? {inRun : Bool} {t name rest : Text}
    (h : roleName? inRun t = some (name, rest)) : RoleNameRest inRun name := by
  induction t generalizing inRun name with
  | nil => cases h
  | cons c t ih =>
    rw [roleName?] at h
    split at h
    · next hc =>
      obtain ⟨⟨n, r⟩, hn, he⟩ := Option.map_eq_some_iff.1 h
      cases he
      exact .char hc (ih hn)
    · split at h
      · next hc =>
        rw [Bool.and_eq_true] at hc
        obtain ⟨rfl, hsep⟩ := hc
        rcases Option.or_eq_some_iff.1 h with h | ⟨-, h⟩
        · obtain ⟨⟨n, r⟩, hn, he⟩ := Option.map_eq_some_iff.1 h
          cases he
          exact .separator hsep (ih hn)
        -- The separator is the colon that closes the name.
        · split at h
          · cases h
            exact .done
          · cases h
      · cases h

end RoleNameRest

/-- **A name of the grammar is found between its own colons.** -/
theorem IsRoleName.roleMarker?_colons {name : Text} (h : IsRoleName name) :
    roleMarker? (colons name) = some (name, []) :=
  h.roleName?_eq

/-- **A name that is found is one of the grammar.** -/
theorem isRoleName_of_roleMarker? {t name rest : Text} (h : roleMarker? t = some (name, rest)) :
    IsRoleName name := by
  unfold roleMarker? at h
  split at h
  · exact .of_roleName? h
  · cases h

theorem isRoleName_iff {name : Text} :
    IsRoleName name ↔ roleMarker? (colons name) = some (name, []) :=
  ⟨IsRoleName.roleMarker?_colons, isRoleName_of_roleMarker?⟩

instance (name : Text) : Decidable (IsRoleName name) := decidable_of_iff' _ isRoleName_iff

end StructuredText

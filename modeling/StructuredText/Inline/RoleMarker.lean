import StructuredText.Text.Letters
import StructuredText.Text.Basic

/-!
# Role markers

The name of a role stands between colons, before or after the interpreted text. A name is made of
runs of ASCII letters and digits, with a single separator between two runs; since the colon is a
separator too, the longest name is taken after which there is still a closing colon.
-/

namespace StructuredText

/-- Whether a character may stand between two runs of a role name. -/
def isRoleSeparator (c : Char) : Bool :=
  c == '-' || c == '_' || c == '.' || c == ':' || c == '+'

/-- The longest role name at the start of a text that a colon follows, and what stands after that
colon; `inRun` says whether the text continues a run of the name. -/
def roleName? (inRun : Bool) : Text → Option (Text × Text)
  | [] => none
  | c :: t =>
    if isAsciiAlphanumeric c then (roleName? true t).map fun p => (c :: p.1, p.2)
    else if inRun && isRoleSeparator c then
      ((roleName? false t).map fun p => (c :: p.1, p.2)).or
        (if c = ':' then some ([], t) else none)
    else none

/-- The name between the colons at the start of a text, and what follows. -/
def roleMarker? : Text → Option (Text × Text)
  | ':' :: t => roleName? false t
  | _ => none

/-- Between the colons stands the name, and the rest follows. -/
theorem roleName?_append {inRun : Bool} {t name rest : Text}
    (h : roleName? inRun t = some (name, rest)) : t = name ++ ':' :: rest := by
  induction t generalizing inRun name rest with
  | nil => simp [roleName?] at h
  | cons c t ih =>
    unfold roleName? at h
    split at h
    · obtain ⟨⟨n, r⟩, hn, he⟩ := Option.map_eq_some_iff.1 h
      cases he
      simp [ih hn]
    · split at h
      · rcases Option.or_eq_some_iff.1 h with hl | ⟨-, hr⟩
        · obtain ⟨⟨n, r⟩, hn, he⟩ := Option.map_eq_some_iff.1 hl
          cases he
          simp [ih hn]
        · split at hr
          · next hc => cases hr; simp [hc]
          · cases hr
      · cases h

theorem roleMarker?_append {t name rest : Text} (h : roleMarker? t = some (name, rest)) :
    t = ':' :: name ++ ':' :: rest := by
  unfold roleMarker? at h
  split at h
  · next t => simp [roleName?_append h]
  · cases h

end StructuredText

import StructuredText.Proofs.Inline.SelfContained

/-!
# Text for a role

Interpreted text can be written with the name of its role before it (`roleText`). If the name is one of
the grammar and the text is not closed before its end (`IsRoleContent`), that is one occurrence of the
role, and the paragraph is what the role makes of the text (`inlineNodes_roleText`).

Text that was read for a role in a paragraph is such text, wherever the name of the role stood
(`interpreted_of_mem_segments`). Without a name before it, more can end a text than with one, namely
the marks of a phrase reference and a name behind it. So a backquote that did not end the text there
does not end it here.
-/

namespace StructuredText

/-- Interpreted text behind the name of its role. -/
def roleText (name x : Text) : Text := colons name ++ enclose [backquote] x

/-- Whether text in which escapes are marked is read up to the backquote behind it, once a role name
stands before it. -/
def IsRoleContent (content : Text) : Prop :=
  interpreted? true (content ++ [backquote]) = some (content, .plain, [])

section RoleText

variable {name : Text} (hname : IsRoleName name)

include hname

theorem not_mem_colons {c : Char} (halphanumeric : isAsciiAlphanumeric c = false)
    (hseparator : isRoleSeparator c = false) : c ∉ colons name := by
  have hcolon : c ≠ ':' := by
    rintro rfl
    cases hseparator
  have hmem : c ∉ name := RoleNameRest.not_mem hname halphanumeric hseparator
  simp [colons, hcolon, hmem]

/-- Only the text itself may have escapes. -/
theorem escape_roleText (x : Text) : Text.escape (roleText name x) = roleText name (Text.escape x) := by
  have hcolons : '\\' ∉ colons name := not_mem_colons hname rfl rfl
  have hfront : '\\' ∉ colons name ++ [backquote] := by
    rw [List.mem_append, not_or]
    exact ⟨hcolons, by decide⟩
  have hlast : (colons name ++ [backquote]).getLast? ≠ some '\\' := fun h =>
    hfront (List.mem_of_getLast? h)
  rw [roleText, roleText, enclose, enclose, List.append_assoc, ← List.append_assoc,
    Text.escape_append hlast, Text.escape_eq_self hfront,
    Text.escape_append_of_not_mem x (by decide), List.append_assoc, List.append_assoc]

/-- **A name and text for it are one occurrence of the role**, and nothing else. -/
theorem inlineNodes_roleText (registry : Registry) {x : Text} (hx : escapeMarker ∉ x)
    (hcontent : IsRoleContent (Text.escape x)) (line : Nat) :
    inlineNodes registry (roleText name x) line =
      interpret registry
        { name, rawtext := roleText name x, text := Text.escape x, line } := by
  have hmarker : roleMarker? (colons name ++ backquote :: (Text.escape x ++ [backquote])) =
      some (name, backquote :: (Text.escape x ++ [backquote])) := by
    rw [roleMarker?_append_backquote, hname.roleMarker?_colons]
    rfl
  have hconstruct : constructAfter? none (roleText name (Text.escape x)) =
      some (.interpreted (.before name) (Text.escape x), []) := construct?_named hmarker hcontent
  have hrestore : Text.restore (roleText name (Text.escape x)) = roleText name x := by
    have hmem : escapeMarker ∉ roleText name x := by
      have hquote : escapeMarker ≠ backquote := by decide
      simp [roleText, enclose, not_mem_colons hname (c := escapeMarker) rfl rfl, hx, hquote]
    rw [← escape_roleText hname, Text.restore_escape hmem]
  rw [inlineNodes, escape_roleText hname, segments, segmentsAfter_of_construct hconstruct,
    segmentsAfter, assembleFrom, Segment.assemble]
  have hraw : (Segment.interpreted (.before name) (Text.escape x)).raw =
      roleText name (Text.escape x) := rfl
  have hplace : (RolePlace.before name).name = name := rfl
  rw [hraw, hrestore, hplace]
  cases interpret registry { name, rawtext := roleText name x, text := Text.escape x, line } with
  | error e => rfl
  | ok nodes => rfl

end RoleText

/-! ## Text that was read for a role -/

/-- Where no text ends, text behind a role name does not end either. -/
theorem ending?_named_eq_none {named : Bool} {tail : Text} (h : ending? named tail = none) :
    ending? true tail = none := by
  have hplain : (if mayEnd tail then some (Ending.plain, tail) else none) = none :=
    (Option.or_eq_none_iff.1 h).2
  show Option.or none (if mayEnd tail then some (Ending.plain, tail) else none) = none
  rw [hplain]
  rfl

theorem isRoleContent_of_interpreted? {named : Bool} {t content rest : Text} {e : Ending}
    (h : interpreted? named t = some (content, e, rest)) : IsRoleContent content := by
  obtain ⟨first, t, x, -, rfl, hfirst, hx⟩ := interpreted?_eq_some h
  rw [IsRoleContent, List.cons_append, interpreted?, hfirst,
    interpretedEnd?_append_ending (fun _ => ending?_named_eq_none) hx rfl]
  rfl

/-- A name behind interpreted text is one of the grammar. -/
theorem isRoleName_of_interpreted? {t content rest name : Text}
    (h : interpreted? false t = some (content, .role name, rest)) : IsRoleName name := by
  obtain ⟨first, t, x, -, -, -, hx⟩ := interpreted?_eq_some h
  obtain ⟨tail, he⟩ := exists_ending?_of_interpretedEnd? hx
  rcases ending?_eq_some he with ⟨hplain, -⟩ | ⟨-, ⟨anonymous, hreference, -⟩ | ⟨n, hn, hread⟩⟩
  · cases hplain
  · cases hreference
  · cases hn
    exact isRoleName_of_roleMarker? hread

/-- **What is read for a role has a name of the grammar and can be written behind it.** -/
theorem isRoleContent_of_construct? {t rest content : Text} {place : RolePlace}
    (h : construct? t = some (.interpreted place content, rest)) :
    IsRoleName place.name ∧ IsRoleContent content := by
  cases construct_of_construct? h with
  | absent h => exact ⟨by decide, isRoleContent_of_interpreted? h⟩
  | after h => exact ⟨isRoleName_of_interpreted? h, isRoleContent_of_interpreted? h⟩
  | before hname h => exact ⟨isRoleName_of_roleMarker? hname, isRoleContent_of_interpreted? h⟩

/-- Between its marks, interpreted text is a marked text. -/
theorem marked_content {place : RolePlace} {content : Text}
    (h : Text.Marked (Segment.interpreted place content).raw)
    (hc : content.getLast? ≠ some escapeMarker) : Text.Marked content := by
  have henclosed : Text.Marked (enclose [backquote] content) := by
    cases place with
    | absent => exact h
    | before name =>
      exact (Text.Marked.of_append h (by rw [colons, List.getLast?_concat]; decide)).2
    | after name =>
      exact (Text.Marked.of_append h (by rw [enclose, List.getLast?_concat]; decide)).1
  exact marked_of_enclose (by decide) hc henclosed

/-- Of a text without markers, the interpreted texts can be written behind their roles' names. -/
theorem interpreted_of_mem_segments {t : Text} (ht : Text.Marked t) {place : RolePlace} {content : Text}
    (h : Segment.interpreted place content ∈ segments t) :
    IsRoleName place.name ∧ IsRoleContent content ∧ Text.Marked content := by
  rcases read_of_mem_segmentsAfter none ht _ h with ⟨c, hc⟩ | ⟨hraw, rest, hread⟩
  · cases hc
  · obtain ⟨hname, hcontent⟩ := isRoleContent_of_construct? hread
    exact ⟨hname, hcontent, marked_content hraw (inner_of_construct? hread)⟩

end StructuredText

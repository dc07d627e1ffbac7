import StructuredText.Proofs.Text.Escape
import StructuredText.Proofs.Text.Words

/-!
# Texts written with backslashes

Characters that would mean something else are written with a backslash before each of them
(`protect`). If the backslash is one of these characters, marking the escapes puts a marker in place of
every backslash that was written and touches nothing else, whatever follows (`escape_protect_append`);
dropping the markers then gives back the text (`unescape_protectWith`). So there is no text that
cannot be written.
-/

namespace StructuredText

namespace Text

/-- The text with `mark` before each special character. -/
def protectWith (mark : Char) (special : Char → Bool) : Text → Text
  | [] => []
  | c :: t =>
    if special c then mark :: c :: protectWith mark special t
    else c :: protectWith mark special t

/-- The text with a backslash before each special character. -/
def protect (special : Char → Bool) (t : Text) : Text := protectWith '\\' special t

example : protect (· == '*') "2*3 *\\" = "2\\*3 \\*\\".toList := by decide

section ProtectWith

variable {mark : Char} {special : Char → Bool}

theorem protectWith_special {c : Char} (h : special c = true) (t : Text) :
    protectWith mark special (c :: t) = mark :: c :: protectWith mark special t := by
  rw [protectWith, if_pos h]

theorem protectWith_plain {c : Char} (h : special c = false) (t : Text) :
    protectWith mark special (c :: t) = c :: protectWith mark special t := by
  rw [protectWith, if_neg (by simp [h])]

/-- Protecting brings in marks and nothing else. -/
theorem mem_of_mem_protectWith {c : Char} {t : Text} (h : c ∈ protectWith mark special t) :
    c = mark ∨ c ∈ t := by
  induction t with
  | nil => cases h
  | cons d t ih =>
    cases hd : special d with
    | true =>
      rw [protectWith_special hd, List.mem_cons, List.mem_cons] at h
      rcases h with h | rfl | h
      · exact Or.inl h
      · exact Or.inr (List.mem_cons_self ..)
      · exact (ih h).imp_right (List.mem_cons_of_mem d)
    | false =>
      rw [protectWith_plain hd, List.mem_cons] at h
      rcases h with rfl | h
      · exact Or.inr (List.mem_cons_self ..)
      · exact (ih h).imp_right (List.mem_cons_of_mem d)

/-- A mark stands before a character, so that the text ends as before. -/
theorem getLast?_protectWith (t : Text) : (protectWith mark special t).getLast? = t.getLast? := by
  induction t with
  | nil => rfl
  | cons c t ih =>
    cases hc : special c with
    | true =>
      rw [protectWith_special hc, List.getLast?_cons_cons, List.getLast?_cons, ih,
        List.getLast?_cons]
    | false => rw [protectWith_plain hc, List.getLast?_cons, ih, List.getLast?_cons]

/-- A text that begins with a word still does. -/
theorem BeginsWord.protectWith {t : Text} (h : BeginsWord t) (hmark : isWhite mark = false) :
    BeginsWord (protectWith mark special t) := by
  obtain ⟨c, t, rfl, hc⟩ := h
  cases hspecial : special c with
  | true => exact ⟨mark, _, protectWith_special hspecial t, hmark⟩
  | false => exact ⟨c, _, protectWith_plain hspecial t, hc⟩

end ProtectWith

section Escape

variable {special : Char → Bool}

/-- **Every backslash that was written becomes a marker**, and what follows is marked by itself. -/
theorem escape_protect_append (h : special '\\' = true) (t v : Text) :
    escape (protect special t ++ v) = protectWith escapeMarker special t ++ escape v := by
  unfold protect
  induction t with
  | nil => rfl
  | cons c t ih =>
    cases hc : special c with
    | true =>
      rw [protectWith_special hc, protectWith_special hc, List.cons_append, List.cons_append,
        escape_pair, ih]
      rfl
    | false =>
      have hback : c ≠ '\\' := by
        rintro rfl
        rw [h] at hc
        cases hc
      rw [protectWith_plain hc, protectWith_plain hc, List.cons_append, escape_cons_plain hback, ih]
      rfl

theorem escape_protect (h : special '\\' = true) (t : Text) :
    escape (protect special t) = protectWith escapeMarker special t := by
  have happend := escape_protect_append h t []
  rwa [List.append_nil, escape, List.append_nil] at happend

/-- **A protected text says what the text says.** Spaces and newlines are not to be protected, since an
escaped one is nothing. -/
theorem unescape_protectWith (hspace : special ' ' = false) (hnewline : special '\n' = false)
    {t : Text} (ht : escapeMarker ∉ t) : unescape (protectWith escapeMarker special t) = t := by
  induction t with
  | nil => rfl
  | cons c t ih =>
    rw [List.mem_cons, not_or] at ht
    have hc : c ≠ escapeMarker := Ne.symm ht.1
    cases hspecial : special c with
    | true =>
      have hmeant : meantByPair c = [c] := by
        refine if_neg ?_
        rintro (rfl | rfl)
        · rw [hspace] at hspecial
          cases hspecial
        · rw [hnewline] at hspecial
          cases hspecial
      rw [protectWith_special hspecial, unescape_pair hc, hmeant, ih ht.2]
      rfl
    | false => rw [protectWith_plain hspecial, unescape_cons_plain hc, ih ht.2]

end Escape

end Text

end StructuredText

import Mathlib.Data.List.Basic
import StructuredText.Text.Escape

/-!
# Texts in which escapes are marked

`Marked` describes the texts that `escape` produces: a marker protects the character after it, and
a backslash stands only where it is protected. Inline markup is cut out of such a text, so every
fact about the cutting rests on what happens at a cut:

- `Marked.of_append`: cut anywhere but right after a marker, both parts are marked texts again;
- `unescape_append`: at such a cut, dropping the markers commutes with the cutting;
- `escape_restore`: a marked text, written with backslashes and read again, is the same text.

The other way round, a text that is marked and then written with backslashes is the text it was
(`restore_escape`). Whether its last character is a marker, which protects what is put behind the
text, is told by the number of backslashes that it ends with (`getLast?_escape_eq_marker_iff`).
-/

namespace StructuredText

namespace Text

/-- A text in which escapes are marked, as `escape` makes it. -/
inductive Marked : Text → Prop where
  | nil : Marked []
  /-- A marker at the very end protects nothing. -/
  | final : Marked [escapeMarker]
  | pair {d : Char} {t : Text} : d ≠ escapeMarker → Marked t → Marked (escapeMarker :: d :: t)
  | plain {c : Char} {t : Text} : c ≠ escapeMarker → c ≠ '\\' → Marked t → Marked (c :: t)

theorem escape_cons_plain {c : Char} (h : c ≠ '\\') (t : Text) : escape (c :: t) = c :: escape t := by
  cases t <;> simp [escape, h]

theorem escape_pair (d : Char) (t : Text) :
    escape ('\\' :: d :: t) = escapeMarker :: d :: escape t := by
  rw [escape, if_pos rfl]

theorem unescape_cons_plain {c : Char} (h : c ≠ escapeMarker) (t : Text) :
    unescape (c :: t) = c :: unescape t := by
  cases t <;> simp [unescape, h]

theorem restore_cons_plain {c : Char} (h : c ≠ escapeMarker) (t : Text) :
    restore (c :: t) = c :: restore t := by
  simp [restore, h]

theorem restore_pair {d : Char} (h : d ≠ escapeMarker) (t : Text) :
    restore (escapeMarker :: d :: t) = '\\' :: d :: restore t := by
  have hmarker : restore (escapeMarker :: d :: t) = '\\' :: restore (d :: t) := rfl
  rw [hmarker, restore_cons_plain h]

/-- Every marker is turned back by itself, so that the cut does not matter. -/
theorem restore_append (u v : Text) : restore (u ++ v) = restore u ++ restore v := List.map_append

/-- What a marker and the character it protects come to. -/
def meantByPair (d : Char) : Text := if d = ' ' ∨ d = '\n' then [] else [d]

theorem unescape_pair {d : Char} (h : d ≠ escapeMarker) (t : Text) :
    unescape (escapeMarker :: d :: t) = meantByPair d ++ unescape t := by
  rw [unescape, if_pos rfl]
  unfold meantByPair
  split
  · rfl
  · rw [unescape_cons_plain h]; rfl

theorem marked_escape {t : Text} (h : escapeMarker ∉ t) : Marked (escape t) := by
  fun_induction escape t with
  | case1 => exact .nil
  | case2 => exact .final
  | case3 d t ih =>
    have hd : d ≠ escapeMarker := fun e => h (by simp [e])
    exact .pair hd (ih fun ht => h (by simp [ht]))
  | case4 c t hc ih =>
    have hcm : c ≠ escapeMarker := fun e => h (by simp [e])
    exact .plain hcm hc (ih fun ht => h (by simp [ht]))

theorem escape_restore {t : Text} (h : Marked t) : escape (restore t) = t := by
  induction h with
  | nil => rfl
  | final => decide
  | pair hd _ ih => rw [restore_pair hd, escape_pair, ih]
  | plain hm hb _ ih => rw [restore_cons_plain hm, escape_cons_plain hb, ih]

/-- A text that does not end in `a` still does not without its first character. -/
theorem getLast?_ne_tail {a c : Char} {u : Text} (h : (c :: u).getLast? ≠ some a) :
    u.getLast? ≠ some a :=
  mt List.mem_getLast?_cons h

/-- **A cut that is not right after a marker leaves marked texts on both sides.** -/
theorem Marked.of_append {u v : Text} (h : Marked (u ++ v))
    (hu : u.getLast? ≠ some escapeMarker) : Marked u ∧ Marked v := by
  generalize ht : u ++ v = t at h
  induction h generalizing u with
  | nil =>
    obtain ⟨rfl, rfl⟩ := List.append_eq_nil_iff.1 ht
    exact ⟨.nil, .nil⟩
  | final =>
    cases u with
    | nil => rw [List.nil_append] at ht; exact ⟨.nil, ht ▸ .final⟩
    | cons c u =>
      obtain ⟨rfl, hnil⟩ := List.cons.inj ht
      obtain ⟨rfl, -⟩ := List.append_eq_nil_iff.1 hnil
      exact absurd rfl hu
  | @pair d t hd hm ih =>
    cases u with
    | nil => rw [List.nil_append] at ht; exact ⟨.nil, ht ▸ .pair hd hm⟩
    | cons c u =>
      obtain ⟨rfl, hrest⟩ : c = escapeMarker ∧ u ++ v = d :: t := by simpa using ht
      cases u with
      -- A cut inside the pair would be right after the marker.
      | nil => exact absurd rfl hu
      | cons e u =>
        obtain ⟨rfl, hrest'⟩ : e = d ∧ u ++ v = t := by simpa using hrest
        have htail := getLast?_ne_tail (getLast?_ne_tail hu)
        obtain ⟨h1, h2⟩ := ih htail hrest'
        exact ⟨.pair hd h1, h2⟩
  | @plain c t hc hb hm ih =>
    cases u with
    | nil => rw [List.nil_append] at ht; exact ⟨.nil, ht ▸ .plain hc hb hm⟩
    | cons e u =>
      obtain ⟨rfl, hrest⟩ : e = c ∧ u ++ v = t := by simpa using ht
      obtain ⟨h1, h2⟩ := ih (getLast?_ne_tail hu) hrest
      exact ⟨.plain hc hb h1, h2⟩

/-- Dropping the markers commutes with a cut that is not right after a marker. -/
theorem unescape_append {u : Text} (hu : u.getLast? ≠ some escapeMarker) (v : Text) :
    unescape (u ++ v) = unescape u ++ unescape v := by
  fun_induction unescape u with
  | case1 => rfl
  | case2 => exact absurd rfl hu
  | case3 d u hd ih =>
    have htail := getLast?_ne_tail (getLast?_ne_tail hu)
    rw [List.cons_append, List.cons_append, unescape, if_pos rfl, if_pos hd, ih htail]
  | case4 d u hd ih =>
    rw [List.cons_append, List.cons_append, unescape, if_pos rfl, if_neg hd, ← List.cons_append,
      ih (getLast?_ne_tail hu)]
  | case5 c u hc ih =>
    rw [List.cons_append, unescape_cons_plain hc, ih (getLast?_ne_tail hu),
      List.cons_append]

/-- A text without markers is what it says. -/
theorem unescape_of_not_mem {u : Text} (h : escapeMarker ∉ u) : unescape u = u := by
  induction u with
  | nil => rfl
  | cons c u ih =>
    have hc : c ≠ escapeMarker := fun e => h (by simp [e])
    rw [unescape_cons_plain hc, ih fun hu => h (List.mem_cons_of_mem _ hu)]

/-! ## Marking the escapes of a text -/

theorem restore_escape {t : Text} (h : escapeMarker ∉ t) : restore (escape t) = t := by
  fun_induction escape t with
  | case1 => rfl
  | case2 => rfl
  | case3 d t ih =>
    rw [List.mem_cons, List.mem_cons, not_or, not_or] at h
    rw [restore_pair (Ne.symm h.2.1), ih h.2.2]
  | case4 c t hc ih =>
    rw [List.mem_cons, not_or] at h
    rw [restore_cons_plain (Ne.symm h.1), ih h.2]

/-- No marker is left in a text that is written with backslashes. -/
theorem marker_not_mem_restore (t : Text) : escapeMarker ∉ restore t := by
  intro h
  obtain ⟨c, -, hc⟩ := List.mem_map.1 h
  split at hc
  · cases hc
  · next hmarker => exact hmarker hc

/-- Marking brings in markers and nothing else. -/
theorem mem_of_mem_escape {c : Char} {t : Text} (h : c ∈ escape t) : c = escapeMarker ∨ c ∈ t := by
  fun_induction escape t with
  | case1 => cases h
  | case2 => exact Or.inl (List.mem_singleton.1 h)
  | case3 d t ih =>
    simp only [List.mem_cons] at h ⊢
    rcases h with h | h | h
    · exact Or.inl h
    · exact Or.inr (Or.inr (Or.inl h))
    · exact (ih h).imp_right fun ht => Or.inr (Or.inr ht)
  | case4 c t hc ih =>
    rcases List.mem_cons.1 h with rfl | h
    · exact Or.inr (List.mem_cons_self ..)
    · exact (ih h).imp_right (List.mem_cons_of_mem _)

theorem escape_eq_self {t : Text} (h : '\\' ∉ t) : escape t = t := by
  induction t with
  | nil => rfl
  | cons c t ih =>
    rw [List.mem_cons, not_or] at h
    rw [escape_cons_plain (Ne.symm h.1), ih h.2]

/-- Where no backslash stands before a cut, what stands behind it is marked by itself. -/
theorem escape_append {u : Text} (h : u.getLast? ≠ some '\\') (v : Text) :
    escape (u ++ v) = escape u ++ escape v := by
  fun_induction escape u with
  | case1 => rfl
  | case2 => exact absurd rfl h
  | case3 d u ih =>
    have hu : u.getLast? ≠ some '\\' := getLast?_ne_tail (getLast?_ne_tail h)
    rw [List.cons_append, List.cons_append, escape_pair, ih hu]
    rfl
  | case4 c u hc ih =>
    rw [List.cons_append, escape_cons_plain hc, ih (getLast?_ne_tail h)]
    rfl

/-- A text without backslashes is the same behind any text; what it begins with may be protected. -/
theorem escape_append_of_not_mem (u : Text) {v : Text} (h : '\\' ∉ v) :
    escape (u ++ v) = escape u ++ v := by
  fun_induction escape u with
  | case1 => exact escape_eq_self h
  | case2 =>
    cases v with
    | nil => rfl
    | cons d v =>
      rw [List.mem_cons, not_or] at h
      rw [List.cons_append, List.nil_append, escape_pair, escape_eq_self h.2]
      rfl
  | case3 d u ih =>
    rw [List.cons_append, List.cons_append, escape_pair, ih]
    rfl
  | case4 c u hc ih =>
    rw [List.cons_append, escape_cons_plain hc, ih]
    rfl

/-- A marked text ends as the text does, unless a backslash at its end became a marker. -/
theorem getLast?_escape (t : Text) :
    (escape t).getLast? = t.getLast? ∨
      t.getLast? = some '\\' ∧ (escape t).getLast? = some escapeMarker := by
  fun_induction escape t with
  | case1 => exact Or.inl rfl
  | case2 => exact Or.inr ⟨rfl, rfl⟩
  | case3 d t ih =>
    simp only [List.getLast?_cons, Option.getD_some]
    rcases ih with h | ⟨ht, h⟩
    · exact Or.inl (by rw [h])
    · exact Or.inr ⟨by rw [ht]; rfl, by rw [h]; rfl⟩
  | case4 c t hc ih =>
    simp only [List.getLast?_cons]
    rcases ih with h | ⟨ht, h⟩
    · exact Or.inl (by rw [h])
    · exact Or.inr ⟨by rw [ht]; rfl, by rw [h]; rfl⟩

/-- The number of backslashes at the end of a text. -/
def trailingBackslashes (t : Text) : Nat := (t.reverse.takeWhile (· == '\\')).length

/-- The backslashes at the end of a text and what stands before them. -/
theorem exists_append_backslashes (t : Text) :
    ∃ u, t = u ++ List.replicate (trailingBackslashes t) '\\' ∧ u.getLast? ≠ some '\\' := by
  refine ⟨(t.reverse.dropWhile (· == '\\')).reverse, ?_, fun hlast => ?_⟩
  · have hall : t.reverse.takeWhile (· == '\\') =
        List.replicate (trailingBackslashes t) '\\' :=
      List.eq_replicate_of_mem fun c hc => by
        simpa using List.all_eq_true.1 List.all_takeWhile c hc
    have hrev := congrArg List.reverse
      (List.takeWhile_append_dropWhile (p := (· == '\\')) (l := t.reverse))
    rw [List.reverse_append, hall, List.reverse_replicate, List.reverse_reverse] at hrev
    exact hrev.symm
  · rw [List.getLast?_reverse] at hlast
    have hstop := List.head?_dropWhile_not (· == '\\') t.reverse
    rw [hlast] at hstop
    simp at hstop

/-- Of backslashes in a row every other one protects the next, so that the last of an odd number
protects what follows. -/
theorem getLast?_escape_backslashes : ∀ k : Nat,
    (escape (List.replicate k '\\')).getLast? = some escapeMarker ↔ k % 2 = 1
  | 0 => by simp [escape]
  | 1 => by simp [escape]
  | k + 2 => by
    have ih := getLast?_escape_backslashes k
    rw [List.replicate_succ, List.replicate_succ, escape_pair, List.getLast?_cons,
      List.getLast?_cons, Nat.add_mod_right, ← ih]
    cases (escape (List.replicate k '\\')).getLast? with
    | none =>
      have hne : '\\' ≠ escapeMarker := by decide
      simp [hne]
    | some c => simp

/-- **A marked text ends in a marker exactly if the text ends in an odd number of backslashes.** -/
theorem getLast?_escape_eq_marker_iff {t : Text} (h : escapeMarker ∉ t) :
    (escape t).getLast? = some escapeMarker ↔ trailingBackslashes t % 2 = 1 := by
  obtain ⟨u, ht, hu⟩ := exists_append_backslashes t
  have hsplit : escape t =
      escape u ++ escape (List.replicate (trailingBackslashes t) '\\') := by
    rw [← escape_append hu, ← ht]
  rw [← getLast?_escape_backslashes, hsplit, List.getLast?_append]
  cases hlast : (escape (List.replicate (trailingBackslashes t) '\\')).getLast? with
  | some c => rfl
  | none =>
    -- There is no backslash at the end, and the text itself has no marker.
    have hend : (escape u).getLast? = u.getLast? :=
      (getLast?_escape u).resolve_right fun hback => hu hback.1
    have hmem : u.getLast? ≠ some escapeMarker := fun hm => by
      rw [ht] at h
      exact h (List.mem_append_left _ (List.mem_of_getLast? hm))
    rw [Option.none_or, hend]
    exact iff_of_false hmem (by simp)

end Text

end StructuredText

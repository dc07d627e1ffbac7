import StructuredText.Proofs.Text.Escape

/-!
# Escapes as a codec

What a text with backslashes says can be read in one pass, without any markers (`onePass`). The library
takes two: the escapes are marked first, so that inline markup can be cut out of the text, and the
markers are dropped from the pieces later. The second way is as good as the first (`lossless_escape`):
marking the escapes loses nothing, dropping the markers gives what the one pass gives, and both hold
piece by piece where no cut is right after a marker.

The two ways meet at a marked text, which means what one pass reads in the text restored from it
(`unescape_eq_onePass`).
-/

namespace StructuredText

namespace Text

/-- What a text with backslashes says, read from left to right. A backslash goes away, and a space or
newline after it goes with it; any other character after it stands for itself, a backslash too. -/
def onePass : Text → Text
  | [] => []
  | ['\\'] => []
  | '\\' :: ' ' :: t => onePass t
  | '\\' :: '\n' :: t => onePass t
  | '\\' :: c :: t => c :: onePass t
  | c :: t => c :: onePass t

theorem onePass_cons_plain {c : Char} (h : c ≠ '\\') (t : Text) :
    onePass (c :: t) = c :: onePass t := by
  rw [onePass]
  -- Every row before the last one asks for a backslash in front.
  all_goals simp [h]

theorem onePass_pair (d : Char) (t : Text) :
    onePass ('\\' :: d :: t) = meantByPair d ++ onePass t := by
  unfold meantByPair
  split
  · next hgone => rcases hgone with rfl | rfl <;> rfl
  · next hstays =>
    obtain ⟨hspace, hnewline⟩ := not_or.1 hstays
    rw [onePass]
    · rfl
    · exact hspace
    · exact hnewline

/-- **What a marked text means is what one pass reads in the text it was made of.** -/
theorem unescape_eq_onePass {m : Text} (h : Marked m) : unescape m = onePass (restore m) := by
  induction h with
  | nil => rfl
  | final => rfl
  | pair hd _ ih => rw [unescape_pair hd, restore_pair hd, onePass_pair, ih]
  | plain hm hb _ ih =>
    rw [unescape_cons_plain hm, restore_cons_plain hm, onePass_cons_plain hb, ih]

theorem unescape_escape {t : Text} (h : escapeMarker ∉ t) : unescape (escape t) = onePass t := by
  rw [unescape_eq_onePass (marked_escape h), restore_escape h]

/-- **The codec of escapes is lossless.** A text whose escapes are marked can be restored, and it means
what one pass reads in the text. Cut anywhere but right after a marker, it is restored piece by piece,
it means what the pieces mean, and each piece is again a text whose escapes are marked. -/
theorem lossless_escape {t : Text} (h : escapeMarker ∉ t) :
    restore (escape t) = t ∧
    unescape (escape t) = onePass t ∧
    ∀ u v : Text, escape t = u ++ v → u.getLast? ≠ some escapeMarker →
      restore (u ++ v) = restore u ++ restore v ∧
      unescape (u ++ v) = unescape u ++ unescape v ∧
      escape (restore u) = u ∧ escape (restore v) = v := by
  refine ⟨restore_escape h, unescape_escape h, ?_⟩
  intro u v hcut hu
  obtain ⟨hmu, hmv⟩ : Marked u ∧ Marked v := by
    apply Marked.of_append _ hu
    rw [← hcut]
    exact marked_escape h
  exact ⟨restore_append u v, unescape_append hu v, escape_restore hmu, escape_restore hmv⟩

/-- Three backslashes in a row before a space, two before a letter, one before a newline and one at the
end; the cut is behind a backslash that is protected. -/
theorem lossless_escape_backslashes :
    (escapeMarker ∉ "\\\\\\ a\\\\b\\\nc\\".toList ∧
      escape "\\\\\\ a\\\\b\\\nc\\" = "\x00\\\x00 a\x00\\".toList ++ "b\x00\nc\x00".toList ∧
      "\x00\\\x00 a\x00\\".toList.getLast? ≠ some escapeMarker) ∧
    restore (escape "\\\\\\ a\\\\b\\\nc\\") = "\\\\\\ a\\\\b\\\nc\\" ∧
    unescape (escape "\\\\\\ a\\\\b\\\nc\\") = "\\a\\bc" ∧
    restore ("\x00\\\x00 a\x00\\".toList ++ "b\x00\nc\x00".toList) =
      "\\\\\\ a\\\\".toList ++ "b\\\nc\\".toList ∧
    unescape ("\x00\\\x00 a\x00\\".toList ++ "b\x00\nc\x00".toList) =
      "\\a\\".toList ++ "bc".toList ∧
    escape (restore "\x00\\\x00 a\x00\\") = "\x00\\\x00 a\x00\\" ∧
    escape (restore "b\x00\nc\x00") = "b\x00\nc\x00" := by
  have hnul : escapeMarker ∉ "\\\\\\ a\\\\b\\\nc\\".toList := by decide
  have hcut : escape "\\\\\\ a\\\\b\\\nc\\" =
      "\x00\\\x00 a\x00\\".toList ++ "b\x00\nc\x00".toList := by decide +kernel
  have hlast : "\x00\\\x00 a\x00\\".toList.getLast? ≠ some escapeMarker := by decide
  have hread : onePass "\\\\\\ a\\\\b\\\nc\\" = "\\a\\bc" := by decide
  have hfront : restore "\x00\\\x00 a\x00\\" = "\\\\\\ a\\\\" ∧
      unescape "\x00\\\x00 a\x00\\" = "\\a\\" := by decide +kernel
  have hback : restore "b\x00\nc\x00" = "b\\\nc\\" ∧ unescape "b\x00\nc\x00" = "bc" := by
    decide +kernel
  obtain ⟨hrestored, hmeant, hsplit⟩ := lossless_escape hnul
  obtain ⟨hrestore, hunescape, hagain⟩ := hsplit _ _ hcut hlast
  rw [hread] at hmeant
  rw [hfront.1, hback.1] at hrestore
  rw [hfront.2, hback.2] at hunescape
  exact ⟨⟨hnul, hcut, hlast⟩, hrestored, hmeant, hrestore, hunescape, hagain⟩

end Text

end StructuredText

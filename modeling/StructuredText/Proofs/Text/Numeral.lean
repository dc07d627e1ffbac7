import StructuredText.Text.Numeral
import StructuredText.Text.WhiteSpace

/-!
# Numerals, written and read

The numeral of a number is its decimal representation without leading zeros (`ofNat_eq_toDigits`).
It consists of digits only, so that no sign is read from it, and it is read as the number it was
written for, if that fits into the field it is read for (`integer64?_ofNat`).
-/

namespace StructuredText

namespace Text

/-- The numeral of a number is its representation to the base of ten. -/
theorem ofNat_eq_toDigits (n : Nat) : ofNat n = Nat.toDigits 10 n := by
  have hdigit : ∀ d < 10, digit d = Nat.digitChar d := by decide
  fun_induction ofNat n with
  | case1 n hlt => rw [Nat.toDigits_eq_if (by omega), if_pos hlt, hdigit n hlt]
  | case2 n hle ih =>
    have hlast := hdigit (n % 10) (by omega)
    rw [Nat.toDigits_eq_if (by omega), if_neg hle, ih, hlast]

theorem ofNat_ne_nil (n : Nat) : ofNat n ≠ [] := by
  unfold ofNat
  split
  · exact List.cons_ne_nil _ _
  · exact List.append_ne_nil_of_right_ne_nil _ (List.cons_ne_nil _ _)

/-- The characters of numerals. -/
theorem exists_of_mem_ofNat {n : Nat} {c : Char} (h : c ∈ ofNat n) : ∃ d < 10, c = digit d := by
  fun_induction ofNat n with
  | case1 n hlt => exact ⟨n, hlt, List.mem_singleton.1 h⟩
  | case2 n hle ih =>
    rcases List.mem_append.1 h with h | h
    · exact ih h
    · exact ⟨n % 10, by omega, List.mem_singleton.1 h⟩

/-- A numeral has neither signs nor white space. -/
theorem of_mem_ofNat {n : Nat} {c : Char} (h : c ∈ ofNat n) :
    isDigit c = true ∧ isWhite c = false ∧ c ≠ '-' ∧ c ≠ '+' := by
  have hdigits : ∀ d < 10, isDigit (digit d) = true ∧ isWhite (digit d) = false ∧
      digit d ≠ '-' ∧ digit d ≠ '+' := by decide
  obtain ⟨d, hd, rfl⟩ := exists_of_mem_ofNat h
  exact hdigits d hd

theorem digitsFrom_nil (n : Nat) : digitsFrom n [] = n := by rw [digitsFrom.eq_def]

theorem digitsFrom_cons (n : Nat) (c : Char) (t : Text) :
    digitsFrom n (c :: t) = digitsFrom (10 * n + digitValue c) t := by
  rw [digitsFrom.eq_def]

theorem digitsFrom_append (n : Nat) (s t : Text) :
    digitsFrom n (s ++ t) = digitsFrom (digitsFrom n s) t := by
  induction s generalizing n with
  | nil => rw [List.nil_append, digitsFrom_nil]
  | cons c s ih => rw [List.cons_append, digitsFrom_cons, digitsFrom_cons, ih]

theorem digitsFrom_ofNat (n : Nat) : digitsFrom 0 (ofNat n) = n := by
  have hvalue : ∀ d < 10, digitValue (digit d) = d := by decide
  fun_induction ofNat n with
  | case1 n hlt =>
    rw [digitsFrom_cons, digitsFrom_nil, hvalue n hlt]
    omega
  | case2 n hle ih =>
    have hlast := hvalue (n % 10) (by omega)
    rw [digitsFrom_append, ih, digitsFrom_cons, digitsFrom_nil, hlast]
    omega

theorem natural?_ofNat (n : Nat) : natural? (ofNat n) = some n := by
  have hdigits : (ofNat n).all isDigit = true :=
    List.all_eq_true.2 fun c hc => (of_mem_ofNat hc).1
  rw [natural?, if_pos ⟨ofNat_ne_nil n, hdigits⟩, digitsFrom_ofNat]

/-- No sign is read from a numeral. -/
theorem integer?_ofNat (n : Nat) : integer? (ofNat n) = some (n : Int) := by
  have hread := natural?_ofNat n
  unfold integer?
  split
  · next t ht =>
    have hminus : '-' ∈ ofNat n := by
      rw [ht]
      exact List.mem_cons_self ..
    exact absurd rfl (of_mem_ofNat hminus).2.2.1
  · next t ht =>
    have hplus : '+' ∈ ofNat n := by
      rw [ht]
      exact List.mem_cons_self ..
    exact absurd rfl (of_mem_ofNat hplus).2.2.2
  · rw [hread]
    rfl

theorem integer64?_eq_some_iff {t : Text} {i : Int} :
    integer64? t = some i ↔
      integer? t = some i ∧ -0x8000000000000000 ≤ i ∧ i ≤ 0x7fffffffffffffff := by
  rw [integer64?, Option.filter_eq_some_iff, Bool.and_eq_true, decide_eq_true_iff,
    decide_eq_true_iff]
  constructor
  · rintro ⟨hread, hmin, hmax⟩
    exact ⟨hread, hmin, by omega⟩
  · rintro ⟨hread, hmin, hmax⟩
    exact ⟨hread, hmin, by omega⟩

/-- **A numeral is read as the number it was written for**, if that is not too great. -/
theorem integer64?_ofNat {n : Nat} (h : n ≤ 0x7fffffffffffffff) :
    integer64? (ofNat n) = some (n : Int) := by
  refine integer64?_eq_some_iff.2 ⟨integer?_ofNat n, ?_, ?_⟩
  · omega
  · omega

end Text

end StructuredText

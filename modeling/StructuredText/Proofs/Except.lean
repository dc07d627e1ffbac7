import Mathlib.Data.List.Forall2

/-!
# Computations that may fail

How a computation in `Except` that succeeded or failed comes apart. Everything that reads a document
is such a computation, and later proofs cite these equations instead of unfolding it.
-/

namespace Except

variable {ε ε' α β : Type}

theorem map_eq_ok_iff {f : α → β} {x : Except ε α} {b : β} :
    x.map f = .ok b ↔ ∃ a, x = .ok a ∧ f a = b := by
  cases x with
  | error e => simp [Except.map]
  | ok a => simp [Except.map]

theorem map_eq_error_iff {f : α → β} {x : Except ε α} {e : ε} :
    x.map f = .error e ↔ x = .error e := by
  cases x with
  | error e => simp [Except.map]
  | ok a => simp [Except.map]

theorem mapError_ok {f : ε → ε'} {a : α} : (Except.ok a).mapError f = .ok a := rfl

theorem mapError_error {f : ε → ε'} {e : ε} :
    (Except.error e : Except ε α).mapError f = .error (f e) := rfl

theorem mapError_eq_ok_iff {f : ε → ε'} {x : Except ε α} {a : α} :
    x.mapError f = .ok a ↔ x = .ok a := by
  cases x with
  | error e => simp [mapError_error]
  | ok a => simp [mapError_ok]

theorem mapError_eq_error_iff {f : ε → ε'} {x : Except ε α} {e' : ε'} :
    x.mapError f = .error e' ↔ ∃ e, x = .error e ∧ f e = e' := by
  cases x with
  | error e => simp [mapError_error]
  | ok a => simp [mapError_ok]

theorem bind_eq_ok_iff {f : α → Except ε β} {x : Except ε α} {b : β} :
    (x >>= f) = .ok b ↔ ∃ a, x = .ok a ∧ f a = .ok b := by
  cases x with
  | error e => simp [bind, Except.bind]
  | ok a => simp [bind, Except.bind]

theorem bind_eq_error_iff {f : α → Except ε β} {x : Except ε α} {e : ε} :
    (x >>= f) = .error e ↔ x = .error e ∨ ∃ a, x = .ok a ∧ f a = .error e := by
  cases x with
  | error e => simp [bind, Except.bind]
  | ok a => simp [bind, Except.bind]

/-- What a successful run over a list gives comes from the elements of the list. -/
theorem exists_of_mapM_eq_ok {f : α → Except ε β} {l : List α} {ys : List β}
    (h : l.mapM f = .ok ys) : ∀ y ∈ ys, ∃ x ∈ l, f x = .ok y := by
  induction l generalizing ys with
  | nil =>
    rw [List.mapM_nil] at h
    cases h
    intro y hy
    cases hy
  | cons a l ih =>
    rw [List.mapM_cons] at h
    obtain ⟨b, hb, h⟩ := bind_eq_ok_iff.1 h
    obtain ⟨bs, hbs, h⟩ := bind_eq_ok_iff.1 h
    cases h
    intro y hy
    rcases List.mem_cons.1 hy with rfl | hy
    · exact ⟨a, List.mem_cons_self .., hb⟩
    · obtain ⟨x, hx, hxy⟩ := ih hbs y hy
      exact ⟨x, List.mem_cons_of_mem _ hx, hxy⟩

/-- A run over a list fails at one of its elements. -/
theorem exists_of_mapM_eq_error {f : α → Except ε β} {l : List α} {e : ε}
    (h : l.mapM f = .error e) : ∃ x ∈ l, f x = .error e := by
  induction l with
  | nil => rw [List.mapM_nil] at h; cases h
  | cons a l ih =>
    rw [List.mapM_cons] at h
    rcases bind_eq_error_iff.1 h with ha | ⟨b, -, h⟩
    · exact ⟨a, List.mem_cons_self .., ha⟩
    · rcases bind_eq_error_iff.1 h with hl | ⟨bs, -, h⟩
      · obtain ⟨x, hx, hxe⟩ := ih hl
        exact ⟨x, List.mem_cons_of_mem _ hx, hxe⟩
      · cases h

/-- Two successful runs over one list agree element by element if they do at each of its elements. -/
theorem forall₂_of_mapM_eq_ok {γ : Type} {f : α → Except ε β} {g : α → Except ε γ}
    {R : β → γ → Prop} {l : List α} {ys : List β} {zs : List γ} (hf : l.mapM f = .ok ys)
    (hg : l.mapM g = .ok zs) (h : ∀ x ∈ l, ∀ y z, f x = .ok y → g x = .ok z → R y z) :
    List.Forall₂ R ys zs := by
  induction l generalizing ys zs with
  | nil =>
    rw [List.mapM_nil] at hf hg
    cases hf
    cases hg
    exact .nil
  | cons a l ih =>
    rw [List.mapM_cons] at hf hg
    obtain ⟨b, hb, hf⟩ := bind_eq_ok_iff.1 hf
    obtain ⟨bs, hbs, hf⟩ := bind_eq_ok_iff.1 hf
    obtain ⟨c, hc, hg⟩ := bind_eq_ok_iff.1 hg
    obtain ⟨cs, hcs, hg⟩ := bind_eq_ok_iff.1 hg
    cases hf
    cases hg
    exact .cons (h a (List.mem_cons_self ..) b c hb hc)
      (ih hbs hcs fun x hx => h x (List.mem_cons_of_mem _ hx))

/-- A successful run whose steps give at most one thing each: everything it gives is put beside the
element that it came from, in the order of the elements. -/
theorem exists_pairs_of_mapM_eq_ok {f : α → Except ε (List β)} {R : α → β → Prop} {l : List α}
    {parts : List (List β)} (h : l.mapM f = .ok parts)
    (hone : ∀ x ys, f x = .ok ys → ys = [] ∨ ∃ y, ys = [y] ∧ R x y) :
    ∃ pairs : List (α × β), pairs.map Prod.snd = parts.flatten ∧
      (pairs.map Prod.fst).Sublist l ∧ ∀ q ∈ pairs, R q.1 q.2 := by
  induction l generalizing parts with
  | nil =>
    rw [List.mapM_nil] at h
    cases h
    exact ⟨[], rfl, .slnil, fun q hq => by cases hq⟩
  | cons a l ih =>
    rw [List.mapM_cons] at h
    obtain ⟨ys, hys, h⟩ := bind_eq_ok_iff.1 h
    obtain ⟨rest, hrest, h⟩ := bind_eq_ok_iff.1 h
    cases h
    obtain ⟨pairs, hsnd, hfst, hR⟩ := ih hrest
    rcases hone a ys hys with rfl | ⟨y, rfl, hy⟩
    · exact ⟨pairs, hsnd, hfst.cons a, hR⟩
    · refine ⟨(a, y) :: pairs, ?_, hfst.cons_cons a, List.forall_mem_cons.2 ⟨hy, hR⟩⟩
      rw [List.map_cons, hsnd]
      rfl

/-- A run that succeeds goes on to succeed, with the same results, if each of its steps does. -/
theorem mapM_mono {f g : α → Except ε β} {l : List α} {ys : List β} (h : l.mapM f = .ok ys)
    (hfg : ∀ x ∈ l, ∀ y, f x = .ok y → g x = .ok y) : l.mapM g = .ok ys := by
  induction l generalizing ys with
  | nil => exact h
  | cons a l ih =>
    rw [List.mapM_cons] at h ⊢
    obtain ⟨b, hb, h⟩ := bind_eq_ok_iff.1 h
    obtain ⟨bs, hbs, h⟩ := bind_eq_ok_iff.1 h
    have hrest := ih hbs fun x hx => hfg x (List.mem_cons_of_mem _ hx)
    exact bind_eq_ok_iff.2
      ⟨b, hfg a (List.mem_cons_self ..) b hb, bind_eq_ok_iff.2 ⟨bs, hrest, h⟩⟩

theorem mapM_congr {f g : α → Except ε β} {l : List α} (h : ∀ x ∈ l, f x = g x) :
    l.mapM f = l.mapM g := by
  induction l with
  | nil => rfl
  | cons a l ih =>
    rw [List.mapM_cons, List.mapM_cons, h a (List.mem_cons_self ..),
      ih fun x hx => h x (List.mem_cons_of_mem _ hx)]

/-- Running over a list a computation that differs in its results by `g` and in its errors by `e`. -/
theorem mapM_map_mapError {f f' : α → Except ε β} {g : β → β} {e : ε → ε} {l : List α}
    (h : ∀ x ∈ l, f' x = ((f x).map g).mapError e) :
    l.mapM f' = ((l.mapM f).map (List.map g)).mapError e := by
  induction l with
  | nil => rfl
  | cons a l ih =>
    rw [List.mapM_cons, List.mapM_cons, h a (List.mem_cons_self ..),
      ih fun x hx => h x (List.mem_cons_of_mem _ hx)]
    cases f a with
    | error => rfl
    | ok b =>
      cases l.mapM f with
      | error => rfl
      | ok bs => rfl

end Except

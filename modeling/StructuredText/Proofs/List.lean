import Mathlib.Data.List.Forall2
import Mathlib.Data.List.TakeWhile

/-!
# Runs at the front of a list

A list is often cut behind the longest run of elements with a property. Where the list is given as
such a run and a rest that begins differently, it is cut there. A list that agrees element by element
with one that is cut before its last element can be cut there too (`exists_concat_of_forall₂`).

Where no two elements of a list have a property, what is left of the list without the others is the
one element that has it, if there is one (`filter_eq_toList`). In a list in descending order, the first
element with a property is the greatest (`find?_eq_some_iff_of_pairwise`).
-/

namespace List

variable {α : Type} {p : α → Bool}

theorem takeWhile_append_stop {front rest : List α} (hf : ∀ x ∈ front, p x = true)
    (hr : ∀ x, rest.head? = some x → p x = false) : (front ++ rest).takeWhile p = front := by
  rw [takeWhile_append_of_pos hf]
  cases rest with
  | nil => simp
  | cons x rest => simp [hr x rfl]

theorem dropWhile_append_stop {front rest : List α} (hf : ∀ x ∈ front, p x = true)
    (hr : ∀ x, rest.head? = some x → p x = false) : (front ++ rest).dropWhile p = rest := by
  rw [dropWhile_append_of_pos hf]
  cases rest with
  | nil => rfl
  | cons x rest => simp [hr x rfl]

/-- The run that is skipped in front of the first element with a property. -/
theorem findIdx_append_stop {front rest : List α} (hf : ∀ x ∈ front, p x = false)
    (hr : ∀ x, rest.head? = some x → p x = true) : (front ++ rest).findIdx p = front.length := by
  have hfront : front.findIdx p = front.length := findIdx_eq_length.2 hf
  have hrest : rest.findIdx p = 0 := by
    cases rest with
    | nil => rfl
    | cons x rest => rw [findIdx_cons, hr x rfl]; rfl
  rw [findIdx_append, hfront, if_neg (Nat.lt_irrefl _), hrest, Nat.zero_add]

/-- There is one way to cut a list behind such a run. -/
theorem append_inj_stop {a b c d : List α} (h : a ++ b = c ++ d) (ha : ∀ x ∈ a, p x = true)
    (hb : ∀ x, b.head? = some x → p x = false) (hc : ∀ x ∈ c, p x = true)
    (hd : ∀ x, d.head? = some x → p x = false) : a = c ∧ b = d := by
  constructor
  · rw [← takeWhile_append_stop ha hb, h, takeWhile_append_stop hc hd]
  · rw [← dropWhile_append_stop ha hb, h, dropWhile_append_stop hc hd]

theorem of_mem_takeWhile {l : List α} {x : α} (h : x ∈ l.takeWhile p) : p x = true :=
  all_eq_true.1 all_takeWhile x h

theorem head_dropWhile_stop {l : List α} {x : α} (h : (l.dropWhile p).head? = some x) :
    p x = false := by
  induction l with
  | nil => cases h
  | cons y l ih =>
    rw [dropWhile_cons] at h
    split at h
    · exact ih h
    · next hy =>
      cases h
      simpa using hy

/-- What follows the run at the front. -/
theorem drop_takeWhile_length (p : α → Bool) (l : List α) :
    l.drop (l.takeWhile p).length = l.dropWhile p := by
  have h : (l.takeWhile p ++ l.dropWhile p).drop (l.takeWhile p).length = l.dropWhile p := drop_left
  rwa [takeWhile_append_dropWhile] at h

/-- What follows the first element and a run behind it. -/
theorem drop_cons_takeWhile (p : α → Bool) (a : α) (l : List α) (k : Nat) :
    (a :: l).drop ((l.takeWhile p).length + k + 1) = (l.dropWhile p).drop k := by
  rw [drop_succ_cons, ← drop_drop, drop_takeWhile_length]

theorem exists_concat_of_forall₂ {β : Type} {R : α → β → Prop} {as : List α} {a : α} {l : List β}
    (h : Forall₂ R (as ++ [a]) l) : ∃ bs b, l = bs ++ [b] ∧ Forall₂ R as bs ∧ R a b := by
  rw [← forall₂_reverse_iff, reverse_append, reverse_singleton, singleton_append,
    forall₂_cons_left_iff] at h
  obtain ⟨b, bs, hab, hbs, hl⟩ := h
  refine ⟨bs.reverse, b, ?_, ?_, hab⟩
  · rw [← reverse_reverse l, hl, reverse_cons]
  · rwa [← forall₂_reverse_iff, reverse_reverse]

/-- If no two elements have the property, those that have it are one or none. -/
theorem filter_eq_toList {l : List α} {o : Option α} (hmem : ∀ x, x ∈ l ∧ p x = true ↔ o = some x)
    (hone : l.Pairwise fun x y => ¬(p x = true ∧ p y = true)) : l.filter p = o.toList := by
  have hfilter : ∀ x, x ∈ l.filter p ↔ o = some x := fun x => by rw [mem_filter, hmem]
  have hpair := hone.filter p
  cases hl : l.filter p with
  | nil =>
    cases o with
    | none => rfl
    | some x =>
      have hx := (hfilter x).2 rfl
      rw [hl] at hx
      cases hx
  | cons x rest =>
    have hx : x ∈ l.filter p := by
      rw [hl]
      exact mem_cons_self ..
    cases rest with
    | nil =>
      rw [(hfilter x).1 hx]
      rfl
    | cons y rest =>
      have hy : y ∈ l.filter p := by
        rw [hl]
        exact mem_cons_of_mem _ (mem_cons_self ..)
      rw [hl, pairwise_cons] at hpair
      exact absurd ⟨(mem_filter.1 hx).2, (mem_filter.1 hy).2⟩
        (hpair.1 y (mem_cons_self ..))

/-- Two elements in front of one list that can be told apart by what is left of it are equal, or
neither is left. -/
theorem of_filter_cons_eq {a b : α} {l : List α} (h : (a :: l).filter p = (b :: l).filter p) :
    a = b ∨ p a = false ∧ p b = false := by
  rw [filter_cons, filter_cons] at h
  by_cases ha : p a = true
  · rw [if_pos ha] at h
    by_cases hb : p b = true
    · rw [if_pos hb] at h
      exact Or.inl (cons.inj h).1
    · rw [if_neg hb] at h
      exact absurd h (cons_ne_self _ _)
  · rw [if_neg ha] at h
    by_cases hb : p b = true
    · rw [if_pos hb] at h
      exact absurd h.symm (cons_ne_self _ _)
    · exact Or.inr ⟨by simpa using ha, by simpa using hb⟩

/-- The first element with the property is the one that none with the property is greater than. -/
theorem find?_eq_some_iff_of_pairwise {size : α → Nat} {l : List α} {x : α}
    (h : l.Pairwise fun a b => size b < size a) :
    l.find? p = some x ↔ x ∈ l ∧ p x = true ∧ ∀ y ∈ l, size x < size y → p y = false := by
  induction l with
  | nil => simp
  | cons a l ih =>
    obtain ⟨ha, hl⟩ := pairwise_cons.1 h
    by_cases hpa : p a = true
    · rw [find?_cons_of_pos hpa, Option.some.injEq]
      constructor
      · rintro rfl
        refine ⟨mem_cons_self .., hpa, ?_⟩
        intro y hy hlt
        rcases mem_cons.1 hy with rfl | hy
        · omega
        · have := ha y hy
          omega
      · rintro ⟨hx, -, hgreatest⟩
        rcases mem_cons.1 hx with rfl | hx
        · rfl
        · rw [hgreatest a (mem_cons_self ..) (ha x hx)] at hpa
          cases hpa
    · rw [find?_cons_of_neg hpa, ih hl]
      constructor
      · rintro ⟨hx, hpx, hgreatest⟩
        refine ⟨mem_cons_of_mem _ hx, hpx, ?_⟩
        intro y hy hlt
        rcases mem_cons.1 hy with rfl | hy
        · simpa using hpa
        · exact hgreatest y hy hlt
      · rintro ⟨hx, hpx, hgreatest⟩
        rcases mem_cons.1 hx with rfl | hx
        · exact absurd hpx hpa
        · exact ⟨hx, hpx, fun y hy => hgreatest y (mem_cons_of_mem _ hy)⟩

end List

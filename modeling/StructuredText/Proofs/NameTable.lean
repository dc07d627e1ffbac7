import StructuredText.NameTable

/-!
# What a table answers

After a run of insertions a table answers for a name exactly if the name was inserted or was there
before (`isSome_find?_insertAll`), and everything it holds was inserted or was there before
(`mem_insertAll`). It answers with the last value that was inserted under the name
(`find?_insertAll`). Which one that is is plain where all insertions under a name agree
(`find?_insertAll_of_forall`); the entries of another table, inserted, take precedence over what was
there (`find?_insertAll_entries`). Where values are inserted under several names each, the last value
with the name counts (`find?_insertAll_flatMap`).

A table is known by its answers (`eq_of_find?`), so that the same insertions, made once more, change
nothing (`insertAll_insertAll`).
-/

namespace StructuredText

namespace NameTable

variable {α : Type}

theorem isSome_findEntry_iff {k : Text} {es : List (Text × α)} :
    (findEntry k es).isSome = true ↔ k ∈ es.map Prod.fst := by
  induction es with
  | nil => simp [findEntry]
  | cons e es ih =>
    obtain ⟨j, v⟩ := e
    by_cases hk : k = j
    · simp [findEntry, hk]
    · simp [findEntry, hk, ih]

theorem isSome_find?_iff {t : NameTable α} {k : Text} :
    (t.find? k).isSome = true ↔ k ∈ t.names := isSome_findEntry_iff

theorem find?_eq_none_iff {t : NameTable α} {k : Text} : t.find? k = none ↔ k ∉ t.names := by
  rw [← isSome_find?_iff, Option.not_isSome_iff_eq_none]

/-- Which names a table knows after insertions. -/
theorem isSome_find?_insertAll {t : NameTable α} {es : List (Text × α)} {k : Text} :
    ((t.insertAll es).find? k).isSome = true ↔ k ∈ es.map Prod.fst ∨ (t.find? k).isSome = true := by
  induction es generalizing t with
  | nil => simp [insertAll]
  | cons e es ih =>
    have hstep : t.insertAll (e :: es) = (t.insert e.1 e.2).insertAll es := rfl
    rw [hstep, ih, find?_insert, List.map_cons, List.mem_cons]
    by_cases hk : k = e.1
    · simp [hk]
    · simp [hk]

/-- What a table holds after insertions. -/
theorem mem_insertAll {t : NameTable α} {es : List (Text × α)} {e : Text × α}
    (h : e ∈ (t.insertAll es).entries) : e ∈ es ∨ e ∈ t.entries := by
  induction es generalizing t with
  | nil => exact Or.inr h
  | cons f es ih =>
    rcases ih (t := t.insert f.1 f.2) h with h | h
    · exact Or.inl (List.mem_cons_of_mem _ h)
    · rcases mem_insertEntry h with rfl | h
      · exact Or.inl (List.mem_cons_self ..)
      · exact Or.inr h

/-- After insertions a name stands for the last value that was inserted under it, or for what it
stood for. -/
theorem find?_insertAll (t : NameTable α) (es : List (Text × α)) (k : Text) :
    (t.insertAll es).find? k =
      ((es.reverse.find? fun e => e.1 = k).map Prod.snd).or (t.find? k) := by
  induction es generalizing t with
  | nil => rfl
  | cons e es ih =>
    have hstep : t.insertAll (e :: es) = (t.insert e.1 e.2).insertAll es := rfl
    rw [hstep, ih, find?_insert, List.reverse_cons, List.find?_append]
    cases es.reverse.find? fun e => e.1 = k with
    | some f => rfl
    | none =>
      by_cases hk : e.1 = k
      · simp [hk]
      · have hk' : ¬k = e.1 := fun h => hk h.symm
        simp [hk, hk']

/-- An erased name stands for nothing, and every other name for what it stood for. -/
theorem find?_erase (t : NameTable α) (k j : Text) :
    (t.erase k).find? j = if j = k then none else t.find? j := by
  have hentries : ∀ es : List (Text × α),
      findEntry j (es.filter fun e => e.1 ≠ k) = if j = k then none else findEntry j es := by
    intro es
    induction es with
    | nil => simp [findEntry]
    | cons e es ih =>
      by_cases he : e.1 = k
      · rw [List.filter_cons_of_neg (by simp [he]), ih, findEntry]
        by_cases hj : j = k
        · rw [if_pos hj, if_pos hj]
        · rw [if_neg hj, if_neg hj, if_neg (fun h => hj (h.trans he))]
      · rw [List.filter_cons_of_pos (by simp [he]), findEntry, ih, findEntry]
        by_cases hj : j = k
        · rw [if_pos hj, if_pos hj, if_neg (fun h => he (h.symm.trans hj))]
        · rw [if_neg hj, if_neg hj]
  exact hentries t.entries

theorem find?_insertAll_of_not_mem {t : NameTable α} {es : List (Text × α)} {k : Text}
    (h : k ∉ es.map Prod.fst) : (t.insertAll es).find? k = t.find? k := by
  induction es generalizing t with
  | nil => rfl
  | cons e es ih =>
    rw [List.map_cons, List.mem_cons, not_or] at h
    have hstep : t.insertAll (e :: es) = (t.insert e.1 e.2).insertAll es := rfl
    rw [hstep, ih h.2, find?_insert, if_neg h.1]

/-- **A name stands for the value that all insertions under it agree on.** -/
theorem find?_insertAll_of_forall {t : NameTable α} {es : List (Text × α)} {k : Text} {v : α}
    (hmem : (k, v) ∈ es) (hall : ∀ w, (k, w) ∈ es → w = v) : (t.insertAll es).find? k = some v := by
  induction es generalizing t with
  | nil => cases hmem
  | cons e es ih =>
    have hstep : t.insertAll (e :: es) = (t.insert e.1 e.2).insertAll es := rfl
    rw [hstep]
    by_cases hk : k ∈ es.map Prod.fst
    · obtain ⟨f, hf, rfl⟩ := List.mem_map.1 hk
      obtain rfl := hall f.2 (List.mem_cons_of_mem _ hf)
      exact ih hf fun w hw => hall w (List.mem_cons_of_mem _ hw)
    · have he : e = (k, v) := by
        rcases List.mem_cons.1 hmem with h | h
        · exact h.symm
        · exact absurd (List.mem_map_of_mem h) hk
      rw [find?_insertAll_of_not_mem hk, find?_insert, he, if_pos rfl]

/-- Insertions under changed names: those that become the same agree. -/
theorem find?_insertAll_map {t : NameTable α} {es : List (Text × α)} {g : Text → Text}
    {e : Text × α} (he : e ∈ es) (hall : ∀ f ∈ es, g f.1 = g e.1 → f.2 = e.2) :
    (t.insertAll (es.map fun f => (g f.1, f.2))).find? (g e.1) = some e.2 := by
  refine find?_insertAll_of_forall (List.mem_map.2 ⟨e, he, rfl⟩) fun w hw => ?_
  obtain ⟨f, hf, heq⟩ := List.mem_map.1 hw
  obtain ⟨hname, rfl⟩ := Prod.mk.injEq .. ▸ heq
  exact hall f hf hname

/-- Insertions under changed names, none of which is the one in question. -/
theorem find?_insertAll_map_of_forall_ne {t : NameTable α} {es : List (Text × α)} {g : Text → Text}
    {k : Text} (h : ∀ f ∈ es, g f.1 ≠ k) :
    (t.insertAll (es.map fun f => (g f.1, f.2))).find? k = t.find? k := by
  refine find?_insertAll_of_not_mem ?_
  rw [List.map_map]
  intro hmem
  obtain ⟨f, hf, hname⟩ := List.mem_map.1 hmem
  exact h f hf hname

theorem find?_insertAll_entries (t top : NameTable α) (k : Text) :
    (t.insertAll top.entries).find? k = (top.find? k).or (t.find? k) := by
  cases h : top.find? k with
  | some v =>
    exact find?_insertAll_of_forall (find?_eq_some_iff.1 h) fun w hw => by
      rw [← find?_eq_some_iff, h, Option.some.injEq] at hw
      exact hw.symm
  | none =>
    refine find?_insertAll_of_not_mem fun hk => ?_
    rw [← names, ← isSome_find?_iff, h] at hk
    cases hk

/-- Insertions of one value after the other, each under names of its own: a name stands for the last
value that has it among its names. -/
theorem find?_insertAll_flatMap {β : Type} (t : NameTable α) (xs : List β)
    (names : β → List Text) (value : β → α) (k : Text) :
    (t.insertAll (xs.flatMap fun x => (names x).map fun n => (n, value x))).find? k =
      ((xs.reverse.find? fun x => (names x).contains k).map value).or (t.find? k) := by
  induction xs generalizing t with
  | nil => rfl
  | cons x xs ih =>
    have hone : (t.insertAll ((names x).map fun n => (n, value x))).find? k =
        if k ∈ names x then some (value x) else t.find? k := by
      split
      · next hk =>
        refine find?_insertAll_of_forall (List.mem_map_of_mem hk) fun w hw => ?_
        obtain ⟨n, -, heq⟩ := List.mem_map.1 hw
        exact (Prod.mk.injEq .. ▸ heq).2.symm
      · next hk =>
        refine find?_insertAll_of_not_mem fun hmem => hk ?_
        obtain ⟨e, he, rfl⟩ := List.mem_map.1 hmem
        obtain ⟨n, hn, rfl⟩ := List.mem_map.1 he
        exact hn
    rw [List.flatMap_cons, insertAll, List.foldl_append, ← insertAll, ← insertAll, ih, hone,
      List.reverse_cons, List.find?_append]
    cases xs.reverse.find? fun x => (names x).contains k with
    | some y => rfl
    | none =>
      by_cases hk : k ∈ names x
      · simp [hk]
      · simp [hk]

/-- Tables that answer alike are the same, since their entries are in order. -/
theorem eq_of_find? {t u : NameTable α} (h : ∀ k, t.find? k = u.find? k) : t = u := by
  have hmem : ∀ e, e ∈ t.entries ↔ e ∈ u.entries := by
    rintro ⟨k, v⟩
    rw [← find?_eq_some_iff, ← find?_eq_some_iff, h]
  have hnodup : ∀ v : NameTable α, v.entries.Nodup := by
    intro v
    refine v.ordered.imp fun {e f} hlt heq => ?_
    rw [heq] at hlt
    exact List.lt_irrefl f.1 hlt
  have hperm := (List.perm_ext_iff_of_nodup (hnodup t) (hnodup u)).2 hmem
  have hentries : t.entries = u.entries :=
    hperm.eq_of_pairwise (fun e f _ _ hef hfe => absurd hef (List.lt_asymm hfe)) t.ordered u.ordered
  cases t
  cases u
  cases hentries
  rfl

/-- A second run of the same insertions changes nothing. -/
theorem insertAll_insertAll (t : NameTable α) (es : List (Text × α)) :
    (t.insertAll es).insertAll es = t.insertAll es := by
  refine eq_of_find? fun k => ?_
  rw [find?_insertAll (t.insertAll es), find?_insertAll t, ← Option.or_assoc, Option.or_self]

end NameTable

end StructuredText

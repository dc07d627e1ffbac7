import StructuredText.Text.Basic

/-!
# Tables by name

A table holds one value for each name it knows and lists them in the order of the names, which is
the order of their code points. Inserting a name that is already there replaces its value. What a
table answers after an insertion is `find?_insert`; every other fact about look-ups follows from it.
Since the names ascend, a name has one entry, and it is the one that a look-up finds
(`find?_eq_some_iff`).
-/

namespace StructuredText

/-- Values by name, in ascending order of the names. -/
structure NameTable (α : Type) where
  entries : List (Text × α)
  ordered : entries.Pairwise fun e f => e.1 < f.1

namespace NameTable

variable {α : Type}

/-- The table without entries. -/
def empty : NameTable α := ⟨[], .nil⟩

/-- Puts a value at the place of its name, over the value that was there. -/
def insertEntry (k : Text) (v : α) : List (Text × α) → List (Text × α)
  | [] => [(k, v)]
  | (j, w) :: es =>
    if k = j then (k, v) :: es
    else if k < j then (k, v) :: (j, w) :: es
    else (j, w) :: insertEntry k v es

theorem mem_insertEntry {k : Text} {v : α} {e : Text × α} {es : List (Text × α)}
    (h : e ∈ insertEntry k v es) : e = (k, v) ∨ e ∈ es := by
  induction es with
  | nil => exact Or.inl (List.mem_singleton.1 h)
  | cons f es ih =>
    obtain ⟨j, w⟩ := f
    rw [insertEntry] at h
    split at h
    · exact (List.mem_cons.1 h).imp_right (List.mem_cons_of_mem _)
    · split at h
      · exact List.mem_cons.1 h
      · rcases List.mem_cons.1 h with rfl | h
        · exact Or.inr (List.mem_cons_self ..)
        · exact (ih h).imp_right (List.mem_cons_of_mem _)

/-- An insertion keeps the names in order. -/
theorem ordered_insertEntry {k : Text} {v : α} {es : List (Text × α)}
    (h : es.Pairwise fun e f => e.1 < f.1) :
    (insertEntry k v es).Pairwise fun e f => e.1 < f.1 := by
  induction es with
  | nil => exact List.pairwise_singleton ..
  | cons e es ih =>
    obtain ⟨j, w⟩ := e
    obtain ⟨hj, hes⟩ := List.pairwise_cons.1 h
    rw [insertEntry]
    split
    · next hkj => exact List.pairwise_cons.2 ⟨fun f hf => hkj ▸ hj f hf, hes⟩
    · next hkj =>
      split
      · next hlt =>
        refine List.pairwise_cons.2 ⟨fun f hf => ?_, h⟩
        rcases List.mem_cons.1 hf with rfl | hf
        · exact hlt
        · exact List.lt_trans hlt (hj f hf)
      · next hlt =>
        refine List.pairwise_cons.2 ⟨fun f hf => ?_, ih hes⟩
        rcases mem_insertEntry hf with rfl | hf
        · exact Decidable.byContradiction fun h => hkj (Std.Trichotomous.trichotomous k j hlt h)
        · exact hj f hf

/-- The value of the first entry with this name. -/
def findEntry (k : Text) : List (Text × α) → Option α
  | [] => none
  | (j, w) :: es => if k = j then some w else findEntry k es

/-- Sets the value of a name. -/
def insert (t : NameTable α) (k : Text) (v : α) : NameTable α :=
  ⟨insertEntry k v t.entries, ordered_insertEntry t.ordered⟩

/-- The value of a name. -/
def find? (t : NameTable α) (k : Text) : Option α := findEntry k t.entries

/-- Removes the entries of a name. -/
def erase (t : NameTable α) (k : Text) : NameTable α :=
  ⟨t.entries.filter fun e => e.1 ≠ k, t.ordered.filter _⟩

/-- Inserts the pairs from first to last, so that a later pair wins. -/
def insertAll (t : NameTable α) (es : List (Text × α)) : NameTable α :=
  es.foldl (fun t e => t.insert e.1 e.2) t

/-- The table of the pairs, a later pair winning over an earlier one of the same name. -/
def ofList (es : List (Text × α)) : NameTable α := empty.insertAll es

/-- The names in ascending order. -/
def names (t : NameTable α) : List Text := t.entries.map Prod.fst

/-- Whether the table has no entry. -/
def isEmpty (t : NameTable α) : Bool := t.entries.isEmpty

/-- The number of entries. -/
def size (t : NameTable α) : Nat := t.entries.length

instance : EmptyCollection (NameTable α) := ⟨empty⟩

theorem findEntry_insertEntry (k j : Text) (v : α) (es : List (Text × α)) :
    findEntry j (insertEntry k v es) = if j = k then some v else findEntry j es := by
  induction es with
  | nil => simp [insertEntry, findEntry]
  | cons e es ih =>
    obtain ⟨i, w⟩ := e
    by_cases hki : k = i
    · subst hki
      by_cases hj : j = k <;> simp [insertEntry, findEntry, hj]
    · by_cases hlt : k < i
      · by_cases hj : j = k <;> simp [insertEntry, findEntry, hki, hlt, hj]
      · by_cases hj : j = i
        · have hik : i ≠ k := fun h => hki h.symm
          simp [insertEntry, findEntry, hki, hlt, hj, hik]
        · simp [insertEntry, findEntry, hki, hlt, hj, ih]

/-- After an insertion a look-up of the inserted name gives its value, and every other look-up
what it gave before. -/
theorem find?_insert (t : NameTable α) (k j : Text) (v : α) :
    (t.insert k v).find? j = if j = k then some v else t.find? j :=
  findEntry_insertEntry k j v t.entries

theorem findEntry_eq_some_mem {k : Text} {v : α} {es : List (Text × α)}
    (h : findEntry k es = some v) : (k, v) ∈ es := by
  induction es with
  | nil => simp [findEntry] at h
  | cons e es ih =>
    obtain ⟨j, w⟩ := e
    by_cases hk : k = j
    · simp [findEntry, hk] at h; simp [hk, h]
    · simp [findEntry, hk] at h; exact List.mem_cons_of_mem _ (ih h)

/-- In order, an entry is the first one of its name. -/
theorem findEntry_of_mem {k : Text} {v : α} {es : List (Text × α)}
    (hes : es.Pairwise fun e f => e.1 < f.1) (h : (k, v) ∈ es) : findEntry k es = some v := by
  induction es with
  | nil => cases h
  | cons e es ih =>
    obtain ⟨j, w⟩ := e
    obtain ⟨hj, hes⟩ := List.pairwise_cons.1 hes
    rw [findEntry]
    rcases List.mem_cons.1 h with heq | hmem
    · cases heq
      rw [if_pos rfl]
    · have hne : k ≠ j := by
        rintro rfl
        have hlt : k < k := hj (k, v) hmem
        exact List.lt_irrefl k hlt
      rw [if_neg hne, ih hes hmem]

/-- **A look-up finds the entry of the name.** -/
theorem find?_eq_some_iff {t : NameTable α} {k : Text} {v : α} :
    t.find? k = some v ↔ (k, v) ∈ t.entries :=
  ⟨findEntry_eq_some_mem, findEntry_of_mem t.ordered⟩

/-- Erasing a name that is present leaves fewer entries. -/
theorem size_erase_lt {t : NameTable α} {k : Text} {v : α} (h : t.find? k = some v) :
    (t.erase k).size < t.size := by
  have hmem := findEntry_eq_some_mem h
  have hlt : (t.entries.filter fun e => decide (e.1 ≠ k)).length < t.entries.length :=
    List.length_filter_lt_length_iff_exists.2 ⟨(k, v), hmem, by simp⟩
  exact hlt

end NameTable

end StructuredText

import StructuredText.Text.Basic

/-!
# Options of an invocation

The options given to a directive, in the order in which they were written. A name stands at most
once; the second occurrence of a name is refused where it is read. An option that was written
without a value has none.
-/

namespace StructuredText

/-- The options given to a directive, in source order and each at most once. -/
structure Options where
  entries : List (Text × Option Text)
  distinct : (entries.map Prod.fst).Nodup
  deriving DecidableEq, Repr

namespace Options

/-- No options. -/
def empty : Options := ⟨[], List.nodup_nil⟩

instance : EmptyCollection Options := ⟨empty⟩

/-- The names in source order. -/
def names (o : Options) : List Text := o.entries.map Prod.fst

/-- The entry of a name in a list of options. -/
def findEntry (name : Text) : List (Text × Option Text) → Option (Option Text)
  | [] => none
  | (n, v) :: es => if n = name then some v else findEntry name es

/-- The entry of a name: whether it is there, and with which value. -/
def find? (o : Options) (name : Text) : Option (Option Text) := findEntry name o.entries

/-- The value of a name, if it is there and has one. -/
def value? (o : Options) (name : Text) : Option Text := (o.find? name).join

/-- Whether the name is there. -/
def contains (o : Options) (name : Text) : Bool := decide (name ∈ o.names)

/-- The number of options. -/
def size (o : Options) : Nat := o.entries.length

/-- Adds an option at the end, unless its name is there already. -/
def insert? (o : Options) (name : Text) (value : Option Text) : Option Options :=
  if h : name ∈ o.names then none
  else some ⟨o.entries ++ [(name, value)], by
    rw [List.map_append, List.nodup_append]
    refine ⟨o.distinct, by simp, ?_⟩
    intro a ha b hb
    simp only [List.map_cons, List.map_nil, List.mem_singleton] at hb
    subst hb
    exact fun hab => h (hab ▸ ha)⟩

theorem insert?_eq_none_iff (o : Options) (name : Text) (value : Option Text) :
    o.insert? name value = none ↔ name ∈ o.names := by
  unfold insert?
  split <;> simp_all

/-- An accepted option is added at the end and changes nothing else. -/
theorem entries_of_insert? {o o' : Options} {name : Text} {value : Option Text}
    (h : o.insert? name value = some o') : o'.entries = o.entries ++ [(name, value)] := by
  unfold insert? at h
  split at h
  · simp at h
  · simp only [Option.some.injEq] at h
    rw [← h]

end Options

end StructuredText

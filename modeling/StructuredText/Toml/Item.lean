import StructuredText.Toml.Value

/-!
# Building the tables of a settings file

The tables of a settings file come about in several ways: by a header, by a key with several parts,
as a step on the way to another table, or as elements of an array of tables. While the file is read
each table remembers how it came about, since that decides what may still be added to it:

* a header may not define a table again, but it may define one that was only a step so far;
* a key with several parts may not reach into a table that a header defined, but it may add to one
  that was only a step, which stays a step;
* a value that is complete, such as a table in braces, cannot be extended at all.
-/

namespace StructuredText.Toml

/-- How a table came about. -/
inductive Origin where
  /-- As a step on the way to a table that a header defines. -/
  | step
  /-- By a key with several parts. -/
  | dotted
  /-- By a header, or as the table of the whole file. -/
  | defined
  deriving DecidableEq, Repr

/-- What stands under a key while the file is read. -/
inductive Item where
  /-- A complete value. -/
  | value (v : Value)
  | table (origin : Origin) (entries : List (Text × Item))
  /-- An array of tables, the latest first. -/
  | tables (latest : List (Text × Item)) (earlier : List (List (Text × Item)))
  deriving Repr

/-- The entries of a table. -/
abbrev Entries := List (Text × Item)

/-- Changes the item under a key; the change is given the present item, if any. -/
def alter (key : Text) (change : Option Item → Option Item) : Entries → Option Entries
  | [] => (change none).map fun i => [(key, i)]
  | (k, i) :: es =>
    if k = key then (change (some i)).map fun i => (k, i) :: es
    else (alter key change es).map fun es => (k, i) :: es

/-- Sets a key that is not there yet. -/
def addNew (key : Text) (item : Item) : Entries → Option Entries :=
  alter key fun
    | none => some item
    | some _ => none

/-- Changes the table at the end of a path of steps to a header, making the tables that are
missing. -/
def underHeader : (path : List Text) → (change : Entries → Option Entries) → Entries →
    Option Entries
  | [], change => change
  | key :: path, change =>
    alter key fun
      | none => (underHeader path change []).map (.table .step)
      | some (.table origin es) => (underHeader path change es).map (.table origin)
      | some (.tables latest earlier) =>
        (underHeader path change latest).map fun latest => .tables latest earlier
      | some (.value _) => none

/-- Adds a value under a key with several parts. The last part has to be new. A table on the way is
one that no header defined, or is made now; only the table that receives the value may not be the
latest of an array. -/
def addDotted (value : Value) : (path : List Text) → (key : Text) → Entries → Option Entries
  | [], key => addNew key (.value value)
  | part :: path, key =>
    alter part fun
      | none => (addDotted value path key []).map (.table .dotted)
      | some (.table .defined _) => none
      | some (.table origin es) => (addDotted value path key es).map (.table origin)
      | some (.tables latest earlier) =>
        if path = [] then none
        else (addDotted value path key latest).map fun latest => .tables latest earlier
      | some (.value _) => none

/-- Defines the table of a header in the table that holds it. -/
def defineTable (key : Text) : Entries → Option Entries :=
  alter key fun
    | none => some (.table .defined [])
    | some (.table .step es) => some (.table .defined es)
    | some _ => none

/-- Adds a table to the array of tables of a header. -/
def appendTable (key : Text) : Entries → Option Entries :=
  alter key fun
    | none => some (.tables [] [])
    | some (.tables latest earlier) => some (.tables [] (latest :: earlier))
    | some _ => none

mutual

/-- The value that an item amounts to once the file has been read. -/
def Item.toValue : Item → Value
  | .value v => v
  | .table _ es => .table (Item.entriesToValues es)
  | .tables latest earlier =>
    .array (Item.tablesToValues earlier ++ [.table (Item.entriesToValues latest)])

/-- The values of the entries of a table. -/
def Item.entriesToValues : List (Text × Item) → List (Text × Value)
  | [] => []
  | (k, i) :: es => (k, i.toValue) :: Item.entriesToValues es

/-- The values of an array of tables that is given from the latest to the earliest. -/
def Item.tablesToValues : List (List (Text × Item)) → List Value
  | [] => []
  | es :: ess => Item.tablesToValues ess ++ [.table (Item.entriesToValues es)]

end

end StructuredText.Toml

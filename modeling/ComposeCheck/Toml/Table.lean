import ComposeCheck.Toml.Value

/-!
# Building tables

A table may be written in several places, under rules of its own: a table that a header or an
inline form has written is closed to dotted keys, a table that dotted keys have made is closed to
headers, and a key is written once. A draft keeps how each table came about; when the document is
read, the drafts become values.
-/

namespace ComposeCheck.Toml

/-- How a table came about. -/
inductive Origin where
  /-- A header named it, or it is an item of an array of tables, or the document itself. -/
  | written
  /-- It stands on the path of a header. -/
  | implied
  /-- It stands on the path of a dotted key. -/
  | dotted
  deriving DecidableEq

/-- What stands under a key while a document is read. -/
inductive Slot where
  | value (value : TomlValue)
  | table (origin : Origin) (entries : List (String × Slot))
  | tables (items : List (List (String × Slot)))

/-- The entries of a table while a document is read. -/
abbrev Draft := List (String × Slot)

namespace Draft

/-- Puts a slot under a key, in the place of an earlier one if there is one, else at the end. -/
def put (draft : Draft) (key : String) (slot : Slot) : Draft :=
  match draft with
  | [] => [(key, slot)]
  | entry :: draft =>
    if entry.1 = key then (key, slot) :: draft else entry :: put draft key slot

/-- Puts a slot under a key at the end. -/
def putLast (draft : Draft) (key : String) (slot : Slot) : Draft :=
  (draft.filter fun entry => entry.1 != key) ++ [(key, slot)]

/-- Changes the table at the end of a path; missing tables on the way are made. Of an array of
tables the last one is meant. -/
def change (origin : Origin) (f : Origin → Draft → Option Draft) :
    (path : List String) → Origin → Draft → Option Draft
  | [], here, draft => f here draft
  | key :: path, _, draft =>
    match draft.lookup key with
    | none => (change origin f path origin []).map fun inner =>
        draft.put key (.table origin inner)
    | some (.value _) => none
    | some (.table existing inner) =>
      if origin = .dotted ∧ existing = .written then none
      else (change origin f path existing inner).map fun inner =>
        draft.put key (.table existing inner)
    | some (.tables items) =>
      match items.getLast? with
      | none => none
      | some last => (change origin f path .written last).map fun inner =>
          draft.put key (.tables (items.dropLast ++ [inner]))

/-- Writes a value under a key, in a table that the dots before the key lead to. -/
def assign (draft : Draft) (path : List String) (key : String) (value : TomlValue) :
    Option Draft :=
  draft.change .dotted (fun here inner =>
    if path ≠ [] ∧ here ≠ .dotted then none
    else if (inner.lookup key).isSome then none
    else some (inner.put key (.value value))) path .written

/-- Writes assignments one after the other. -/
def assignAll (draft : Draft) (assignments : List (List String × String × TomlValue)) :
    Option Draft :=
  assignments.foldlM (fun draft (path, key, value) => draft.assign path key value) draft

/-- Writes the table of a header at the end of the table around it. It must be new, or stand only on
the paths of other headers. -/
def writeTable (draft : Draft) (path : List String) (key : String)
    (assignments : List (List String × String × TomlValue)) : Option Draft :=
  draft.change .implied (fun _ outer =>
    let start := match outer.lookup key with
      | none => some []
      | some (.table .implied inner) => some inner
      | some _ => none
    start.bind fun inner =>
      (assignAll inner assignments).map fun inner => outer.putLast key (.table .written inner))
    path .written

/-- Adds one more table to an array of tables. -/
def addTable (draft : Draft) (path : List String) (key : String)
    (assignments : List (List String × String × TomlValue)) : Option Draft :=
  draft.change .implied (fun _ outer =>
    let start := match outer.lookup key with
      | none => some []
      | some (.tables items) => some items
      | some _ => none
    start.bind fun items =>
      (assignAll [] assignments).map fun item => outer.put key (.tables (items ++ [item])))
    path .written

end Draft

mutual

/-- The value in a slot. -/
def Slot.toValue : Slot → TomlValue
  | .value value => value
  | .table _ entries => .table (entriesOf entries)
  | .tables items => .array (tablesOf items)

/-- The entries of a table. -/
def entriesOf : List (String × Slot) → List (String × TomlValue)
  | [] => []
  | (key, slot) :: entries => (key, slot.toValue) :: entriesOf entries

/-- The tables of an array. -/
def tablesOf : List (List (String × Slot)) → List TomlValue
  | [] => []
  | item :: items => .table (entriesOf item) :: tablesOf items

end

end ComposeCheck.Toml
